/-!
# TOML values

The values of a TOML document. A table remembers how it came to be, because that
decides what may still be added to it.

* `Value.isSound`: every number in a value can be represented.
* `Table.descend`: changes the table at the end of a path.
-/

namespace HostVitals.Toml

/-- How a table was introduced. -/
inductive TableOrigin where
  /-- By a header of its own, or as the document itself. -/
  | header
  /-- On the way to the table of a header. -/
  | onTheWay
  /-- On the way to the value of a dotted key, whether or not a header had passed it before. -/
  | dotted
  /-- Between braces; nothing can be added to it later. -/
  | inlined
  deriving DecidableEq, Repr

/-- A value. -/
inductive Value where
  | string (s : String)
  /-- An integer. It has no value if its text is not all digits. -/
  | integer (n? : Option Int)
  /-- A float, unless its magnitude is beyond every finite number. -/
  | float (x? : Option Float)
  | boolean (b : Bool)
  | datetime
  | array (items : List Value)
  /-- Tables that were each introduced by a header in double brackets, the last first. -/
  | tables (latest : List (List (String × Value)))
  | table (origin : TableOrigin) (entries : List (String × Value))

/-- The entries of a table, in the order in which they were added. -/
abbrev Table := List (String × Value)

namespace Value

/-- Integers of 128 bits are below this bound; negative ones reach down to half of it. -/
def integerBound : Int := UInt64.size * UInt64.size

mutual

/-- The integers have a value that fits 128 bits and the floats are not too large. -/
def isSound : Value → Bool
  | .integer n? => n?.any fun n => -(integerBound / 2) ≤ n && n < integerBound
  | .float x? => x?.isSome
  | .array items => allSound items
  | .tables latest => allTablesSound latest
  | .table _ entries => entriesSound entries
  | _ => true

/-- `isSound` of every item. -/
def allSound : List Value → Bool
  | [] => true
  | v :: vs => v.isSound && allSound vs

/-- `isSound` of every value of a table. -/
def entriesSound : List (String × Value) → Bool
  | [] => true
  | (_, v) :: rest => v.isSound && entriesSound rest

/-- `isSound` of every value of several tables. -/
def allTablesSound : List (List (String × Value)) → Bool
  | [] => true
  | t :: ts => entriesSound t && allTablesSound ts

end

end Value

namespace Table

/-- Replaces the value under a key, or adds it at the end. -/
def set (key : String) (value : Value) : Table → Table
  | [] => [(key, value)]
  | (k, v) :: rest => if k = key then (k, value) :: rest else (k, v) :: set key value rest

/-- Changes the table at the end of a path, and makes the tables on the way with the
given origin. Where the way leads through tables in double brackets, the last one is
meant. A dotted key cannot pass a table that has a header, and takes over those that were
only on the way to one. -/
def descend (origin : TableOrigin) (f : TableOrigin → Table → Option Table) :
    List String → TableOrigin → Table → Option Table
  | [], here, entries => f here entries
  | key :: path, _, entries =>
    match entries.lookup key with
    | none => do
      let inner ← descend origin f path origin []
      return set key (.table origin inner) entries
    | some (.table .inlined _) => none
    | some (.table there inner) =>
      if origin = .dotted ∧ there = .header then none
      else do
        let there := if origin = .dotted then .dotted else there
        let inner ← descend origin f path there inner
        return set key (.table there inner) entries
    | some (.tables (last :: before)) => do
      let last ← descend origin f path .header last
      return set key (.tables (last :: before)) entries
    | some _ => none

/-- Adds the value of a dotted key. The key must be new, and the table that holds it must
have been introduced in the same way. -/
def addDotted (path : List String) (key : String) (value : Value) (entries : Table) :
    Option Table :=
  descend .dotted (fun here inner =>
    if (here == .dotted) != path.isEmpty ∧ (inner.lookup key).isNone then
      some (inner ++ [(key, value)])
    else none) path .header entries

/-- Opens the table of a header. It must be new, or have been passed on the way to
another one. -/
def openTable (path : List String) (key : String) (root : Table) : Option Table :=
  descend .onTheWay (fun _ inner =>
    match inner.lookup key with
    | none => some (inner ++ [(key, .table .header [])])
    | some (.table .onTheWay entries) => some (set key (.table .header entries) inner)
    | some _ => none) path .header root

/-- Opens one more table under a header in double brackets. -/
def openNext (path : List String) (key : String) (root : Table) : Option Table :=
  descend .onTheWay (fun _ inner =>
    match inner.lookup key with
    | none => some (inner ++ [(key, .tables [[]])])
    | some (.tables before) => some (set key (.tables ([] :: before)) inner)
    | some _ => none) path .header root

end Table

end HostVitals.Toml
