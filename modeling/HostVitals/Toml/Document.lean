import HostVitals.Toml.Token

/-!
# TOML documents

`Document.read?` gives the table that a text describes, or `none` if the text is not a
document. Values may be nested up to a limit, and a key may have as many parts.
-/

namespace HostVitals.Toml

/-- How deep arrays and inline tables may be nested, and how many parts a key may have. -/
def nestingLimit : Nat := 80

mutual

/-- A value; `depth` more levels may follow, and `fuel` bounds the work. -/
def readValue? : Nat → Nat → List Char → Option (Value × List Char)
  | 0, _, _ => none
  | fuel + 1, depth, cs =>
    match cs with
    | '[' :: rest =>
      match depth with
      | 0 => none
      | depth + 1 => do
        let (items, rest) ← readItems? fuel depth rest
        return (.array items, rest)
    | '\x7b' :: rest =>
      match depth with
      | 0 => none
      | depth + 1 => do
        let (entries, rest) ← readMembers? fuel depth [] rest
        return (.table .inlined entries, rest)
    | '"' :: _ => (readString? cs).map fun (s, rest) => (.string s, rest)
    | '\'' :: _ => (readString? cs).map fun (s, rest) => (.string s, rest)
    | _ => readScalar? cs

/-- The items of an array, after the opening bracket or a comma. -/
def readItems? : Nat → Nat → List Char → Option (List Value × List Char)
  | 0, _, _ => none
  | fuel + 1, depth, cs =>
    match skipLayout false cs with
    | ']' :: rest => some ([], rest)
    | cs => do
      let (item, rest) ← readValue? fuel depth cs
      match skipLayout false rest with
      | ',' :: rest => do
        let (items, rest) ← readItems? fuel depth rest
        return (item :: items, rest)
      | ']' :: rest => return ([item], rest)
      | _ => none

/-- The members of an inline table, after the opening brace or a comma. -/
def readMembers? : Nat → Nat → Table → List Char → Option (Table × List Char)
  | 0, _, _, _ => none
  | fuel + 1, depth, entries, cs =>
    match skipLayout false cs with
    | '\x7d' :: rest => some (entries, rest)
    | cs => do
      let (path, rest) ← readKey? nestingLimit cs
      let '=' :: rest := skipLayout false rest | none
      let (value, rest) ← readValue? fuel depth (skipLayout false rest)
      let key ← path.getLast?
      let entries ← Table.addDotted path.dropLast key value entries
      match skipLayout false rest with
      | ',' :: rest => readMembers? fuel depth entries rest
      | '\x7d' :: rest => return (entries, rest)
      | _ => none

end

/-- The table read so far, and the path of the header under which keys are added. -/
structure Document where
  root : Table
  header : List String

namespace Document

/-- Opens the table of a header. -/
def openHeader (document : Document) (path : List String) (next : Bool) : Option Document := do
  let key ← path.getLast?
  let root ← if next then Table.openNext path.dropLast key document.root
    else Table.openTable path.dropLast key document.root
  return { root, header := path }

/-- Adds a key and its value under the current header. -/
def addKey (document : Document) (path : List String) (value : Value) : Option Document := do
  let key ← path.getLast?
  let root ← Table.descend .onTheWay (fun _ => Table.addDotted path.dropLast key value)
    document.header .header document.root
  return { document with root }

/-- What follows the header of a table, and its path. -/
def readHeader? (cs : List Char) : Option (List String × List Char) := do
  let (path, rest) ← readKey? nestingLimit cs
  let ']' :: rest := rest | none
  return (path, rest)

/-- Reads the lines of a document; `fuel` bounds their number. -/
def readLines? : Nat → Document → List Char → Option Document
  | 0, _, _ => none
  | fuel + 1, document, cs =>
    match skipGap cs with
    | [] => some document
    | '[' :: '[' :: rest => do
      let (path, rest) ← readHeader? rest
      let ']' :: rest := rest | none
      let document ← document.openHeader path true
      readLines? fuel document (← endLine? rest)
    | '[' :: rest => do
      let (path, rest) ← readHeader? rest
      let document ← document.openHeader path false
      readLines? fuel document (← endLine? rest)
    | c :: rest =>
      match endLine? (c :: rest) with
      | some rest => readLines? fuel document rest
      | none => do
        let (path, rest) ← readKey? nestingLimit (c :: rest)
        let '=' :: rest := rest | none
        let rest := skipGap rest
        let (value, rest) ← readValue? (2 * rest.length + 2) nestingLimit rest
        let document ← document.addKey path value
        readLines? fuel document (← endLine? rest)

/-- Reads a document. A byte order mark in front is skipped. -/
def read? (text : String) : Option Table := do
  let cs := text.toList
  let cs := if cs.head? = some '\ufeff' then cs.tail else cs
  let document ← readLines? (cs.length + 1) { root := [], header := [] } cs
  return document.root

end Document

end HostVitals.Toml
