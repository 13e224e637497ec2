import HostVitals.Decimal.Layout

/-!
# JSON text

The values that are served, and their compact written form. Members keep the order
in which they are given. A number that is not finite has no JSON form and is
written as `null`.
-/

namespace HostVitals

open Decimal (Layout Reading)

/-- A JSON value. -/
inductive Json where
  | null
  | integer (n : Int)
  | float (x : Float)
  | string (s : String)
  | object (members : List (String × Json))

namespace Json

/-- Numbers are written out in full from 0.00001 up to 10^16, with the sign of every
power of ten beyond that; a tie between digit strings goes to the even one. -/
def floatLayout : Layout where
  tie := .even
  plainFrom := -5
  plainBelow := 16
  positiveMark := "e+"

/-- The text of a float. -/
def floatText (x : Float) : String :=
  match Reading.ofFloat x with
  | .nan => "null"
  | .infinite _ => "null"
  | .zero negative => floatLayout.finite negative none
  | .finite negative magnitude => floatLayout.finite negative (some magnitude)

/-- A character inside a string: quotes, backslashes and controls are escaped. -/
def escapeChar (c : Char) : List Char :=
  if c = '"' then ['\\', '"']
  else if c = '\\' then ['\\', '\\']
  else if c = '\x08' then ['\\', 'b']
  else if c = '\x0c' then ['\\', 'f']
  else if c = '\n' then ['\\', 'n']
  else if c = '\r' then ['\\', 'r']
  else if c = '\t' then ['\\', 't']
  else if c.toNat < 0x20 then
    ['\\', 'u', '0', '0', Nat.digitChar (c.toNat / 16), Nat.digitChar (c.toNat % 16)]
  else [c]

/-- A string between quotes. -/
def stringText (s : String) : String :=
  String.ofList ('"' :: s.toList.flatMap escapeChar ++ ['"'])

mutual

/-- The written form of a value. -/
def render : Json → String
  | .null => "null"
  | .integer n => toString n
  | .float x => floatText x
  | .string s => stringText s
  | .object members => "\x7b" ++ renderMembers members ++ "\x7d"

/-- The written form of the members of an object, with commas between them. -/
def renderMembers : List (String × Json) → String
  | [] => ""
  | [(name, value)] => stringText name ++ ":" ++ value.render
  | (name, value) :: rest => stringText name ++ ":" ++ value.render ++ "," ++ renderMembers rest

end

/-- The value of the first member called `name`. -/
def member? (name : String) : Json → Option Json
  | .object members => members.lookup name
  | _ => none

end Json

end HostVitals
