import HostVitals.Text.GraphemeExtend
import HostVitals.Text.Unprintable

/-!
# Quoted text

How a message shows a piece of input: between double quotes, with escapes for the
quote, the backslash, the common controls, and every character that would not be
seen or would change the character before it. The escapes of the last kind give
the code point in hexadecimal.

* `isHidden`: the characters that would not be seen.
* `joinsPrevious`: the characters that would change the one before them.
-/

namespace HostVitals.Text

/-- The code point of `c` in lower-case hexadecimal. -/
def hexDigits (c : Char) : List Char :=
  Nat.toDigits 16 c.toNat

/-- The Hangul fillers: letters that keep a place and show nothing. -/
def isFiller (c : Char) : Bool :=
  c == '\u115f' || c == '\u1160' || c == '\u3164' || c == '\uffa0'

/-- The character would not be seen. -/
def isHidden (c : Char) : Bool :=
  unprintable.contains c || isFiller c

/-- The character would change the one before it. The two halfwidth sound marks extend a
grapheme but stand on their own. -/
def joinsPrevious (c : Char) : Bool :=
  graphemeExtend.contains c && c != '\uff9e' && c != '\uff9f'

/-- A character as it stands in a quoted text. -/
def quoteChar (c : Char) : List Char :=
  if c = '\x00' then ['\\', '0']
  else if c = '\t' then ['\\', 't']
  else if c = '\r' then ['\\', 'r']
  else if c = '\n' then ['\\', 'n']
  else if c = '"' then ['\\', '"']
  else if c = '\\' then ['\\', '\\']
  else if joinsPrevious c || isHidden c then
    ['\\', 'u', '\x7b'] ++ hexDigits c ++ ['\x7d']
  else [c]

/-- A text between double quotes. -/
def quote (cs : List Char) : String :=
  String.ofList (('"' :: cs.flatMap quoteChar) ++ ['"'])

example : quoteChar '\u0301' = "\\u\x7b301\x7d".toList := by decide +kernel
example : quoteChar '\u3164' = "\\u\x7b3164\x7d".toList := by decide +kernel
example : quoteChar '\uff9e' = ['\uff9e'] := by decide +kernel
example : quoteChar '\'' = ['\''] := by decide +kernel

end HostVitals.Text
