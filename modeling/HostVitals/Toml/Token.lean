import HostVitals.Decimal.Reader
import HostVitals.Toml.Value

/-!
# TOML tokens

Blanks, comments, keys, strings, numbers and dates: the parts of a document that hold
no other values. A reader takes what it reads off the front of a text, and gives `none`
when the text does not begin with it.

Numbers and dates are read in two steps: `spanScalar` finds their text, and `scalarOf?`
says what it stands for.
-/

namespace HostVitals.Toml

/-! ## Blanks and comments -/

/-- A blank within a line. -/
def isGap (c : Char) : Bool :=
  c == ' ' || c == '\t'

/-- A character that may stand in a comment or a string. -/
def isTextChar (c : Char) : Bool :=
  c == '\t' || (0x20 ≤ c.toNat && c.toNat != 0x7F)

/-- A text without the blanks in front. -/
def skipGap (cs : List Char) : List Char :=
  cs.dropWhile isGap

/-- What follows a line end. -/
def newline? : List Char → Option (List Char)
  | '\n' :: rest => some rest
  | '\r' :: '\n' :: rest => some rest
  | _ => none

def skipComment : List Char → List Char
  | '#' :: rest => rest.dropWhile isTextChar
  | cs => cs

/-- What follows the line, if nothing but blanks and a comment is left of it. -/
def endLine? (cs : List Char) : Option (List Char) :=
  match skipComment (skipGap cs) with
  | [] => some []
  | cs => newline? cs

/-- A text without the blanks, line ends and comments in front; `comment` tells that the
text begins inside a comment. -/
def skipLayout : Bool → List Char → List Char
  | _, [] => []
  | comment, c :: rest =>
    if comment && isTextChar c then skipLayout true rest
    else if isGap c || c == '\n' then skipLayout false rest
    else if c == '\r' && rest.head? == some '\n' then skipLayout false rest
    else if !comment && c == '#' then skipLayout true rest
    else c :: rest

/-! ## Strings -/

def hexValue? (c : Char) : Option Nat :=
  if '0' ≤ c ∧ c ≤ '9' then some (c.toNat - 48)
  else if 'a' ≤ c ∧ c ≤ 'f' then some (c.toNat - 87)
  else if 'A' ≤ c ∧ c ≤ 'F' then some (c.toNat - 55)
  else none

/-- The character whose code point is given by the next `n` hexadecimal digits. -/
def readCodePoint (n : Nat) (cs : List Char) : Option (Char × List Char) := do
  let digits ← (cs.take n).mapM hexValue?
  let value := digits.foldl (fun v d => v * 16 + d) 0
  if digits.length = n ∧ value.isValidChar then some (Char.ofNat value, cs.drop n) else none

/-- The character of an escape, after the backslash. -/
def readEscape : List Char → Option (Char × List Char)
  | 'b' :: rest => some ('\x08', rest)
  | 't' :: rest => some ('\t', rest)
  | 'n' :: rest => some ('\n', rest)
  | 'f' :: rest => some ('\x0c', rest)
  | 'r' :: rest => some ('\r', rest)
  | 'e' :: rest => some ('\x1b', rest)
  | '"' :: rest => some ('"', rest)
  | '\\' :: rest => some ('\\', rest)
  | 'x' :: rest => readCodePoint 2 rest
  | 'u' :: rest => readCodePoint 4 rest
  | 'U' :: rest => readCodePoint 8 rest
  | _ => none

/-- A text with `c` in front of what a reader gave. -/
def keep (c : Char) (read : Option (List Char × List Char)) : Option (List Char × List Char) :=
  read.map fun (s, rest) => (c :: s, rest)

/-- A string in double quotes, after the opening one; `fuel` bounds its length. -/
def readBasic : Nat → List Char → Option (List Char × List Char)
  | 0, _ => none
  | _, [] => none
  | fuel + 1, c :: rest =>
    if c = '"' then some ([], rest)
    else if c = '\\' then do
      let (c, rest) ← readEscape rest
      keep c (readBasic fuel rest)
    else if isTextChar c then keep c (readBasic fuel rest)
    else none

/-- A string in single quotes, after the opening one. -/
def readLiteral : List Char → Option (List Char × List Char)
  | [] => none
  | c :: rest =>
    if c = '\'' then some ([], rest)
    else if isTextChar c then keep c (readLiteral rest)
    else none

/-- What closes a string in triple quotes: the three quotes, before which one or two more
belong to the string. -/
def closeTriple (quote : Char) (cs : List Char) : Option (List Char × List Char) :=
  let run := (cs.takeWhile (· == quote)).length
  if run < 3 then none
  else
    let extra := min (run - 3) 2
    some (List.replicate extra quote, cs.drop (extra + 3))

/-- The text after a backslash at the end of a line: the line end and all blanks that
follow are no part of the string. -/
def joinLines? (cs : List Char) : Option (List Char) :=
  (newline? (skipGap cs)).map (dropBlank ·)
where
  dropBlank : List Char → List Char
    | [] => []
    | c :: rest =>
      if isGap c || c == '\n' || (c == '\r' && rest.head? == some '\n') then dropBlank rest
      else c :: rest

/-- A string in triple double quotes, after the opening ones; `fuel` bounds its length. -/
def readTripleBasic : Nat → List Char → Option (List Char × List Char)
  | 0, _ => none
  | _, [] => none
  | fuel + 1, c :: rest =>
    match closeTriple '"' (c :: rest) with
    | some closed => some closed
    | none =>
      if c = '\\' then
        match joinLines? rest with
        | some rest => readTripleBasic fuel rest
        | none => do
          let (c, rest) ← readEscape rest
          keep c (readTripleBasic fuel rest)
      else if isTextChar c || c == '\n' || (c == '\r' && rest.head? == some '\n') then
        keep c (readTripleBasic fuel rest)
      else none

/-- A string in triple single quotes, after the opening ones. -/
def readTripleLiteral : List Char → Option (List Char × List Char)
  | [] => none
  | c :: rest =>
    match closeTriple '\'' (c :: rest) with
    | some closed => some closed
    | none =>
      if isTextChar c || c == '\n' || (c == '\r' && rest.head? == some '\n') then
        keep c (readTripleLiteral rest)
      else none

def dropNewline (cs : List Char) : List Char :=
  (newline? cs).getD cs

def readLineString? : List Char → Option (String × List Char)
  | '"' :: rest => (readBasic (rest.length + 1) rest).map fun (s, rest) => (String.ofList s, rest)
  | '\'' :: rest => (readLiteral rest).map fun (s, rest) => (String.ofList s, rest)
  | _ => none

/-- A string. In triple quotes a line end right after the opening ones is dropped. -/
def readString? : List Char → Option (String × List Char)
  | '"' :: '"' :: '"' :: rest =>
    let rest := dropNewline rest
    (readTripleBasic (rest.length + 1) rest).map fun (s, rest) => (String.ofList s, rest)
  | '\'' :: '\'' :: '\'' :: rest =>
    (readTripleLiteral (dropNewline rest)).map fun (s, rest) => (String.ofList s, rest)
  | cs => readLineString? cs

/-! ## Keys -/

/-- A character of a key without quotes. -/
def isBareChar (c : Char) : Bool :=
  c.isAlphanum || c == '_' || c == '-'

def readKeyPart? (cs : List Char) : Option (String × List Char) :=
  match cs.span isBareChar with
  | ([], _) => readLineString? cs
  | (bare, rest) => some (String.ofList bare, rest)

/-- The parts of a key, set apart by dots, and what follows the blanks after it; there may
be up to `limit` parts. -/
def readKey? (limit : Nat) (cs : List Char) : Option (List String × List Char) :=
  match limit with
  | 0 => none
  | limit + 1 => do
    let (part, rest) ← readKeyPart? (skipGap cs)
    match skipGap rest with
    | '.' :: rest => do
      let (parts, rest) ← readKey? limit rest
      return (part :: parts, rest)
    | rest => return ([part], rest)

/-! ## Numbers -/

/-- Each underscore stands between two digits. -/
def isSeparated (isDigit : Char → Bool) (cs : List Char) : Bool :=
  let groups := cs.splitOn '_'
  groups.tail.all (fun group => group.head?.any isDigit) &&
    groups.dropLast.all fun group => group.getLast?.any isDigit

def dropUnderscores (cs : List Char) : List Char :=
  cs.filter (· != '_')

def isDigitIn (base : Nat) (c : Char) : Bool :=
  (hexValue? c).any (· < base)

def baseValue (base : Nat) (digits : List Char) : Nat :=
  digits.foldl (fun v c => v * base + (hexValue? c).getD 0) 0

/-- The integer that is written in a base, with an optional sign. -/
def integerValue? (base : Nat) (cs : List Char) : Option Int :=
  let (negative, digits) := Decimal.readSign cs
  if digits.isEmpty || !digits.all (isDigitIn base) then none
  else
    let n : Int := baseValue base digits
    some (if negative then -n else n)

/-- An integer in a base other than ten, after the mark of the base. There may be no digit
at all; such an integer has no value. -/
def readBased? (base : Nat) (cs : List Char) : Option Value :=
  if cs.all (fun c => c == '_' || isDigitIn base c) && isSeparated (isDigitIn 16) cs then
    some (.integer (integerValue? base (dropUnderscores cs)))
  else none

/-- An integer in base ten: digits without a zero in front, unless it is the only one, and
an optional sign. What follows the first underscore is held against the digits of every
base, and only where it touches an underscore; if it is not all decimal digits the integer
has no value. -/
def readDecimal? (cs : List Char) : Option Value :=
  let unsigned := (Decimal.readSign cs).2
  let (digits, rest) := unsigned.span Char.isDigit
  let complete := rest.isEmpty && !digits.isEmpty
  let continued := rest.head? == some '_' && !rest.contains ' '
  let padded := unsigned.head? == some '0' && unsigned != ['0']
  if (complete || continued) && !padded && isSeparated (isDigitIn 16) cs then
    some (.integer (integerValue? 10 (dropUnderscores cs)))
  else none

/-- The digits at the front of a text, underscores aside, of which there is at least one. -/
def readRun? (cs : List Char) : Option (List Char × List Char) :=
  let (run, rest) := cs.span fun c => c.isDigit || c == '_'
  let digits := dropUnderscores run
  if digits.isEmpty then none else some (digits, rest)

/-- The power of ten at the end of a float. -/
def readExponent? : List Char → Option Int
  | [] => some 0
  | c :: cs =>
    if c = 'e' ∨ c = 'E' then do
      let (negative, unsigned) := Decimal.readSign cs
      let (digits, []) ← readRun? unsigned | none
      let n : Int := baseValue 10 digits
      return if negative then -n else n
    else none

/-- A float: digits with a fraction, an exponent or both, and an optional sign. A float
beyond every finite number has no value. -/
def readFloat? (cs : List Char) : Option Value := do
  let (negative, unsigned) := Decimal.readSign cs
  let (whole, rest) ← readRun? unsigned
  let (fraction, rest) ← match rest with
    | '.' :: rest => readRun? rest
    | rest => some ([], rest)
  let power ← readExponent? rest
  let padded := 1 < whole.length && unsigned.head? == some '0'
  if padded || !isSeparated Char.isDigit cs then none
  let x := Decimal.nearest (baseValue 10 (whole ++ fraction)) (power - fraction.length)
  return .float (if x < 1.0 / 0.0 then some (if negative then -x else x) else none)

/-! ## Dates and times -/

/-- The number given by exactly `n` digits. -/
def readFixed? (n : Nat) (cs : List Char) : Option (Nat × List Char) :=
  let digits := cs.take n
  if digits.length = n ∧ digits.all Char.isDigit then some (baseValue 10 digits, cs.drop n)
  else none

def daysIn (year month : Nat) : Nat :=
  if month = 2 then
    if year % 4 = 0 ∧ (year % 100 ≠ 0 ∨ year % 400 = 0) then 29 else 28
  else if month = 4 ∨ month = 6 ∨ month = 9 ∨ month = 11 then 30
  else 31

def skipDate? (cs : List Char) : Option (List Char) := do
  let (year, rest) ← readFixed? 4 cs
  let '-' :: rest := rest | none
  let (month, rest) ← readFixed? 2 rest
  let '-' :: rest := rest | none
  let (day, rest) ← readFixed? 2 rest
  if 1 ≤ month ∧ month ≤ 12 ∧ 1 ≤ day ∧ day ≤ daysIn year month then some rest else none

/-- What follows the fraction of a second. -/
def skipFraction? : List Char → Option (List Char)
  | '.' :: rest =>
    match rest.span Char.isDigit with
    | ([], _) => none
    | (_, rest) => some rest
  | rest => some rest

/-- What follows a time of day. Seconds may be left out. -/
def skipTime? (cs : List Char) : Option (List Char) := do
  let (hour, rest) ← readFixed? 2 cs
  let ':' :: rest := rest | none
  let (minute, rest) ← readFixed? 2 rest
  if 23 < hour ∨ 59 < minute then none
  match rest with
  | ':' :: rest => do
    let (sec, rest) ← readFixed? 2 rest
    if 60 < sec then none else skipFraction? rest
  | rest => some rest

/-- What follows an offset from universal time. -/
def skipOffset? : List Char → Option (List Char)
  | [] => some []
  | c :: rest =>
    if c = 'Z' ∨ c = 'z' then some rest
    else if c = '+' ∨ c = '-' then do
      let (hours, rest) ← readFixed? 2 rest
      let ':' :: rest := rest | none
      let (minutes, rest) ← readFixed? 2 rest
      if 23 < hours ∨ 59 < minutes then none else some rest
    else none

/-- The text is a date, a time, or both with an optional offset. -/
def isDatetime (cs : List Char) : Bool :=
  match skipDate? cs with
  | some [] => true
  | some (c :: rest) =>
    (c == 'T' || c == 't' || c == ' ') &&
      ((skipTime? rest).bind skipOffset?) == some []
  | none => skipTime? cs == some []

/-! ## Scalars -/

/-- The characters other than blanks that end a number, date or word. -/
def scalarEnds : List Char :=
  ['\n', '\r', '#', '=', ',', '[', ']', '\x7b', '\x7d']

/-- A character of a number, date or word. -/
def isScalarChar (c : Char) : Bool :=
  !isGap c && !scalarEnds.contains c

/-- A character with which more of a number, date or word follows blanks. -/
def isResumed (c : Char) : Bool :=
  isScalarChar c && c != '.' && c != '"' && c != '\''

/-- The text of a number, date or word, and what follows. Blanks belong to it if more of it
comes after them, for a blank may stand between a date and a time. -/
def spanScalar : List Char → List Char × List Char
  | [] => ([], [])
  | c :: rest =>
    if isScalarChar c || (isGap c && (skipGap rest).head?.any isResumed) then
      let (text, rest) := spanScalar rest
      (c :: text, rest)
    else ([], c :: rest)

/-- The value that a number, date or word stands for. -/
def scalarOf? (text : List Char) : Option Value :=
  let (negative, unsigned) := Decimal.readSign text
  if text = "true".toList then some (.boolean true)
  else if text = "false".toList then some (.boolean false)
  else if unsigned = "inf".toList then
    some (.float (some (if negative then -(1.0 / 0.0) else 1.0 / 0.0)))
  else if unsigned = "nan".toList then some (.float (some (0.0 / 0.0)))
  else
    match text with
    | '0' :: 'x' :: digits => readBased? 16 digits
    | '0' :: 'o' :: digits => readBased? 8 digits
    | '0' :: 'b' :: digits => readBased? 2 digits
    | _ =>
      let rest := unsigned.dropWhile Char.isDigit
      if rest.head? = some '-' ∨ rest.head? = some ':' then
        if isDatetime text then some .datetime else none
      else if rest.any (fun c => c == '.' || c == 'e' || c == 'E') then readFloat? text
      else readDecimal? text

/-- A value that is no string, array or table. -/
def readScalar? (cs : List Char) : Option (Value × List Char) :=
  let (text, rest) := spanScalar cs
  (scalarOf? text).map fun value => (value, rest)

example : isSeparated Char.isDigit "1_000".toList = true := by decide +kernel
example : isSeparated Char.isDigit "1__0".toList = false := by decide +kernel
example : integerValue? 10 "-12".toList = some (-12) := by decide +kernel
example : isDatetime "1979-05-27 07:32:00+23:59".toList = true := by decide +kernel
example : isDatetime "1979-05-27 07:32:00+24:00".toList = false := by decide +kernel

end HostVitals.Toml
