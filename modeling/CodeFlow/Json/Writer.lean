import CodeFlow.Decimal.Layout
import CodeFlow.Json.Basic

/-!
# Writing JSON

Two forms of the same text: compact, without any white space, and indented, with one member or
item a line and two spaces a level. Within a string only quotes, backslashes and control
characters are escaped.
-/

namespace CodeFlow.Json

/-! ## Strings -/

/-- A hexadecimal digit in small letters. -/
def hexDigit (n : Nat) : Char :=
  if n < 10 then Char.ofNat (48 + n) else Char.ofNat (87 + n)

/-- A character as it stands in a string. -/
def escapeChar (c : Char) : List Char :=
  if c = '"' then ['\\', '"']
  else if c = '\\' then ['\\', '\\']
  else if c = '\n' then ['\\', 'n']
  else if c = '\r' then ['\\', 'r']
  else if c = '\t' then ['\\', 't']
  else if c = '\x08' then ['\\', 'b']
  else if c = '\x0c' then ['\\', 'f']
  else if c.toNat < 0x20 then
    ['\\', 'u', '0', '0', hexDigit (c.toNat / 16), hexDigit (c.toNat % 16)]
  else [c]

/-- A string in quotes. -/
def writeString (s : String) : List Char :=
  '"' :: s.toList.flatMap escapeChar ++ ['"']

/-! ## Numbers -/

/-- Floating-point numbers have the fewest digits that identify them, positionally from 10^-5 up
to below 10^16, and with a point even if they are whole. Beyond, the exponent has a sign and at
least two digits. -/
def floatLayout : Decimal.Layout where
  plainFrom := some (-5)
  plainTo := some 15
  pointZero := true
  plusSign := true
  exponentDigits := 2
  tie := .toEven
  nan := "null"
  infinity := "null"

/-- An integer in decimal. -/
def writeInt (n : Int) : List Char :=
  (toString n).toList

/-! ## Compact form -/

mutual

/-- The compact form of a value. -/
def write : Json → List Char
  | .null => ['n', 'u', 'l', 'l']
  | .bool true => ['t', 'r', 'u', 'e']
  | .bool false => ['f', 'a', 'l', 's', 'e']
  | .int n => writeInt n
  | .float x => (floatLayout.render x).toList
  | .str s => writeString s
  | .arr [] => ['[', ']']
  | .arr (j :: js) => '[' :: write j ++ writeItems js
  | .obj [] => ['\x7b', '\x7d']
  | .obj ((k, j) :: ms) => '\x7b' :: writeString k ++ ':' :: write j ++ writeMembers ms

/-- The further items of a list and its end. -/
def writeItems : List Json → List Char
  | [] => [']']
  | j :: js => ',' :: write j ++ writeItems js

/-- The further members of an object and its end. -/
def writeMembers : List (String × Json) → List Char
  | [] => ['\x7d']
  | (k, j) :: ms => ',' :: writeString k ++ ':' :: write j ++ writeMembers ms

end

/-- The compact text of a value. -/
def compact (j : Json) : String :=
  String.ofList (write j)

/-! ## Indented form -/

/-- A line end and the indentation of a level. -/
def newline (level : Nat) : List Char :=
  '\n' :: List.replicate (2 * level) ' '

mutual

/-- The indented form of a value that stands at a level. -/
def writeAt (level : Nat) : Json → List Char
  | .arr [] => ['[', ']']
  | .arr (j :: js) =>
    '[' :: newline (level + 1) ++ writeAt (level + 1) j ++ writeItemsAt level js
  | .obj [] => ['\x7b', '\x7d']
  | .obj ((k, j) :: ms) =>
    '\x7b' :: newline (level + 1) ++ writeString k ++ ':' :: ' ' :: writeAt (level + 1) j ++
      writeMembersAt level ms
  | .null => write .null
  | .bool b => write (.bool b)
  | .int n => write (.int n)
  | .float x => write (.float x)
  | .str s => write (.str s)

/-- The further items of a list at a level and its end. -/
def writeItemsAt (level : Nat) : List Json → List Char
  | [] => newline level ++ [']']
  | j :: js => ',' :: newline (level + 1) ++ writeAt (level + 1) j ++ writeItemsAt level js

/-- The further members of an object at a level and its end. -/
def writeMembersAt (level : Nat) : List (String × Json) → List Char
  | [] => newline level ++ ['\x7d']
  | (k, j) :: ms =>
    ',' :: newline (level + 1) ++ writeString k ++ ':' :: ' ' :: writeAt (level + 1) j ++
      writeMembersAt level ms

end

/-- The indented text of a value. -/
def indented (j : Json) : String :=
  String.ofList (writeAt 0 j)

end CodeFlow.Json
