import CodeFlow.Text.Utf8

/-!
# Percent encoding

A character that a part of an address cannot hold is written as its bytes in hexadecimal, each
behind a percent sign. Each part of an address has its own set of characters that stay as they
are; beyond ASCII none does.
-/

namespace CodeFlow.Url

/-! ## Writing -/

/-- A hexadecimal digit in capital letters. -/
def upperHex (n : Nat) : Char :=
  if n < 10 then Char.ofNat (48 + n) else Char.ofNat (55 + n)

/-- A byte behind a percent sign. -/
def escapeByte (b : UInt8) : List Char :=
  ['%', upperHex (b.toNat / 16), upperHex (b.toNat % 16)]

/-- A character, as it is or as its bytes. -/
def escapeChar (keeps : Char → Bool) (c : Char) : List Char :=
  if keeps c then [c] else (String.utf8EncodeChar c).flatMap escapeByte

/-- A text in which only certain characters stay as they are. -/
def percentEncode (keeps : Char → Bool) (cs : List Char) : List Char :=
  cs.flatMap (escapeChar keeps)

/-! ## What stays -/

/-- Printable ASCII, which is what a path without segments and a plain host keep. -/
def isVisible (c : Char) : Bool :=
  0x20 ≤ c.toNat && c.toNat < 0x7F

/-- What a fragment keeps. -/
def inFragment (c : Char) : Bool :=
  isVisible c && !(c == ' ' || c == '"' || c == '<' || c == '>' || c == '`')

/-- What a path keeps. -/
def inPath (c : Char) : Bool :=
  inFragment c && !(c == '#' || c == '?' || c == '\x7b' || c == '\x7d')

/-- What a user name or a password keeps. -/
def inUserinfo (c : Char) : Bool :=
  inPath c && !(c == '/' || c == ':' || c == ';' || c == '=' || c == '@' || c == '[' ||
    c == '\\' || c == ']' || c == '^' || c == '|')

/-- What a query keeps; where the scheme is one of the well-known ones, not the apostrophe. -/
def inQuery (special : Bool) (c : Char) : Bool :=
  isVisible c && !(c == ' ' || c == '"' || c == '#' || c == '<' || c == '>') &&
    !(special && c == '\'')

/-! ## Reading -/

/-- The value of a hexadecimal digit. -/
def hexDigit? (b : UInt8) : Option Nat :=
  let n := b.toNat
  if 48 ≤ n ∧ n ≤ 57 then some (n - 48)
  else if 97 ≤ n ∧ n ≤ 102 then some (n - 87)
  else if 65 ≤ n ∧ n ≤ 70 then some (n - 55)
  else none

/-- Bytes with every percent sign and two digits replaced by the byte they stand for; a percent
sign without two digits stays. -/
def percentDecode : List UInt8 → List UInt8
  | 37 :: a :: b :: rest =>
    match hexDigit? a, hexDigit? b with
    | some x, some y => UInt8.ofNat (x * 16 + y) :: percentDecode rest
    | _, _ => 37 :: percentDecode (a :: b :: rest)
  | b :: rest => b :: percentDecode rest
  | [] => []

end CodeFlow.Url
