/-!
# Base64

Bytes as text, three bytes to four digits of six bits. The writer has a padded form over the
standard alphabet and an unpadded form over the alphabet that is safe in URLs. The reader takes
the padded form only, insists that it is the one the writer would give, and says where it first
is not: offsets count bytes of the text in UTF-8.
-/

namespace CodeFlow.Text.Base64

/-! ## Alphabets -/

/-- The two digits in which alphabets differ; the other 62 are the letters and the figures. -/
structure Alphabet where
  digit62 : Char
  digit63 : Char

/-- The standard alphabet. -/
def standard : Alphabet := ⟨'+', '/'⟩

/-- The alphabet whose digits need no escape in a URL. -/
def urlSafe : Alphabet := ⟨'-', '_'⟩

/-- The digit for a value below 64. -/
def Alphabet.digit (a : Alphabet) (v : Nat) : Char :=
  if v < 26 then Char.ofNat (65 + v)
  else if v < 52 then Char.ofNat (97 + (v - 26))
  else if v < 62 then Char.ofNat (48 + (v - 52))
  else if v = 62 then a.digit62
  else a.digit63

/-- The value of the standard digit that a byte stands for. -/
def value? (b : UInt8) : Option Nat :=
  let n := b.toNat
  if 65 ≤ n ∧ n ≤ 90 then some (n - 65)
  else if 97 ≤ n ∧ n ≤ 122 then some (n - 97 + 26)
  else if 48 ≤ n ∧ n ≤ 57 then some (n - 48 + 52)
  else if n = 43 then some 62
  else if n = 47 then some 63
  else none

/-- The padding character. -/
def pad : Char := '='

/-- The padding character as a byte. -/
def padByte : UInt8 := 61

/-! ## Writing -/

/-- The digits of bytes, with `filler` put `n` times where the last group falls `n` digits
short. -/
def encodeWith (a : Alphabet) (filler : List Char) : List UInt8 → List Char
  | [] => []
  | [x] =>
    let n := x.toNat * 16
    a.digit (n / 64) :: a.digit (n % 64) :: (filler ++ filler)
  | [x, y] =>
    let n := (x.toNat * 256 + y.toNat) * 4
    a.digit (n / 4096) :: a.digit (n / 64 % 64) :: a.digit (n % 64) :: filler
  | x :: y :: z :: rest =>
    let n := x.toNat * 65536 + y.toNat * 256 + z.toNat
    a.digit (n / 262144) :: a.digit (n / 4096 % 64) :: a.digit (n / 64 % 64) :: a.digit (n % 64) ::
      encodeWith a filler rest

/-- The padded form over the standard alphabet. -/
def encode (bs : List UInt8) : List Char :=
  encodeWith standard [pad] bs

/-- The unpadded form over the URL-safe alphabet. -/
def encodeUrl (bs : List UInt8) : List Char :=
  encodeWith urlSafe [] bs

/-! ## Reading -/

/-- Why a text is not the padded form of any bytes. -/
inductive Fault where
  /-- A byte that is no digit, or padding where none may stand. -/
  | symbol (offset : Nat) (byte : UInt8)
  /-- The last digit has bits that belong to no byte. -/
  | lastSymbol (offset : Nat) (byte : UInt8)
  /-- A single digit is left over. -/
  | length (n : Nat)
  /-- The padding is missing or too short. -/
  | padding
deriving DecidableEq, Repr

/-- What is said about a fault. -/
def Fault.message : Fault → String
  | .symbol offset byte => s!"Invalid symbol {byte.toNat}, offset {offset}."
  | .lastSymbol offset byte => s!"Invalid last symbol {byte.toNat}, offset {offset}."
  | .length n => s!"Invalid input length: {n}"
  | .padding => "Invalid padding"

/-- The value of a digit at an offset. -/
def digitAt (offset : Nat) (b : UInt8) : Except Fault Nat :=
  match value? b with
  | some v => .ok v
  | none => .error (.symbol offset b)

/-- The bytes of the last group: two to four digits, of which padding may stand for the last
ones. -/
def decodeLast (offset : Nat) : List UInt8 → Except Fault (List UInt8)
  | [] => .ok []
  | [b0] => do
    let _ ← digitAt offset b0
    .error (.length (offset + 1))
  | [b0, b1] => do
    let _ ← digitAt offset b0
    let _ ← digitAt (offset + 1) b1
    .error .padding
  | [b0, b1, b2] => do
    let _ ← digitAt offset b0
    let _ ← digitAt (offset + 1) b1
    if b2 ≠ padByte then
      let _ ← digitAt (offset + 2) b2
    .error .padding
  | b0 :: b1 :: b2 :: b3 :: _ => do
    let v0 ← digitAt offset b0
    let v1 ← digitAt (offset + 1) b1
    if b2 = padByte then
      if b3 ≠ padByte then
        .error (.symbol (offset + 2) padByte)
      else if v1 % 16 ≠ 0 then
        .error (.lastSymbol (offset + 1) b1)
      else
        .ok [UInt8.ofNat ((v0 * 64 + v1) / 16)]
    else
      let v2 ← digitAt (offset + 2) b2
      if b3 = padByte then
        if v2 % 4 ≠ 0 then
          .error (.lastSymbol (offset + 2) b2)
        else
          let n := (v0 * 4096 + v1 * 64 + v2) / 4
          .ok [UInt8.ofNat (n / 256), UInt8.ofNat (n % 256)]
      else
        let v3 ← digitAt (offset + 3) b3
        let n := v0 * 262144 + v1 * 4096 + v2 * 64 + v3
        .ok [UInt8.ofNat (n / 65536), UInt8.ofNat (n / 256 % 256), UInt8.ofNat (n % 256)]

/-- The bytes of a padded form that starts at an offset. A group of four is the last one only if
nothing follows it; before that no padding may stand. -/
def decodeFrom (offset : Nat) : List UInt8 → Except Fault (List UInt8)
  | b0 :: b1 :: b2 :: b3 :: b4 :: rest => do
    let v0 ← digitAt offset b0
    let v1 ← digitAt (offset + 1) b1
    let v2 ← digitAt (offset + 2) b2
    let v3 ← digitAt (offset + 3) b3
    let n := v0 * 262144 + v1 * 4096 + v2 * 64 + v3
    let bytes ← decodeFrom (offset + 4) (b4 :: rest)
    .ok (UInt8.ofNat (n / 65536) :: UInt8.ofNat (n / 256 % 256) :: UInt8.ofNat (n % 256) :: bytes)
  | last => decodeLast offset last

/-- A stray byte behind the last whole group is reported before anything else. -/
def strayByte? (text : List UInt8) : Option Fault :=
  if text.length % 4 = 1 then
    match text.getLast? with
    | some b =>
      if b ≠ padByte ∧ value? b = none then some (.symbol (text.length - 1) b) else none
    | none => none
  else none

/-- The bytes of which the text is the padded form. -/
def decode (text : List UInt8) : Except Fault (List UInt8) :=
  match strayByte? text with
  | some fault => .error fault
  | none => decodeFrom 0 text

end CodeFlow.Text.Base64
