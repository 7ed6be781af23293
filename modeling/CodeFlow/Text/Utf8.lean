/-!
# UTF-8 as lists of bytes

A text is written as the bytes of its characters one after another. Reading goes one step at a
time: a step either takes a whole character off the front, or finds the longest run of bytes that
could have begun one and takes that off as an ill-formed run. The strict reader stops at the first
ill-formed run; the lenient reader puts one replacement character in its place.
-/

namespace CodeFlow.Text.Utf8

/-! ## Writing -/

/-- The bytes of a list of characters. -/
def encode (cs : List Char) : List UInt8 :=
  cs.flatMap String.utf8EncodeChar

@[simp] theorem encode_nil : encode [] = [] := rfl

@[simp] theorem encode_cons (c : Char) (cs : List Char) :
    encode (c :: cs) = String.utf8EncodeChar c ++ encode cs := rfl

@[simp] theorem encode_append (a b : List Char) : encode (a ++ b) = encode a ++ encode b := by
  simp [encode]

/-! ## Reading -/

/-- What stands at the front of a non-empty list of bytes. -/
inductive Step where
  /-- A well-formed character, then the rest. -/
  | char (c : Char) (rest : List UInt8)
  /-- An ill-formed run, then the rest. -/
  | broken (rest : List UInt8)

/-- A byte that continues a character. -/
def isTail (b : UInt8) : Bool :=
  0x80 ≤ b && b ≤ 0xBF

/-- The six low bits, which a continuation byte contributes. -/
def low6 (b : UInt8) : Nat :=
  b.toNat % 64

/-- The second byte of a character of three or four bytes is narrower after four of the first
bytes: it must rule out overlong forms, surrogates, and code points above U+10FFFF. -/
def isSecond (first second : UInt8) : Bool :=
  if first == 0xE0 then 0xA0 ≤ second && second ≤ 0xBF
  else if first == 0xED then 0x80 ≤ second && second ≤ 0x9F
  else if first == 0xF0 then 0x90 ≤ second && second ≤ 0xBF
  else if first == 0xF4 then 0x80 ≤ second && second ≤ 0x8F
  else isTail second

/-- Takes the first character, or the first ill-formed run, off `b :: bs`. -/
def step (b : UInt8) (bs : List UInt8) : Step :=
  if b < 0x80 then .char (Char.ofNat b.toNat) bs
  else if 0xC2 ≤ b && b ≤ 0xDF then
    match bs with
    | b1 :: r =>
      if isTail b1 then .char (Char.ofNat ((b.toNat % 32) * 64 + low6 b1)) r else .broken bs
    | [] => .broken bs
  else if 0xE0 ≤ b && b ≤ 0xEF then
    match bs with
    | b1 :: r =>
      if isSecond b b1 then
        match r with
        | b2 :: r' =>
          if isTail b2 then
            .char (Char.ofNat ((b.toNat % 16) * 4096 + low6 b1 * 64 + low6 b2)) r'
          else .broken r
        | [] => .broken r
      else .broken bs
    | [] => .broken bs
  else if 0xF0 ≤ b && b ≤ 0xF4 then
    match bs with
    | b1 :: r =>
      if isSecond b b1 then
        match r with
        | b2 :: r' =>
          if isTail b2 then
            match r' with
            | b3 :: r'' =>
              if isTail b3 then
                .char (Char.ofNat
                  ((b.toNat % 8) * 262144 + low6 b1 * 4096 + low6 b2 * 64 + low6 b3)) r''
              else .broken r'
            | [] => .broken r'
          else .broken r
        | [] => .broken r
      else .broken bs
    | [] => .broken bs
  else .broken bs

/-- What a step leaves. -/
def Step.rest : Step → List UInt8
  | .char _ r => r
  | .broken r => r

theorem step_rest_length (b : UInt8) (bs : List UInt8) :
    (step b bs).rest.length < (b :: bs).length := by
  unfold step
  repeat' split
  all_goals simp_all [Step.rest] <;> omega

/-- The characters of well-formed bytes, in reverse order behind `acc`. -/
def decodeOnto (acc : List Char) : List UInt8 → Option (List Char)
  | [] => some acc
  | b :: bs =>
    match step b bs, step_rest_length b bs with
    | .char c rest, _ => decodeOnto (c :: acc) rest
    | .broken _, _ => none
termination_by bs => bs.length
decreasing_by simp_all [Step.rest]

/-- The characters of well-formed bytes; nothing if the bytes are ill-formed. -/
def decode? (bs : List UInt8) : Option (List Char) :=
  (decodeOnto [] bs).map List.reverse

/-- The characters with each ill-formed run replaced, in reverse order behind `acc`. -/
def decodeLossyOnto (acc : List Char) : List UInt8 → List Char
  | [] => acc
  | b :: bs =>
    match step b bs, step_rest_length b bs with
    | .char c rest, _ => decodeLossyOnto (c :: acc) rest
    | .broken rest, _ => decodeLossyOnto ('\uFFFD' :: acc) rest
termination_by bs => bs.length
decreasing_by all_goals simp_all [Step.rest]

/-- The characters of any bytes, each ill-formed run replaced by U+FFFD. -/
def decodeLossy (bs : List UInt8) : List Char :=
  (decodeLossyOnto [] bs).reverse

/-- The text of any bytes: a byte order mark in front is dropped, and each ill-formed run becomes
U+FFFD. -/
def textOf (bs : List UInt8) : String :=
  match bs with
  | 0xEF :: 0xBB :: 0xBF :: rest => String.ofList (decodeLossy rest)
  | _ => String.ofList (decodeLossy bs)

/-! ## Whole texts -/

/-- The bytes of a text. -/
def bytesOf (s : String) : List UInt8 :=
  encode s.toList

/-- The text of well-formed bytes. -/
def toText? (bs : List UInt8) : Option String :=
  (decode? bs).map String.ofList

end CodeFlow.Text.Utf8
