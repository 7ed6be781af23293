import CodeFlow.Json.Fault
import CodeFlow.Text.Utf8

/-!
# Tokens of JSON

Functions that take white space, strings, numbers and literals off the front of a list of bytes.
Strings and numbers come in two strengths: one that yields a value, and one that only checks the
grammar and is used for values that nobody asked for. The second is the more lenient one: it lets
lone surrogates, ill-formed UTF-8 and numbers of any size pass.
-/

namespace CodeFlow.Json

open CodeFlow.Text

/-- The result of reading: a value and the bytes behind it. -/
abbrev Read (α : Type) := Except Fault (α × List UInt8)

/-! ## White space and literals -/

/-- Space, tab, line feed or carriage return. -/
def isSpace (b : UInt8) : Bool :=
  b == 32 || b == 10 || b == 9 || b == 13

/-- The bytes without the white space in front. -/
def skipSpace (bs : List UInt8) : List UInt8 :=
  bs.dropWhile isSpace

/-- Takes the remaining letters of a literal. -/
def readLiteral : List UInt8 → List UInt8 → Except Fault (List UInt8)
  | [], bs => .ok bs
  | _ :: _, [] => .error (.here .endInValue [])
  | l :: ls, b :: bs => if b = l then readLiteral ls bs else .error (.here .expectedLiteral bs)

/-- The letters of `null` after the first. -/
def nullTail : List UInt8 := [117, 108, 108]

/-- The letters of `true` after the first. -/
def trueTail : List UInt8 := [114, 117, 101]

/-- The letters of `false` after the first. -/
def falseTail : List UInt8 := [97, 108, 115, 101]

/-! ## Strings -/

/-- The value of a hexadecimal digit. -/
def hexValue? (b : UInt8) : Option Nat :=
  let n := b.toNat
  if 48 ≤ n ∧ n ≤ 57 then some (n - 48)
  else if 97 ≤ n ∧ n ≤ 102 then some (n - 87)
  else if 65 ≤ n ∧ n ≤ 70 then some (n - 55)
  else none

/-- Four hexadecimal digits. -/
def readHex : List UInt8 → Except Fault (Nat × List UInt8)
  | a :: b :: c :: d :: rest =>
    match hexValue? a, hexValue? b, hexValue? c, hexValue? d with
    | some a, some b, some c, some d => .ok (a * 4096 + b * 256 + c * 16 + d, rest)
    | _, _, _, _ => .error (.here .invalidEscape rest)
  | _ => .error (.here .endInString [])

/-- The character that a letter after a backslash stands for. -/
def escaped? (b : UInt8) : Option UInt8 :=
  if b = 34 ∨ b = 92 ∨ b = 47 then some b
  else if b = 98 then some 8
  else if b = 102 then some 12
  else if b = 110 then some 10
  else if b = 114 then some 13
  else if b = 116 then some 9
  else none

/-- The bytes of the character that two halves of a surrogate pair stand for. -/
def pairBytes (high low : Nat) : List UInt8 :=
  String.utf8EncodeChar (Char.ofNat ((high - 0xD800) * 1024 + (low - 0xDC00) + 0x10000))

/-- The second half of a surrogate pair whose first half is `high`. -/
def readLowSurrogate (high : Nat) : List UInt8 → Except Fault (List UInt8 × List UInt8)
  | [] => .error (.here .endInString [])
  | b :: rest =>
    if b ≠ 92 then .error (.here .unexpectedEndOfEscape rest)
    else
      match rest with
      | [] => .error (.here .endInString [])
      | u :: rest =>
        if u ≠ 117 then .error (.here .unexpectedEndOfEscape rest)
        else
          match readHex rest with
          | .error f => .error f
          | .ok (low, rest) =>
            if 0xDC00 ≤ low ∧ low ≤ 0xDFFF then .ok (pairBytes high low, rest)
            else .error (.here .loneSurrogate rest)

/-- The bytes that an escape stands for; the backslash has been taken. -/
def readEscape : List UInt8 → Except Fault (List UInt8 × List UInt8)
  | [] => .error (.here .endInString [])
  | b :: rest =>
    if b = 117 then
      match readHex rest with
      | .error f => .error f
      | .ok (n, rest) =>
        if 0xDC00 ≤ n ∧ n ≤ 0xDFFF then .error (.here .loneSurrogate rest)
        else if 0xD800 ≤ n ∧ n ≤ 0xDBFF then readLowSurrogate n rest
        else .ok (String.utf8EncodeChar (Char.ofNat n), rest)
    else
      match escaped? b with
      | some e => .ok ([e], rest)
      | none => .error (.here .invalidEscape rest)

theorem readHex_shorter {bs rest : List UInt8} {n : Nat} (h : readHex bs = .ok (n, rest)) :
    rest.length ≤ bs.length := by
  unfold readHex at h
  split at h
  · split at h
    · simp_all
      omega
    · simp_all
  · cases h

theorem readLowSurrogate_shorter {high : Nat} {bs out rest : List UInt8}
    (h : readLowSurrogate high bs = .ok (out, rest)) : rest.length ≤ bs.length := by
  unfold readLowSurrogate at h
  split at h
  · cases h
  · split at h
    · cases h
    · split at h
      · cases h
      · split at h
        · cases h
        · split at h
          · cases h
          · rename_i hx
            have := readHex_shorter hx
            split at h
            · obtain ⟨_, rfl⟩ := Prod.mk.inj (Except.ok.inj h)
              simp only [List.length_cons]
              omega
            · cases h

theorem readEscape_shorter {bs out rest : List UInt8} (h : readEscape bs = .ok (out, rest)) :
    rest.length < bs.length := by
  unfold readEscape at h
  split at h
  · cases h
  · split at h
    · split at h
      · cases h
      · rename_i hx
        have := readHex_shorter hx
        repeat' split at h
        · cases h
        · have := readLowSurrogate_shorter h
          simp; omega
        · cases h
          simp; omega
    · split at h
      · cases h
        simp
      · cases h

/-- The bytes of a string up to its closing quote, in reverse order behind `acc`; the opening
quote has been taken. -/
def readStringOnto (acc : List UInt8) : List UInt8 → Read (List UInt8)
  | [] => .error (.here .endInString [])
  | b :: rest =>
    if b = 34 then .ok (acc, rest)
    else if b = 92 then
      match h : readEscape rest with
      | .error f => .error f
      | .ok (out, rest') =>
        have := readEscape_shorter h
        readStringOnto (out.reverse ++ acc) rest'
    else if b < 32 then .error (.here .controlCharacter rest)
    else readStringOnto (b :: acc) rest
termination_by bs => bs.length
decreasing_by all_goals simp_all <;> omega

/-- A string; the opening quote has been taken. -/
def readString (bs : List UInt8) : Read String :=
  match readStringOnto [] bs with
  | .error f => .error f
  | .ok (reversed, rest) =>
    match Utf8.toText? reversed.reverse with
    | some s => .ok (s, rest)
    | none => .error (.here .invalidCodePoint rest)

/-- Passes over an escape; the backslash has been taken. -/
def skipEscape : List UInt8 → Except Fault (List UInt8)
  | [] => .error (.here .endInString [])
  | b :: rest =>
    if b = 117 then
      match readHex rest with
      | .error f => .error f
      | .ok (_, rest) => .ok rest
    else if (escaped? b).isSome then .ok rest
    else .error (.here .invalidEscape rest)

theorem skipEscape_shorter {bs rest : List UInt8} (h : skipEscape bs = .ok rest) :
    rest.length < bs.length := by
  unfold skipEscape at h
  split at h
  · cases h
  · split at h
    · split at h
      · cases h
      · rename_i hx
        have := readHex_shorter hx
        cases h
        simp; omega
    · split at h
      · cases h
        simp
      · cases h

/-- Passes over a string; the opening quote has been taken. -/
def skipString : List UInt8 → Except Fault (List UInt8)
  | [] => .error (.here .endInString [])
  | b :: rest =>
    if b = 34 then .ok rest
    else if b = 92 then
      match h : skipEscape rest with
      | .error f => .error f
      | .ok rest' =>
        have := skipEscape_shorter h
        skipString rest'
    else if b < 32 then .error (.here .controlCharacter (b :: rest))
    else skipString rest
termination_by bs => bs.length
decreasing_by all_goals simp_all <;> omega

/-! ## Numbers -/

/-- A number as it is read: whole, or floating-point. -/
inductive Number where
  | int (n : Int)
  | float (x : Float)

/-- The value of a number. -/
def Number.toJson : Number → Json
  | .int n => .int n
  | .float x => .float x

/-- The value of a decimal digit. -/
def digit? (b : UInt8) : Option Nat :=
  if 48 ≤ b.toNat ∧ b.toNat ≤ 57 then some (b.toNat - 48) else none

/-- A decimal digit. -/
def isDigit (b : UInt8) : Bool :=
  (digit? b).isSome

/-- The greatest significand that is kept. -/
def significandLimit : Nat := 18446744073709551615

/-- The greatest exponent that is kept. -/
def exponentLimit : Nat := 2147483647

/-- Digits continuing a number while it stays within a limit: the number, how many digits were
taken, and the rest, which begins with a digit only if that digit would pass the limit. -/
def takeDigits (limit : Nat) : Nat → Nat → List UInt8 → Nat × Nat × List UInt8
  | n, count, [] => (n, count, [])
  | n, count, b :: rest =>
    match digit? b with
    | some d =>
      if limit < n * 10 + d then (n, count, b :: rest)
      else takeDigits limit (n * 10 + d) (count + 1) rest
    | none => (n, count, b :: rest)

/-- A power of ten as a floating-point number. -/
def powerOfTen (n : Nat) : Float :=
  Float.ofScientific 1 false n

/-- Divides by 10^308 until the exponent is within reach of one division. -/
def scaleDown (x : Float) (e : Nat) : Float :=
  if e ≤ 308 then x / powerOfTen e
  else if x == 0 then x
  else scaleDown (x / powerOfTen 308) (e - 308)
termination_by e

/-- `significand * 10 ^ exponent` as a floating-point number, by one multiplication or a few
divisions; nothing if that is beyond the greatest one. -/
def floatOf? (significand : Nat) (exponent : Int) : Option Float :=
  let x := Float.ofNat significand
  if exponent < 0 then some (scaleDown x exponent.natAbs)
  else if 308 < exponent then (if x == 0 then some x else none)
  else
    let y := x * powerOfTen exponent.natAbs
    if y.isInf then none else some y

/-- Gives a number its sign. -/
def signed (positive : Bool) (x : Float) : Float :=
  if positive then x else -x

/-- Ends a floating-point number. -/
def finishFloat (positive : Bool) (significand : Nat) (exponent : Int) (rest : List UInt8) :
    Read Number :=
  match floatOf? significand exponent with
  | some x => .ok (.float (signed positive x), rest)
  | none => .error (.here .numberOutOfRange rest)

/-- The exponent and the end of a number; the letter `e` has been taken. An exponent too large to
keep makes zero of the number, or no number at all. -/
def readExponent (positive : Bool) (significand : Nat) (start : Int) (bs : List UInt8) :
    Read Number :=
  let (negative, bs) :=
    match bs with
    | 43 :: rest => (false, rest)
    | 45 :: rest => (true, rest)
    | _ => (false, bs)
  match bs with
  | [] => .error (.here .endInValue [])
  | b :: rest =>
    match digit? b with
    | none => .error (.here .invalidNumber rest)
    | some d =>
      match takeDigits exponentLimit d 0 rest with
      | (e, _, rest) =>
        match rest.head?.bind digit? with
        | some _ =>
          if significand ≠ 0 ∧ !negative then .error (.past .numberOutOfRange rest)
          else .ok (.float (signed positive 0), rest.dropWhile isDigit)
        | none => finishFloat positive significand (if negative then start - e else start + e) rest

/-- Whether an exponent follows, and the number's end. -/
def readScale (positive : Bool) (significand : Nat) (exponent : Int) (bs : List UInt8) :
    Read Number :=
  match bs with
  | b :: rest =>
    if b = 101 ∨ b = 69 then readExponent positive significand exponent rest
    else finishFloat positive significand exponent bs
  | [] => finishFloat positive significand exponent bs

/-- The digits after the point and the number's end; the point has been taken. Digits that would
make the significand too large are dropped. -/
def readPlaces (positive : Bool) (significand : Nat) (exponent : Int) (bs : List UInt8) :
    Read Number :=
  match takeDigits significandLimit significand 0 bs with
  | (n, places, rest) =>
    match rest.head?.bind digit?, places with
    | none, 0 =>
      match rest with
      | [] => .error (.here .endInValue [])
      | _ => .error (.past .invalidNumber rest)
    | _, _ => readScale positive n (exponent - places) (rest.dropWhile isDigit)

/-- What follows the whole digits of a number that is too large to keep whole: its further digits
only count for the exponent. -/
def readLarge (positive : Bool) (significand : Nat) (bs : List UInt8) : Read Number :=
  let further := bs.takeWhile isDigit
  match bs.dropWhile isDigit with
  | 46 :: rest => readPlaces positive significand further.length rest
  | rest => readScale positive significand further.length rest

/-- What follows the whole digits of a number. A negative zero is a floating-point number, and so
is a negative number below the least of 64 bits. -/
def readAfterWhole (positive : Bool) (n : Nat) (bs : List UInt8) : Read Number :=
  let whole : Read Number :=
    if positive then .ok (.int n, bs)
    else if n = 0 ∨ 9223372036854775808 < n then .ok (.float (-(Float.ofNat n)), bs)
    else .ok (.int (-(n : Int)), bs)
  match bs with
  | b :: rest =>
    if b = 46 then readPlaces positive n 0 rest
    else if b = 101 ∨ b = 69 then readExponent positive n 0 rest
    else whole
  | [] => whole

/-- A number; its minus sign has been taken. -/
def readNumber (positive : Bool) (bs : List UInt8) : Read Number :=
  match bs with
  | [] => .error (.here .endInValue [])
  | b :: rest =>
    match digit? b with
    | none => .error (.here .invalidNumber rest)
    | some 0 =>
      match rest.head?.bind digit? with
      | some _ => .error (.past .invalidNumber rest)
      | none => readAfterWhole positive 0 rest
    | some d =>
      match takeDigits significandLimit d 0 rest with
      | (n, _, rest) =>
        match rest.head?.bind digit? with
        | some _ => readLarge positive n rest
        | none => readAfterWhole positive n rest

/-- Passes over an exponent; the letter has been taken. -/
def skipExponent (bs : List UInt8) : Except Fault (List UInt8) :=
  let bs :=
    match bs with
    | b :: rest => if b = 43 ∨ b = 45 then rest else bs
    | [] => bs
  match bs with
  | b :: rest => if isDigit b then .ok (rest.dropWhile isDigit) else .error (.here .invalidNumber rest)
  | [] => .error (.here .invalidNumber [])

/-- Passes over an exponent if there is one. -/
def skipScale (bs : List UInt8) : Except Fault (List UInt8) :=
  match bs with
  | b :: rest => if b = 101 ∨ b = 69 then skipExponent rest else .ok bs
  | [] => .ok bs

/-- Passes over places and an exponent if there are any. -/
def skipFraction (bs : List UInt8) : Except Fault (List UInt8) :=
  match bs with
  | 46 :: rest =>
    match rest with
    | b :: rest' => if isDigit b then skipScale (rest'.dropWhile isDigit) else .error (.past .invalidNumber rest)
    | [] => .error (.here .invalidNumber [])
  | _ => skipScale bs

/-- Passes over a number; its minus sign has been taken. -/
def skipNumber (bs : List UInt8) : Except Fault (List UInt8) :=
  match bs with
  | [] => .error (.here .invalidNumber [])
  | b :: rest =>
    match digit? b with
    | none => .error (.here .invalidNumber rest)
    | some 0 =>
      match rest.head?.bind digit? with
      | some _ => .error (.past .invalidNumber rest)
      | none => skipFraction rest
    | some _ => skipFraction (rest.dropWhile isDigit)

end CodeFlow.Json
