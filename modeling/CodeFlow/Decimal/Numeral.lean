import CodeFlow.Decimal.Shortest
import CodeFlow.Text.Digit

/-!
# Numbers written in decimal

Reads whole numbers of 64 bits, with the reason if a text is none, and floating-point numbers,
which are taken as close to what is written as they come.
-/

namespace CodeFlow.Decimal

open CodeFlow.Text

/-! ## Whole numbers -/

/-- Why a text is no whole number. -/
inductive WholeFault where
  | empty
  | badDigit
  | tooLarge
deriving DecidableEq, Repr

/-- What is said about a text that is no whole number. -/
def WholeFault.message : WholeFault → String
  | .empty => "cannot parse integer from empty string"
  | .badDigit => "invalid digit found in string"
  | .tooLarge => "number too large to fit in target type"

/-- Digits behind others, up to a limit. The first character that cannot be taken decides. -/
def readDigits (limit : Nat) : Nat → List Char → Except WholeFault Nat
  | n, [] => .ok n
  | n, c :: cs =>
    match digitIn? 10 c with
    | none => .error .badDigit
    | some d => if limit < n * 10 + d then .error .tooLarge else readDigits limit (n * 10 + d) cs

/-- At least one digit, up to a limit. -/
def readWhole (limit : Nat) : List Char → Except WholeFault Nat
  | [] => .error .badDigit
  | cs => readDigits limit 0 cs

/-- A number from zero below 2^64, which may have a plus sign. -/
def readUnsigned (s : String) : Except WholeFault UInt64 :=
  let limit := 18446744073709551615
  match s.toList with
  | [] => .error .empty
  | '+' :: cs => (readWhole limit cs).map UInt64.ofNat
  | cs => (readWhole limit cs).map UInt64.ofNat

/-- A whole number of 64 bits, which may have a sign. -/
def signed? (cs : List Char) : Option Int :=
  match cs with
  | '-' :: cs => (readWhole 9223372036854775808 cs).toOption.map fun n => -(n : Int)
  | '+' :: cs => (readWhole 9223372036854775807 cs).toOption.map fun n => (n : Int)
  | cs => (readWhole 9223372036854775807 cs).toOption.map fun n => (n : Int)

/-! ## Floating-point numbers -/

/-- The greatest of all numbers. -/
def infinity : Float := 1.0 / 0.0

/-- What is not a number. -/
def notANumber : Float := 0.0 / 0.0

/-- The number closest to `digits * 10 ^ exponent`. -/
def nearest (digits : Nat) (exponent : Int) : Float :=
  -- far beyond either end of the scale the digits do not matter
  if digits = 0 then 0.0
  else
    let leading := exponent + (toString digits).length
    if 400 < leading then infinity
    else if leading < -400 then 0.0
    else Float.ofScientific digits (exponent < 0) exponent.natAbs

/-- A number with or without a minus sign. -/
def withSign (negative : Bool) (x : Float) : Float :=
  if negative then -x else x

/-- The digits in front and the rest. -/
def spanDigits (cs : List Char) : List Char × List Char :=
  cs.span (isDigitIn 10)

/-- An exponent: its sign and at least one digit; nothing at all is zero. -/
def exponent? : List Char → Option Int
  | [] => some 0
  | c :: cs =>
    if c = 'e' ∨ c = 'E' then
      match cs with
      | [] => none
      | '-' :: [] => none
      | '+' :: [] => none
      | '-' :: cs => (numberIn? 10 cs).map fun n => -(n : Int)
      | '+' :: cs => (numberIn? 10 cs).map fun n => (n : Int)
      | cs => (numberIn? 10 cs).map fun n => (n : Int)
    else none

/-- A number without a sign: digits with a point before, among or behind them, and an exponent. -/
def unsignedFloat? (cs : List Char) : Option Float :=
  let (whole, rest) := spanDigits cs
  let (places, rest) :=
    match rest with
    | '.' :: rest => spanDigits rest
    | rest => ([], rest)
  if whole = [] ∧ places = [] then none
  else
    match numberIn? 10 (whole ++ places), exponent? rest with
    | some digits, some e => some (nearest digits (e - places.length))
    | _, _ => none

/-- The names of what is no ordinary number, in letters of either case. -/
def named? (cs : List Char) : Option Float :=
  match String.ofList (cs.map Char.toLower) with
  | "inf" => some infinity
  | "infinity" => some infinity
  | "nan" => some notANumber
  | _ => none

/-- The number that a text writes, which may have a sign. -/
def float? (cs : List Char) : Option Float :=
  let (negative, cs) :=
    match cs with
    | '-' :: cs => (true, cs)
    | '+' :: cs => (false, cs)
    | cs => (false, cs)
  ((named? cs).orElse fun _ => unsignedFloat? cs).map (withSign negative)

/-! ## From floating-point to whole numbers -/

/-- The whole number closest to a number that is not negative; a half goes up. -/
def Binary.round (x : Binary) : Nat :=
  let down := (-x.exponent).toNat
  (x.mantissa * Nat.pow 2 x.exponent.toNat * 2 + Nat.pow 2 down) / Nat.pow 2 (down + 1)

/-- The whole number closest to a number, a half going away from zero, kept within a range. What is
not a number counts as zero. -/
def roundWithin (least greatest : Int) (x : Float) : Int :=
  if x.isNaN then 0
  else
    let negative := x.toBits >>> 63 == 1
    if x.isInf then (if negative then least else greatest)
    else
      let n : Int := (Binary.ofBits x.toBits).round
      max least (min greatest (if negative then -n else n))

end CodeFlow.Decimal
