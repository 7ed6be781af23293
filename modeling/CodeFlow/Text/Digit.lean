/-!
# Digits

The values of digits in bases up to sixteen, and of the numbers that are written with them.
-/

namespace CodeFlow.Text

/-- The value of a digit in a base of at most sixteen, in letters of either case. -/
def digitIn? (base : Nat) (c : Char) : Option Nat :=
  let v :=
    if '0' ≤ c ∧ c ≤ '9' then some (c.toNat - 48)
    else if 'a' ≤ c ∧ c ≤ 'f' then some (c.toNat - 87)
    else if 'A' ≤ c ∧ c ≤ 'F' then some (c.toNat - 55)
    else none
  v.filter (· < base)

/-- A digit of a base. -/
def isDigitIn (base : Nat) (c : Char) : Bool :=
  (digitIn? base c).isSome

/-- The number that digits write behind others; nothing if one of them is no digit. -/
def numberFrom? (base : Nat) : Nat → List Char → Option Nat
  | n, [] => some n
  | n, c :: cs =>
    match digitIn? base c with
    | some d => numberFrom? base (n * base + d) cs
    | none => none

/-- The number that digits write. -/
def numberIn? (base : Nat) (cs : List Char) : Option Nat :=
  numberFrom? base 0 cs

end CodeFlow.Text
