/-!
# The shortest decimal of a floating-point number

A finite double is an exact fraction, and the reals that round to it form an interval around it.
The shortest decimal is the one with the fewest digits in that interval; of two with equally few
digits, the one closer to the number.
-/

namespace CodeFlow.Decimal

/-! ## Doubles as exact fractions -/

/-- A finite non-negative double: `mantissa * 2 ^ exponent`. -/
structure Binary where
  mantissa : Nat
  exponent : Int
  /-- The gap to the neighbour below is half the gap to the one above. -/
  narrowBelow : Bool

/-- The number that the bits of a finite double stand for, its sign left out. -/
def Binary.ofBits (bits : UInt64) : Binary :=
  let e := ((bits >>> 52) &&& 0x7FF).toNat
  let f := (bits &&& 0xFFFFFFFFFFFFF).toNat
  if e = 0 then ⟨f, -1074, false⟩ else ⟨0x10000000000000 + f, (e : Int) - 1075, f == 0 && e > 1⟩

/-- `digits * 10 ^ exponent`. -/
structure Dec where
  digits : Nat
  exponent : Int
deriving DecidableEq, Repr

/-- What to do when two shortest decimals are equally close. -/
inductive Tie where
  /-- Take the one whose digits are even. -/
  | toEven
  /-- Take the greater one. -/
  | up
deriving DecidableEq, Repr

/-- Compares `a * 10 ^ i` with `n * 2 ^ j`. -/
def compareScaled (a : Nat) (i : Int) (n : Nat) (j : Int) : Ordering :=
  compare (a * Nat.pow 10 i.toNat * Nat.pow 2 (-j).toNat)
    (n * Nat.pow 2 j.toNat * Nat.pow 10 (-i).toNat)

/-- The decimal lies among the reals that round to the number, to nearest with ties to even. -/
def Binary.readsBack (x : Binary) (d : Dec) : Bool :=
  let low := if x.narrowBelow then 4 * x.mantissa - 1 else 4 * x.mantissa - 2
  let high := 4 * x.mantissa + 2
  let closed := x.mantissa % 2 == 0
  let belowEnd := compareScaled d.digits d.exponent low (x.exponent - 2)
  let aboveEnd := compareScaled d.digits d.exponent high (x.exponent - 2)
  (belowEnd == .gt || (closed && belowEnd == .eq)) &&
    (aboveEnd == .lt || (closed && aboveEnd == .eq))

/-! ## The search -/

/-- The number divided by `10 ^ g` and rounded down. -/
def Binary.floorAt (x : Binary) (g : Int) : Nat :=
  (x.mantissa * Nat.pow 2 x.exponent.toNat * Nat.pow 10 (-g).toNat) /
    (Nat.pow 2 (-x.exponent).toNat * Nat.pow 10 g.toNat)

/-- The least `k` with the number below `10 ^ k`, by steps upward from a start that is too low. -/
def Binary.scaleFrom (x : Binary) : Nat → Int → Int
  | 0, k => k
  | steps + 1, k =>
    if compareScaled 1 k x.mantissa x.exponent == .gt then k else x.scaleFrom steps (k + 1)

/-- The decimal exponent one above that of the leading digit. -/
def Binary.scale (x : Binary) : Int :=
  let binaryExponent : Int := (x.mantissa.log2 : Int) + x.exponent
  x.scaleFrom 5 (binaryExponent * 30103 / 100000 - 1)

/-- The better of the two neighbours of the number on the grid `10 ^ g`, if one reads back. -/
def Binary.onGrid? (x : Binary) (tie : Tie) (g : Int) : Option Dec :=
  let d := x.floorAt g
  let below : Dec := ⟨d, g⟩
  let above : Dec := ⟨d + 1, g⟩
  match x.readsBack below, x.readsBack above with
  | false, false => none
  | true, false => some below
  | false, true => some above
  | true, true =>
    -- the midpoint of the neighbours against the number
    match compareScaled ((2 * d + 1) * 5) (g - 1) x.mantissa x.exponent with
    | .lt => some above
    | .gt => some below
    | .eq => if tie = .toEven ∧ d % 2 = 0 then some below else some above

/-- Drops trailing zeros of the digits, at most `steps` of them. -/
def Dec.stripZeros : Nat → Dec → Dec
  | 0, d => d
  | steps + 1, d =>
    if d.digits ≠ 0 ∧ d.digits % 10 = 0 then stripZeros steps ⟨d.digits / 10, d.exponent + 1⟩ else d

/-- The exact decimal value. -/
def Binary.exact (x : Binary) : Dec :=
  ⟨x.mantissa * Nat.pow 2 x.exponent.toNat * Nat.pow 5 (-x.exponent).toNat, min x.exponent 0⟩

/-- The shortest decimal that reads back; zero is written with the single digit 0. -/
def Binary.shortest (x : Binary) (tie : Tie) : Dec :=
  if x.mantissa = 0 then ⟨0, 0⟩
  else
    let k := x.scale
    match (List.range 17).findSome? fun n : Nat => x.onGrid? tie (k - 1 - n) with
    | some d => Dec.stripZeros 20 d
    | none => Dec.stripZeros 1100 x.exact

end CodeFlow.Decimal
