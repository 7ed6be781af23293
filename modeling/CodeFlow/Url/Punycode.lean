/-!
# Punycode

A label with characters beyond ASCII is written with the letters and digits of ASCII alone: first
the characters that are ASCII, then a hyphen, then for each other character, in the order of
their code points, where it is to be inserted, as a number with digits of mixed base.
-/

namespace CodeFlow.Url.Punycode

/-! ## Digits and weights -/

/-- A digit from zero to 35: the letters, then the decimal digits. -/
def digitChar (n : Nat) : Char :=
  if n < 26 then Char.ofNat (97 + n) else Char.ofNat (22 + n)

/-- The value of a digit. -/
def digitValue? (c : Char) : Option Nat :=
  if 'a' ≤ c ∧ c ≤ 'z' then some (c.toNat - 97)
  else if 'A' ≤ c ∧ c ≤ 'Z' then some (c.toNat - 65)
  else if '0' ≤ c ∧ c ≤ '9' then some (c.toNat - 22)
  else none

/-- The digit at a position below which a number ends. -/
def threshold (position bias : Nat) : Nat :=
  if position ≤ bias then 1 else if bias + 26 ≤ position then 26 else position - bias

/-- Scales a distance down and counts the steps. -/
def scale (delta steps : Nat) : Nat × Nat :=
  if delta ≤ 455 then (delta, steps) else scale (delta / 35) (steps + 36)
termination_by delta
decreasing_by omega

/-- The bias for the number after one of a certain size. -/
def adapt (delta count : Nat) (first : Bool) : Nat :=
  let delta := if first then delta / 700 else delta / 2
  let (rest, steps) := scale (delta + delta / count) 0
  steps + 36 * rest / (rest + 38)

/-! ## Writing -/

/-- The digits of a number, from a position on. -/
def writeNumber (fuel n position bias : Nat) : List Char :=
  match fuel with
  | 0 => []
  | fuel + 1 =>
    let t := threshold position bias
    if n < t then [digitChar n]
    else digitChar (t + (n - t) % (36 - t)) :: writeNumber fuel ((n - t) / (36 - t)) (position + 36) bias

/-- Where the writer stands: the distance since the last number, the bias, how many characters
were written, and the digits in reverse order. -/
structure Place where
  delta : Nat
  bias : Nat
  written : Nat
  first : Bool
  digits : List Char

/-- Goes once through a label for one code point `n`. -/
def insertAll (n : Nat) (label : List Char) (p : Place) : Place :=
  label.foldl (fun p c =>
    if c.toNat < n then { p with delta := p.delta + 1 }
    else if c.toNat = n then
      { delta := 0, bias := adapt p.delta (p.written + 1) p.first, written := p.written + 1,
        first := false, digits := (writeNumber 64 p.delta 36 p.bias).reverse ++ p.digits }
    else p) p

/-- Goes through the code points of a label beyond ASCII, in ascending order. -/
def insertEach (label : List Char) : (points : List Nat) → (n : Nat) → Place → Place
  | [], _, p => p
  | m :: ms, n, p =>
    let p := insertAll m label { p with delta := p.delta + (m - n) * (p.written + 1) }
    insertEach label ms (m + 1) { p with delta := p.delta + 1 }

/-- Puts a number in its place among ascending ones, if it is new. -/
def insertPoint (n : Nat) : List Nat → List Nat
  | [] => [n]
  | m :: ms => if n < m then n :: m :: ms else if n = m then m :: ms else m :: insertPoint n ms

/-- A label in ASCII. -/
def encode (label : List Char) : List Char :=
  let basic := label.filter fun c => c.toNat < 128
  let points := (label.filter fun c => !(c.toNat < 128)).foldl (fun ps c => insertPoint c.toNat ps) []
  let start : Place := ⟨0, 72, basic.length, true, []⟩
  let place := insertEach label points 128 start
  (if basic = [] then [] else basic ++ ['-']) ++ place.digits.reverse

/-! ## Reading -/

/-- A number from a position on: its value and the rest. -/
def readNumber? (weight position bias : Nat) : List Char → Option (Nat × List Char)
  | [] => none
  | c :: cs =>
    match digitValue? c with
    | none => none
    | some d =>
      let t := threshold position bias
      if d < t then some (d * weight, cs)
      else
        match readNumber? (weight * (36 - t)) (position + 36) bias cs with
        | none => none
        | some (n, rest) => some (d * weight + n, rest)

/-- Inserts the characters that the numbers stand for; `i` is the place behind the last of them,
or zero if there was none yet. -/
def insertDecoded (fuel : Nat) (i n bias : Nat) (out cs : List Char) : Option (List Char) :=
  match fuel, cs with
  | _, [] => some out
  | 0, _ => none
  | fuel + 1, cs =>
    match readNumber? 1 36 bias cs with
    | none => none
    | some (delta, rest) =>
      let count := out.length + 1
      let point := n + (i + delta) / count
      let place := (i + delta) % count
      if point.isValidChar then
        insertDecoded fuel (place + 1) point (adapt delta count (i = 0))
          (out.take place ++ Char.ofNat point :: out.drop place) rest
      else none

/-- The part before the last hyphen, if there is one, and the part behind it. -/
def splitLast (cs : List Char) : List Char × List Char :=
  let tail := (cs.reverse.takeWhile (· ≠ '-')).reverse
  if tail.length = cs.length then ([], cs) else (cs.take (cs.length - tail.length - 1), tail)

/-- The label that a text in ASCII stands for. -/
def decode? (cs : List Char) : Option (List Char) :=
  let (basic, digits) := splitLast cs
  insertDecoded digits.length 0 128 72 basic digits

end CodeFlow.Url.Punycode
