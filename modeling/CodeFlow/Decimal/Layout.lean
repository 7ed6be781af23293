import CodeFlow.Decimal.Shortest

/-!
# Decimal layouts of floating-point numbers

How the shortest decimal of a number is laid out as text: up to which sizes the point is put into
or beside the digits, and when an exponent is written instead.
-/

namespace CodeFlow.Decimal

/-- The decisions of a layout. Exponents are those of the leading digit. -/
structure Layout where
  /-- The least exponent written without an exponent; none if all are. -/
  plainFrom : Option Int
  /-- The greatest exponent written without an exponent; none if all are. -/
  plainTo : Option Int
  /-- A whole number ends in `.0`. -/
  pointZero : Bool
  /-- An exponent that is not negative has a plus sign. -/
  plusSign : Bool
  /-- The least number of digits of an exponent. -/
  exponentDigits : Nat
  /-- Which of two equally close decimals is taken. -/
  tie : Tie
  /-- The text of what is not a number. -/
  nan : String
  /-- The text of infinity. -/
  infinity : String

/-- The exponent of the leading digit. -/
def Dec.leading (d : Dec) : Int :=
  d.exponent + (toString d.digits).length - 1

/-- The digits with a point and zeros around them. -/
def Dec.plain (d : Dec) (pointZero : Bool) : String :=
  let digits := (toString d.digits).toList
  if 0 ≤ d.exponent then
    String.ofList (digits ++ List.replicate d.exponent.toNat '0' ++
      if pointZero then ['.', '0'] else [])
  else
    let places := (-d.exponent).toNat
    if places < digits.length then
      let whole := digits.length - places
      String.ofList (digits.take whole ++ '.' :: digits.drop whole)
    else
      String.ofList ('0' :: '.' :: List.replicate (places - digits.length) '0' ++ digits)

/-- The exponent behind an `e`. -/
def Layout.exponentText (l : Layout) (e : Int) : String :=
  let sign := if e < 0 then ['-'] else if l.plusSign then ['+'] else []
  let digits := (toString e.natAbs).toList
  String.ofList ('e' :: sign ++ List.replicate (l.exponentDigits - digits.length) '0' ++ digits)

/-- One digit before the point, and the exponent. -/
def Layout.scientific (l : Layout) (d : Dec) : String :=
  match (toString d.digits).toList with
  | [] => ""
  | [c] => String.ofList [c] ++ l.exponentText d.leading
  | c :: rest => String.ofList (c :: '.' :: rest) ++ l.exponentText d.leading

/-- The text of a non-negative decimal. -/
def Layout.text (l : Layout) (d : Dec) : String :=
  let e := d.leading
  if l.plainFrom.all (· ≤ e) && l.plainTo.all (e ≤ ·) then d.plain l.pointZero
  else l.scientific d

/-- The text of a floating-point number. -/
def Layout.render (l : Layout) (x : Float) : String :=
  let bits := x.toBits
  if x.isNaN then l.nan
  else
    let sign := if bits >>> 63 == 1 then "-" else ""
    if x.isInf then sign ++ l.infinity
    else sign ++ l.text ((Binary.ofBits bits).shortest l.tie)

end CodeFlow.Decimal
