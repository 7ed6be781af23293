import CodeFlow.Decimal.Layout
import CodeFlow.Decimal.Numeral
import CodeFlow.Json.Shape
import CodeFlow.Settings.Table

/-!
# Values from settings

Settings are read leniently: a number or a truth value serves as a text, and a text that can be one
serves as a number. Faults are not told apart.
-/

namespace CodeFlow.Settings

/-! ## Scalars -/

/-- Numbers in texts are written without exponents, and whole ones without a point. -/
def numberLayout : Decimal.Layout where
  plainFrom := none
  plainTo := none
  pointZero := false
  plusSign := false
  exponentDigits := 1
  tie := .toEven
  nan := "NaN"
  infinity := "inf"

/-- A text; nothing and what holds other values are none. -/
def text? : Json → Option String
  | .str s => some s
  | .bool b => some (if b then "true" else "false")
  | .int n => some (toString n)
  | .float x => some (numberLayout.render x)
  | _ => none

/-- The number that a word for yes or no stands for. -/
def wordNumber? (s : String) : Option Nat :=
  let word := String.ofList (s.toList.map Char.toLower)
  if ["true", "on", "yes"].contains word then some 1
  else if ["false", "off", "no"].contains word then some 0
  else none

/-- A number from zero below 2^64. -/
def unsigned? : Json → Option UInt64
  | .int n => Json.toUInt64? n
  | .str s =>
    match wordNumber? s with
    | some n => some (UInt64.ofNat n)
    | none => (Decimal.readUnsigned s).toOption
  | .bool b => some (if b then 1 else 0)
  | .float x => some (UInt64.ofNat (Decimal.roundWithin 0 18446744073709551615 x).toNat)
  | _ => none

/-- A whole number of 64 bits. -/
def signed? : Json → Option Int64
  | .int n => Json.toInt64? n
  | .str s =>
    match wordNumber? s with
    | some n => some (Int64.ofNat n)
    | none => (Decimal.signed? s.toList).map Int64.ofInt
  | .bool b => some (if b then 1 else 0)
  | .float x =>
    some (Int64.ofInt (Decimal.roundWithin (-9223372036854775808) 9223372036854775807 x))
  | _ => none

/-- A point in time. -/
def instant? (j : Json) : Option Time.Instant := do
  (Time.Instant.read (← text? j).toList).toOption

/-! ## Values of a shape -/

/-- Null, or else a value. -/
def optional? {α : Type} (read : Json → Option α) : Json → Option (Option α)
  | .null => some none
  | j => (read j).map some

/-- The member of a table with a key, which may be missing. -/
def member? {α : Type} (read : Json → Option α) (key : String) (members : List (String × Json)) :
    Option (Option α) :=
  match members.lookup key with
  | none => some none
  | some j => (read j).map some

/-- The items of a list. -/
def list? {α : Type} (read : Json → Option α) : Json → Option (List α)
  | .arr items => items.mapM read
  | _ => none

/-- A record from a table or from a list of its fields. -/
def record? {α : Type} (members : List (String × Json) → Option α) (items : List Json → Option α) :
    Json → Option α
  | .obj ms => members ms
  | .arr js => items js
  | _ => none

mutual

/-- A value of a shape. -/
def ofShape? : (s : Json.Shape) → Json → Option s.Val
  | .text => text?
  | .instant => instant?
  | .unsigned _ => unsigned?
  | .signed => signed?
  | .optional s => optional? (ofShape? s)
  | .list s => list? (ofShape? s)
  | .record _ fields => record? (ofMembers? fields) (ofItems? fields)

/-- Fields from the members of a table, of which others are passed over. -/
def ofMembers? : (fields : Json.Fields) → List (String × Json) → Option fields.Val
  | .nil, _ => some ()
  | .required key s rest, members => do
    let v ← member? (ofShape? s) key members
    pure (← v, ← ofMembers? rest members)
  | .nullable key s rest, members => do
    let v ← member? (optional? (ofShape? s)) key members
    pure (v.join, ← ofMembers? rest members)
  | .defaulted key s rest, members => do
    let v ← member? (ofShape? s) key members
    pure (v, ← ofMembers? rest members)

/-- Fields from items in their order, of which further ones are passed over. -/
def ofItems? : (fields : Json.Fields) → List Json → Option fields.Val
  | .nil, _ => some ()
  | .required _ _ _, [] => none
  | .required _ s rest, j :: items => do pure (← ofShape? s j, ← ofItems? rest items)
  | .nullable _ _ _, [] => none
  | .nullable _ s rest, j :: items => do
    pure (← optional? (ofShape? s) j, ← ofItems? rest items)
  | .defaulted _ _ rest, [] => do pure (none, ← ofItems? rest [])
  | .defaulted _ s rest, j :: items => do pure (some (← ofShape? s j), ← ofItems? rest items)

end

/-- The value that a table of settings stands for. -/
def decode? {α : Type} (f : Json.Form α) (table : List (String × Json)) : Option α :=
  (ofShape? f.shape (.obj table)).map f.ofVal

end CodeFlow.Settings
