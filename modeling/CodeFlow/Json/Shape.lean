import CodeFlow.Json.Basic
import CodeFlow.Time.Rfc3339

/-!
# Shapes of documents

A document whose form is fixed is described by a `Shape`, and the values that it can hold are
`Shape.Val`. Reading and writing are defined by recursion on the shape, so that what holds of them
is shown once and not once for every document. A `Form` ties a shape to a type of the library.
-/

namespace CodeFlow.Json

/-! ## Shapes and their values -/

mutual

/-- The form of a document. -/
inductive Shape where
  | text
  | instant
  /-- A number from zero below 2^64; the name is what the number is called when it is missing. -/
  | unsigned (called : String)
  /-- A whole number of 64 bits. -/
  | signed
  | optional (s : Shape)
  | list (s : Shape)
  | record (called : String) (fields : Fields)

/-- The fields of a record, in their order. -/
inductive Fields where
  | nil
  /-- A field that must stand in every record. -/
  | required (key : String) (s : Shape) (rest : Fields)
  /-- A field that may be null, and may be left out of an object. -/
  | nullable (key : String) (s : Shape) (rest : Fields)
  /-- A field that may be left out. -/
  | defaulted (key : String) (s : Shape) (rest : Fields)

end

mutual

/-- The values of a shape. -/
def Shape.Val : Shape → Type
  | .text => String
  | .instant => Time.Instant
  | .unsigned _ => UInt64
  | .signed => Int64
  | .optional s => Option s.Val
  | .list s => List s.Val
  | .record _ fields => fields.Val

/-- The values of some fields, one for each. A field that may be left out has none if it was. -/
def Fields.Val : Fields → Type
  | .nil => Unit
  | .required _ s rest => s.Val × rest.Val
  | .nullable _ s rest => Option s.Val × rest.Val
  | .defaulted _ s rest => Option s.Val × rest.Val

end

/-- The number of fields. -/
def Fields.size : Fields → Nat
  | .nil => 0
  | .required _ _ rest => rest.size + 1
  | .nullable _ _ rest => rest.size + 1
  | .defaulted _ _ rest => rest.size + 1

/-- The keys of some fields. -/
def Fields.keys : Fields → List String
  | .nil => []
  | .required key _ rest => key :: rest.keys
  | .nullable key _ rest => key :: rest.keys
  | .defaulted key _ rest => key :: rest.keys

/-! ## Collecting members -/

mutual

/-- What is known of some fields while the members of an object are read. -/
def Fields.Seen : Fields → Type
  | .nil => Unit
  | .required _ s rest => Option s.Val × rest.Seen
  | .nullable _ s rest => Option (Option s.Val) × rest.Seen
  | .defaulted _ s rest => Option s.Val × rest.Seen

end

/-- Nothing is known yet. -/
def Fields.unseen : (fields : Fields) → fields.Seen
  | .nil => ()
  | .required _ _ rest => (none, rest.unseen)
  | .nullable _ _ rest => (none, rest.unseen)
  | .defaulted _ _ rest => (none, rest.unseen)

/-- The values once all members were read, or the first field that is missing. -/
def Fields.complete : (fields : Fields) → fields.Seen → Except String fields.Val
  | .nil, _ => .ok ()
  | .required key _ _, (none, _) => .error key
  | .required _ _ rest, (some v, seen) =>
    match rest.complete seen with
    | .ok vs => .ok (v, vs)
    | .error key => .error key
  | .nullable _ _ rest, (v, seen) =>
    match rest.complete seen with
    | .ok vs => .ok (v.join, vs)
    | .error key => .error key
  | .defaulted _ _ rest, (v, seen) =>
    match rest.complete seen with
    | .ok vs => .ok (v, vs)
    | .error key => .error key

/-! ## What is expected -/

/-- How a number of fields is counted. -/
def elements (n : Nat) : String :=
  if n = 1 then "1 element" else s!"{n} elements"

/-- What a reader of a shape expects to find. -/
def Shape.expected : Shape → String
  | .text => "a string"
  | .instant => "an RFC 3339 formatted date and time string"
  | .unsigned called => called
  | .signed => "i64"
  | .optional s => s.expected
  | .list _ => "a sequence"
  | .record called _ => s!"struct {called}"

/-- What a reader of a record expects when it counts. -/
def expectedLength (called : String) (fields : Fields) : String :=
  s!"struct {called} with {elements fields.size}"

/-! ## Scalars -/

/-- A number in the range of 64 bits without sign. -/
def toUInt64? (n : Int) : Option UInt64 :=
  if 0 ≤ n ∧ n < 18446744073709551616 then some (UInt64.ofNat n.toNat) else none

/-- A number in the range of 64 bits with sign. -/
def toInt64? (n : Int) : Option Int64 :=
  if -9223372036854775808 ≤ n ∧ n < 9223372036854775808 then some (Int64.ofInt n) else none

theorem toUInt64?_toNat (n : UInt64) : toUInt64? n.toNat = some n := by
  have h : n.toNat < 18446744073709551616 := n.toNat_lt
  simp [toUInt64?]
  omega

/-! ## Writing -/

mutual

/-- A value as JSON. -/
def Shape.toJson : (s : Shape) → s.Val → Json
  | .text, v => .str v
  | .instant, v => .str v.toText
  | .unsigned _, v => .int v.toNat
  | .signed, v => .int v.toInt
  | .optional _, none => .null
  | .optional s, some v => s.toJson v
  | .list s, vs => .arr (vs.map s.toJson)
  | .record _ fields, vs => .obj (fields.toMembers vs)

/-- The values of some fields as members of an object. -/
def Fields.toMembers : (fields : Fields) → fields.Val → List (String × Json)
  | .nil, _ => []
  | .required key s rest, (v, vs) => (key, s.toJson v) :: rest.toMembers vs
  | .nullable key _ rest, (none, vs) => (key, .null) :: rest.toMembers vs
  | .nullable key s rest, (some v, vs) => (key, s.toJson v) :: rest.toMembers vs
  | .defaulted _ _ rest, (none, vs) => rest.toMembers vs
  | .defaulted key s rest, (some v, vs) => (key, s.toJson v) :: rest.toMembers vs

end

/-! ## Forms -/

/-- A type whose values are written in documents of one shape. -/
structure Form (α : Type) where
  shape : Shape
  ofVal : shape.Val → α
  toVal : α → shape.Val
  ofVal_toVal : ∀ a, ofVal (toVal a) = a

/-- A value as JSON. -/
def Form.toJson {α : Type} (f : Form α) (a : α) : Json :=
  f.shape.toJson (f.toVal a)

end CodeFlow.Json
