import CodeFlow.Json.Fault
import CodeFlow.Json.Shape

/-!
# Documents from JSON values

The same shapes as in `CodeFlow.Json.Reader`, read from a value that is already there. Faults have
no place. Of members with one key the last counts, and members are visited in the order of their
keys, which decides between two faults.
-/

namespace CodeFlow.Json

/-! ## Members in order -/

/-- Puts a member in its place among ordered members, in place of one with its key. -/
def insertMember (key : String) (j : Json) : List (String × Json) → List (String × Json)
  | [] => [(key, j)]
  | (k, v) :: rest =>
    if key < k then (key, j) :: (k, v) :: rest
    else if key = k then (key, j) :: rest
    else (k, v) :: insertMember key j rest

/-- The members in the order of their keys, the last of each key. -/
def sortMembers (members : List (String × Json)) : List (String × Json) :=
  members.foldl (fun sorted m => insertMember m.1 m.2 sorted) []

/-! ## Scalars -/

/-- A fault for a value of another type than was expected. -/
def mismatch {α : Type} (expected : String) (j : Json) : Except Cause α :=
  .error (.wrongType (found j) expected)

/-- A text. -/
def decodeText : Json → Except Cause String
  | .str s => .ok s
  | j => mismatch Shape.text.expected j

/-- A point in time. -/
def decodeInstant : Json → Except Cause Time.Instant
  | .str s =>
    match Time.Instant.read s.toList with
    | .ok t => .ok t
    | .error t => .error (.malformed t.message)
  | j => mismatch Shape.instant.expected j

/-- A whole number within a range. -/
def decodeInt {α : Type} (expected : String) (ofInt? : Int → Option α) : Json → Except Cause α
  | .int n =>
    match ofInt? n with
    | some v => .ok v
    | none => .error (.wrongValue (.int n) expected)
  | j => mismatch expected j

/-- Null, or else a value. -/
def decodeOptional {α : Type} (decode : Json → Except Cause α) : Json → Except Cause (Option α)
  | .null => .ok none
  | j => (decode j).map some

/-- A member whose key is that of a field. -/
def decodeField {α : Type} (decode : Json → Except Cause α) (j : Json) :
    Except Cause (Option α) :=
  (decode j).map some

/-- Elements that no field takes are one fault together. -/
def tooLong (items : List Json) : Cause :=
  .wrongLength items.length "fewer elements in array"

/-- Goes through members in their order. -/
def decodeMembers {σ : Type} (member : String → σ → Json → Except Cause σ) :
    List (String × Json) → σ → Except Cause σ
  | [], seen => .ok seen
  | (key, j) :: rest, seen =>
    match member key seen j with
    | .error c => .error c
    | .ok seen => decodeMembers member rest seen

/-- A record from an object or from a list of its fields. -/
def decodeRecord {σ α : Type} (called : String) (unseen : σ)
    (member : String → σ → Json → Except Cause σ) (complete : σ → Except String α)
    (elements : List Json → Except Cause (α × List Json)) : Json → Except Cause α
  | .obj members =>
    match decodeMembers member (sortMembers members) unseen with
    | .error c => .error c
    | .ok seen =>
      match complete seen with
      | .error key => .error (.missing key)
      | .ok v => .ok v
  | .arr items =>
    match elements items with
    | .error c => .error c
    | .ok (v, []) => .ok v
    | .ok (_, _ :: _) => .error (tooLong items)
  | j => mismatch s!"struct {called}" j

/-! ## Values of a shape -/

mutual

/-- A value of a shape. -/
def Shape.decode : (s : Shape) → Json → Except Cause s.Val
  | .text => decodeText
  | .instant => decodeInstant
  | .unsigned called => decodeInt called toUInt64?
  | .signed => decodeInt Shape.signed.expected toInt64?
  | .optional s => decodeOptional s.decode
  | .list s => fun j =>
    match j with
    | .arr items => items.mapM s.decode
    | j => mismatch (Shape.list .text).expected j
  | .record called fields =>
    decodeRecord called fields.unseen fields.decodeMember fields.complete
      (fields.decodeElements (expectedLength called fields) 0)

/-- A member of an object: a field, or something to pass over. -/
def Fields.decodeMember : (fields : Fields) → String → fields.Seen → Json →
    Except Cause fields.Seen
  | .nil, _, seen, _ => .ok seen
  | .required key s rest, k, (v, seen), j =>
    if k = key then (decodeField s.decode j).map (·, seen)
    else (rest.decodeMember k seen j).map (v, ·)
  | .nullable key s rest, k, (v, seen), j =>
    if k = key then (decodeField (decodeOptional s.decode) j).map (·, seen)
    else (rest.decodeMember k seen j).map (v, ·)
  | .defaulted key s rest, k, (v, seen), j =>
    if k = key then (decodeField s.decode j).map (·, seen)
    else (rest.decodeMember k seen j).map (v, ·)

/-- The fields as elements of a list, of which `n` have been taken; with them the elements that
are left. -/
def Fields.decodeElements : (fields : Fields) → String → Nat → List Json →
    Except Cause (fields.Val × List Json)
  | .nil, _, _, items => .ok ((), items)
  | .required _ _ _, whole, n, [] => .error (.wrongLength n whole)
  | .required _ s rest, whole, n, j :: items =>
    match s.decode j with
    | .error c => .error c
    | .ok v => (rest.decodeElements whole (n + 1) items).map fun p => ((v, p.1), p.2)
  | .nullable _ _ _, whole, n, [] => .error (.wrongLength n whole)
  | .nullable _ s rest, whole, n, j :: items =>
    match decodeOptional s.decode j with
    | .error c => .error c
    | .ok v => (rest.decodeElements whole (n + 1) items).map fun p => ((v, p.1), p.2)
  | .defaulted _ _ rest, whole, n, [] =>
    (rest.decodeElements whole (n + 1) []).map fun p => ((none, p.1), p.2)
  | .defaulted _ s rest, whole, n, j :: items =>
    match s.decode j with
    | .error c => .error c
    | .ok v => (rest.decodeElements whole (n + 1) items).map fun p => ((some v, p.1), p.2)

end

/-- The value that a JSON value stands for. -/
def Form.decode {α : Type} (f : Form α) (j : Json) : Except Cause α :=
  (f.shape.decode j).map f.ofVal

end CodeFlow.Json
