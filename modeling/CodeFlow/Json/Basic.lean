/-!
# JSON values

A JSON value with its members in the order in which they stand. Numbers are integers of any size
or floating-point numbers, and the two stay apart: `1` and `1.0` are different values.
-/

namespace CodeFlow

/-- A JSON value. -/
inductive Json where
  | null
  | bool (b : Bool)
  | int (n : Int)
  | float (x : Float)
  | str (s : String)
  | arr (items : List Json)
  | obj (members : List (String × Json))
deriving Inhabited, BEq, Repr

namespace Json

/-- The value of the first member with a name. -/
def get? (j : Json) (name : String) : Option Json :=
  match j with
  | .obj members => members.lookup name
  | _ => none

/-- An optional text, absent as null. -/
def ofText? : Option String → Json
  | some s => .str s
  | none => .null

/-- An optional integer, absent as null. -/
def ofInt? : Option Int → Json
  | some n => .int n
  | none => .null

end Json

end CodeFlow
