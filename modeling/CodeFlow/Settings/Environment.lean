import CodeFlow.Decimal.Numeral
import CodeFlow.Settings.Layers
import CodeFlow.Text.Split

/-!
# Settings from the environment

A variable with the program's prefix names a setting: two underscores go one level down. Its text is
taken for a truth value or a number if it can be one, and split into a list where a list is wanted.
-/

namespace CodeFlow.Settings

open CodeFlow.Text.Scan

/-! ## Names of variables -/

/-- A text with each occurrence of two underscores, taken from the left, made a point. -/
def dotted : List Char → List Char
  | [] => []
  | [c] => [c]
  | c :: d :: cs => if c = '_' ∧ d = '_' then '.' :: dotted cs else c :: dotted (d :: cs)

/-- The key of the setting that a variable names, if it begins with the mark in letters of either
case. -/
def keyOf? (mark variableName : String) : Option String :=
  (behind? mark.toList (small variableName).toList).map fun cs => String.ofList (dotted cs)

/-! ## Values -/

/-- What a text says by itself: a truth value or a number, if it can be one. -/
def plainValue? (text : String) : Option Json :=
  if small text = "true" then some (.bool true)
  else if small text = "false" then some (.bool false)
  else
    match Decimal.signed? text.toList with
    | some n => some (.int n)
    | none => (Decimal.float? text.toList).map .float

/-- The value of a text for a key. -/
def valueOf (lists : List String) (key text : String) : Json :=
  match plainValue? text with
  | some j => j
  | none =>
    if lists.contains key then .arr ((Text.splitOn ' ' text.toList).map fun p => .str (String.ofList p))
    else .str text

/-- The settings that variables name. The texts for some keys are lists. -/
def ofEnvironment (mark : String) (lists : List String) (vars : List (String × String)) :
    Source :=
  vars.filterMap fun v => (keyOf? mark v.1).map fun key => (key, valueOf lists key v.2)

end CodeFlow.Settings
