import CodeFlow.Json.Basic

/-!
# Tables

A table is a list of members in the order in which their keys first came up. Main statements: what
is found under a key after something was put under it, and under all other keys.
-/

namespace CodeFlow.Settings

variable {α : Type}

/-- Puts something under a key, in the place of what is there. -/
def put (key : String) (a : α) : List (String × α) → List (String × α)
  | [] => [(key, a)]
  | (k, b) :: rest => if k = key then (key, a) :: rest else (k, b) :: put key a rest

theorem lookup_put (key k : String) (a : α) (table : List (String × α)) :
    (put key a table).lookup k = if k = key then some a else table.lookup k := by
  induction table with
  | nil =>
    by_cases h : k = key
    · simp [put, h]
    · simp [put, List.lookup_cons, beq_false_of_ne h, h]
  | cons m rest ih =>
    obtain ⟨k', b⟩ := m
    by_cases h' : k' = key
    · by_cases h : k = key
      · simp [put, h, h']
      · simp [put, List.lookup_cons, beq_false_of_ne h, h, h']
    · rw [put, if_neg h', List.lookup_cons, List.lookup_cons, ih]
      by_cases h : k = k'
      · simp [h, h']
      · simp [beq_false_of_ne h]

/-- The members of a table; anything else has none. -/
def membersOf : Json → List (String × Json)
  | .obj members => members
  | _ => []

/-- The items of a list; anything else has none. -/
def itemsOf : Json → List Json
  | .arr items => items
  | _ => []

end CodeFlow.Settings
