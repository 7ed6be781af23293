import CodeFlow.Proofs.Json.Numbers

/-!
# Spelled values

A text spells a value if it consists of the value's tokens with any white space behind an opening
bracket, a comma or a colon and before a closing bracket. Both written forms spell their value.
-/

namespace CodeFlow.Json

open CodeFlow.Text

/-! ## White space -/

/-- White space, or nothing. -/
def Blank (bs : List UInt8) : Prop :=
  ∀ b ∈ bs, isSpace b = true

theorem Blank.nil : Blank [] := by
  simp [Blank]

theorem Blank.skipSpace {ws : List UInt8} (h : Blank ws) (bs : List UInt8) :
    skipSpace (ws ++ bs) = skipSpace bs := by
  induction ws with
  | nil => rfl
  | cons b ws ih =>
    rw [List.cons_append, Json.skipSpace, List.dropWhile_cons_of_pos (h b List.mem_cons_self)]
    exact ih fun b hb => h b (List.mem_cons_of_mem _ hb)

theorem blank_newline (level : Nat) : Blank (Utf8.encode (newline level)) := by
  have hspaces (n : Nat) : Blank (Utf8.encode (List.replicate n ' ')) := by
    induction n with
    | zero => exact Blank.nil
    | succ n ih =>
      rw [List.replicate_succ, Utf8.encode_cons]
      exact List.forall_mem_cons.mpr ⟨rfl, ih⟩
  exact List.forall_mem_cons.mpr ⟨rfl, hspaces _⟩

theorem blank_space : Blank (Utf8.encode [' ']) :=
  List.forall_mem_cons.mpr ⟨rfl, Blank.nil⟩

/-- What stands before an item or a member: white space, and a comma before it unless the item or
member is the first. -/
def Lead (first : Bool) (lead : List UInt8) : Prop :=
  ∃ ws, Blank ws ∧ lead = if first then ws else 44 :: ws

/-! ## Spelled values -/

mutual

/-- A text that spells a value. -/
inductive Spells : Json → List UInt8 → Prop
  | null : Spells .null (Utf8.encode (write .null))
  | bool (b : Bool) : Spells (.bool b) (Utf8.encode (write (.bool b)))
  | int (n : Int) : Spells (.int n) (Utf8.encode (writeInt n))
  | float (x : Float) : Spells (.float x) (Utf8.encode (write (.float x)))
  | str (s : String) : Spells (.str s) (Utf8.encode (writeString s))
  | arr {js : List Json} {text : List UInt8} (h : SpellsItems true js text) :
    Spells (.arr js) (91 :: text)
  | obj {ms : List (String × Json)} {text : List UInt8} (h : SpellsMembers true ms text) :
    Spells (.obj ms) (123 :: text)

/-- Items from the first or a later one on, and the end of their list. -/
inductive SpellsItems : Bool → List Json → List UInt8 → Prop
  | nil {first : Bool} {ws : List UInt8} (h : Blank ws) : SpellsItems first [] (ws ++ [93])
  | cons {first : Bool} {j : Json} {js : List Json} {lead text further : List UInt8}
    (hlead : Lead first lead) (h : Spells j text) (hfurther : SpellsItems false js further) :
    SpellsItems first (j :: js) (lead ++ (text ++ further))

/-- Members from the first or a later one on, and the end of their object. -/
inductive SpellsMembers : Bool → List (String × Json) → List UInt8 → Prop
  | nil {first : Bool} {ws : List UInt8} (h : Blank ws) : SpellsMembers first [] (ws ++ [125])
  | cons {first : Bool} {key : String} {j : Json} {ms : List (String × Json)}
    {lead ws text further : List UInt8} (hlead : Lead first lead) (hws : Blank ws)
    (h : Spells j text) (hfurther : SpellsMembers false ms further) :
    SpellsMembers first ((key, j) :: ms)
      (lead ++ (Utf8.encode (writeString key) ++ 58 :: (ws ++ (text ++ further))))

end

/-! ## Both forms -/

mutual

/-- The compact form of a value spells it. -/
theorem spells_write : (j : Json) → Spells j (Utf8.encode (write j))
  | .null => .null
  | .bool b => .bool b
  | .int n => .int n
  | .float x => .float x
  | .str s => .str s
  | .arr [] => .arr (.nil Blank.nil)
  | .arr (j :: js) => by
    have hitems : SpellsItems true (j :: js) _ := .cons ⟨[], Blank.nil, rfl⟩ (spells_write j)
      (spells_writeItems js)
    rw [write, List.cons_append, Utf8.encode_cons, Utf8.encode_append]
    exact .arr hitems
  | .obj [] => .obj (.nil Blank.nil)
  | .obj ((key, j) :: ms) => by
    have hmembers : SpellsMembers true ((key, j) :: ms) _ := .cons ⟨[], Blank.nil, rfl⟩ Blank.nil
      (spells_write j) (spells_writeMembers ms)
    rw [write]
    simp only [List.cons_append, List.append_assoc, Utf8.encode_cons, Utf8.encode_append]
    exact .obj hmembers

theorem spells_writeItems : (js : List Json) → SpellsItems false js (Utf8.encode (writeItems js))
  | [] => .nil Blank.nil
  | j :: js => by
    have hitems : SpellsItems false (j :: js) _ := .cons ⟨[], Blank.nil, rfl⟩ (spells_write j)
      (spells_writeItems js)
    rw [writeItems, List.cons_append, Utf8.encode_cons, Utf8.encode_append]
    exact hitems

theorem spells_writeMembers :
    (ms : List (String × Json)) → SpellsMembers false ms (Utf8.encode (writeMembers ms))
  | [] => .nil Blank.nil
  | (key, j) :: ms => by
    have hmembers : SpellsMembers false ((key, j) :: ms) _ := .cons ⟨[], Blank.nil, rfl⟩ Blank.nil
      (spells_write j) (spells_writeMembers ms)
    rw [writeMembers]
    simp only [List.cons_append, List.append_assoc, Utf8.encode_cons, Utf8.encode_append]
    exact hmembers

end

mutual

/-- The indented form of a value spells it at every level. -/
theorem spells_writeAt (level : Nat) : (j : Json) → Spells j (Utf8.encode (writeAt level j))
  | .null => .null
  | .bool b => .bool b
  | .int n => .int n
  | .float x => .float x
  | .str s => .str s
  | .arr [] => .arr (.nil Blank.nil)
  | .arr (j :: js) => by
    have hitems : SpellsItems true (j :: js) _ := .cons ⟨_, blank_newline (level + 1), rfl⟩
      (spells_writeAt (level + 1) j) (spells_writeItemsAt level js)
    rw [writeAt]
    simp only [List.cons_append, List.append_assoc, Utf8.encode_cons, Utf8.encode_append]
    exact .arr hitems
  | .obj [] => .obj (.nil Blank.nil)
  | .obj ((key, j) :: ms) => by
    have hmembers : SpellsMembers true ((key, j) :: ms) _ := .cons
      ⟨_, blank_newline (level + 1), rfl⟩ blank_space
      (spells_writeAt (level + 1) j) (spells_writeMembersAt level ms)
    rw [writeAt]
    simp only [List.cons_append, List.append_assoc, Utf8.encode_cons, Utf8.encode_append]
    exact .obj hmembers

theorem spells_writeItemsAt (level : Nat) :
    (js : List Json) → SpellsItems false js (Utf8.encode (writeItemsAt level js))
  | [] => by
    rw [writeItemsAt, Utf8.encode_append]
    exact .nil (blank_newline level)
  | j :: js => by
    have hitems : SpellsItems false (j :: js) _ := .cons ⟨_, blank_newline (level + 1), rfl⟩
      (spells_writeAt (level + 1) j) (spells_writeItemsAt level js)
    rw [writeItemsAt]
    simp only [List.cons_append, List.append_assoc, Utf8.encode_cons, Utf8.encode_append]
    exact hitems

theorem spells_writeMembersAt (level : Nat) :
    (ms : List (String × Json)) → SpellsMembers false ms (Utf8.encode (writeMembersAt level ms))
  | [] => by
    rw [writeMembersAt, Utf8.encode_append]
    exact .nil (blank_newline level)
  | (key, j) :: ms => by
    have hmembers : SpellsMembers false ((key, j) :: ms) _ := .cons
      ⟨_, blank_newline (level + 1), rfl⟩ blank_space
      (spells_writeAt (level + 1) j) (spells_writeMembersAt level ms)
    rw [writeMembersAt]
    simp only [List.cons_append, List.append_assoc, Utf8.encode_cons, Utf8.encode_append]
    exact hmembers

end

/-! ## Where a spelling begins -/

/-- A spelled value begins with a byte that is neither white space nor the end of a list, and only
null begins as null does. Floating-point numbers are left out of this. -/
theorem Spells.head {j : Json} {text : List UInt8} (h : Spells j text)
    (hfloat : ∀ x, j ≠ .float x) :
    ∃ b bs, text = b :: bs ∧ ¬ isSpace b = true ∧ b ≠ 93 ∧ (j ≠ .null → b ≠ 110) := by
  cases h with
  | null => exact ⟨110, _, rfl, by decide, by decide, absurd rfl⟩
  | bool b =>
    cases b with
    | true => exact ⟨116, _, rfl, by decide, by decide, fun _ => by decide⟩
    | false => exact ⟨102, _, rfl, by decide, by decide, fun _ => by decide⟩
  | int n =>
    obtain ⟨b, bs, heq, hb⟩ := encode_writeInt_head n
    obtain ⟨hspace, hend, hnull⟩ : ¬ isSpace b = true ∧ b ≠ 93 ∧ b ≠ 110 := by
      rcases hb with hdigit | rfl
      · exact ⟨not_isSpace_of_isDigit hdigit, ne_of_isDigit hdigit (by decide),
          ne_of_isDigit hdigit (by decide)⟩
      · decide
    exact ⟨b, bs, heq, hspace, hend, fun _ => hnull⟩
  | float x => exact absurd rfl (hfloat x)
  | str s => exact ⟨34, _, encode_writeString s, by decide, by decide, fun _ => by decide⟩
  | arr h => exact ⟨91, _, rfl, by decide, by decide, fun _ => by decide⟩
  | obj h => exact ⟨123, _, rfl, by decide, by decide, fun _ => by decide⟩

theorem Blank.follows {ws : List UInt8} (h : Blank ws) {bs : List UInt8} (hbs : Follows bs) :
    Follows (ws ++ bs) := by
  cases ws with
  | nil => exact hbs
  | cons b ws =>
    rintro _ ⟨⟩
    exact .inl (h b List.mem_cons_self)

theorem Lead.follows {lead : List UInt8} (h : Lead false lead) (bs : List UInt8) :
    Follows (lead ++ bs) := by
  obtain ⟨ws, -, rfl⟩ := h
  rintro _ ⟨⟩
  exact .inr (.inl rfl)

/-- Behind an item come white space, a comma or the end of the list. -/
theorem SpellsItems.follows {js : List Json} {text : List UInt8} (h : SpellsItems false js text)
    (rest : List UInt8) : Follows (text ++ rest) := by
  cases h with
  | nil hws =>
    rw [List.append_assoc]
    exact Blank.follows hws (by rintro _ ⟨⟩; exact .inr (.inr (.inl rfl)))
  | cons hlead =>
    rw [List.append_assoc]
    exact hlead.follows _

/-- Behind a member come white space, a comma or the end of the object. -/
theorem SpellsMembers.follows {ms : List (String × Json)} {text : List UInt8}
    (h : SpellsMembers false ms text) (rest : List UInt8) : Follows (text ++ rest) := by
  cases h with
  | nil hws =>
    rw [List.append_assoc]
    exact Blank.follows hws (by rintro _ ⟨⟩; exact .inr (.inr (.inr rfl)))
  | cons hlead =>
    rw [List.append_assoc]
    exact hlead.follows _

end CodeFlow.Json
