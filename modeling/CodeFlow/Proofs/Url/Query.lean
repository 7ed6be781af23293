import CodeFlow.Proofs.Url.Spelling

/-!
# Parameters read back

Pairs that are put behind the query of an address are read back as they are, behind those that the
address had. No key and no value can end its pair or begin another one: the signs that would do so
are written as bytes.
-/

namespace CodeFlow.Url

open CodeFlow.Text

/-! ## What is written is a spelling -/

theorem digitIn?_upperHex : ∀ n < 16, digitIn? 16 (upperHex n) = some n := by
  decide

theorem spellsBytes_escapeBytes (bs : List UInt8) : SpellsBytes bs (bs.flatMap escapeByte) := by
  induction bs with
  | nil => exact .nil
  | cons b bs ih =>
    have hbyte := b.toNat_lt
    exact .cons (digitIn?_upperHex _ (by omega)) (digitIn?_upperHex _ (by omega)) ih

theorem ascii_of_inParameter {c : Char} (h : inParameter c = true) : c.toNat < 128 := by
  simp only [inParameter, Bool.or_eq_true, Bool.and_eq_true, decide_eq_true_eq, beq_iff_eq,
    Char.le_def, UInt32.le_iff_toNat_le] at h
  change c.val.toNat < 128
  rcases h with ((((((⟨-, h⟩ | ⟨-, h⟩) | ⟨-, h⟩) | rfl) | rfl) | rfl) | rfl)
  · exact Nat.lt_of_le_of_lt h (by decide)
  · exact Nat.lt_of_le_of_lt h (by decide)
  · exact Nat.lt_of_le_of_lt h (by decide)
  all_goals decide

theorem isPlain_of_inParameter {c : Char} (h : inParameter c = true) : isPlain c = true :=
  ascii_of_forall (p := fun c => inParameter c = true → isPlain c = true) (by decide)
    (ascii_of_inParameter h) h

theorem spellsChar_writeParameterChar (c : Char) : SpellsChar c (writeParameterChar c) := by
  unfold writeParameterChar escapeChar
  split
  · rename_i hspace
    rw [hspace]
    exact .space
  · split
    · rename_i hkept
      exact .plain (isPlain_of_inParameter hkept)
    · exact .escaped (spellsBytes_escapeBytes _)

theorem spells_writeParameter (cs : List Char) : Spells cs (writeParameter cs) := by
  induction cs with
  | nil => exact .nil
  | cons c cs ih => exact .cons (spellsChar_writeParameterChar c) ih

theorem spellsPair_writePair (p : String × String) : SpellsPair p (writePair p) :=
  .mk (spells_writeParameter _) (spells_writeParameter _)

/-! ## Queries -/

/-- The pairs that are put behind a query are read behind its own. -/
theorem pairsOf_appendPairs (query : List Char) (ps : List (String × String)) :
    pairsOf (appendPairs query ps) = pairsOf query ++ ps := by
  induction ps generalizing query with
  | nil => simp [appendPairs]
  | cons p ps ih =>
    have hpair : pairsOf (writePair p) = [p] := pairsOf_of_spellsPair (spellsPair_writePair p)
    rw [appendPairs, ih]
    split
    · rename_i hempty
      rw [hempty, hpair]
      rfl
    · rw [pairsOf_append, hpair, List.append_assoc]
      rfl

theorem intercalate_cons (sep piece : List Char) (pieces : List (List Char)) :
    List.intercalate sep (piece :: pieces) = piece ++ pieces.flatMap (sep ++ ·) := by
  induction pieces generalizing piece with
  | nil => simp [List.intercalate]
  | cons next pieces ih =>
    rw [List.intercalate_cons_cons, ih, List.flatMap_cons]
    simp

theorem appendPairs_of_ne_nil {query : List Char} (h : query ≠ []) (ps : List (String × String)) :
    appendPairs query ps = query ++ ps.flatMap fun p => '&' :: writePair p := by
  induction ps generalizing query with
  | nil => simp [appendPairs]
  | cons p ps ih =>
    rw [appendPairs, if_neg h, ih (by simp [h])]
    simp

/-- Pairs that are written on their own spell themselves. -/
theorem spellsQuery_appendPairs (ps : List (String × String)) :
    SpellsQuery ps (appendPairs [] ps) := by
  refine ⟨ps.map writePair, ?_, ?_⟩
  · rw [List.forall₂_map_right_iff, List.forall₂_same]
    intro p _
    exact spellsPair_writePair p
  · cases ps with
    | nil => rfl
    | cons p ps =>
      have hne : writePair p ≠ [] := (spellsPair_writePair p).ne_nil
      rw [appendPairs, if_pos rfl, appendPairs_of_ne_nil hne, List.map_cons, intercalate_cons]
      simp [List.flatMap_map]

theorem pairs_eq (u : CodeFlow.Url) : u.pairs = pairsOf (u.query.getD []) := by
  unfold pairs
  cases u.query <;> rfl

/-- The pairs that are added to an address are read behind its own. -/
theorem pairs_addPairs (u : CodeFlow.Url) (ps : List (String × String)) :
    (u.addPairs ps).pairs = u.pairs ++ ps := by
  rw [u.pairs_eq, ← pairsOf_appendPairs]
  unfold addPairs
  cases happend : appendPairs (u.query.getD []) ps with
  | cons c cs => rfl
  | nil =>
    change (u.withQuery none).pairs = []
    unfold withQuery
    by_cases hfragment : u.fragment = none
    · simp [hfragment, pairs]
    · simp [hfragment, pairs]

end CodeFlow.Url
