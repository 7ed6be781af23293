import CodeFlow.Pkce
import CodeFlow.Proofs.Text.Base64

/-!
# Draws that can be told apart

A verifier is its random bytes in other characters, so verifiers differ as soon as the bytes do. A
state is not: six of its bits are marks that all states share, and two draws that differ in these
bits only make one state.
-/

namespace CodeFlow.Pkce

open CodeFlow.Text

/-! ## Verifiers -/

theorem length_verifierOf {draw : List UInt8} (h : draw.length = verifierBytes) :
    (verifierOf draw).length = 43 := by
  rw [verifierOf, String.length_ofList, Base64.length_encodeUrl, h]
  rfl

theorem isUrlDigit_of_mem_verifierOf {draw : List UInt8} {c : Char}
    (h : c ∈ (verifierOf draw).toList) : Base64.IsUrlDigit c := by
  rw [verifierOf, String.toList_ofList] at h
  exact Base64.isUrlDigit_of_mem_encodeUrl h

theorem verifierOf_injective : Function.Injective verifierOf := by
  intro draw draw' h
  apply Base64.encodeUrl_injective
  exact String.ofList_injective h

/-! ## States -/

theorem lowerHex_injective : ∀ m < 16, ∀ n < 16, lowerHex m = lowerHex n → m = n := by
  decide

theorem lowerHex_ne_dash {n : Nat} (h : n < 16) : lowerHex n ≠ '-' := by
  decide +revert

theorem digits_of_byte (b : UInt8) : b.toNat / 16 < 16 ∧ b.toNat % 16 < 16 := by
  have hb := b.toNat_lt
  omega

theorem hex_cons (b : UInt8) (bs : List UInt8) :
    hex (b :: bs) = lowerHex (b.toNat / 16) :: lowerHex (b.toNat % 16) :: hex bs := rfl

theorem hex_injective : Function.Injective hex := by
  intro bs bs' h
  induction bs generalizing bs' with
  | nil =>
    cases bs' with
    | nil => rfl
    | cons b' bs' => cases h
  | cons b bs ih =>
    cases bs' with
    | nil => cases h
    | cons b' bs' =>
      rw [hex_cons, hex_cons, List.cons.injEq, List.cons.injEq] at h
      obtain ⟨hhigh, hlow, hrest⟩ := h
      obtain ⟨hb, hb'⟩ := digits_of_byte b
      obtain ⟨hc, hc'⟩ := digits_of_byte b'
      -- both digits agree, so the bytes do
      have hdiv := lowerHex_injective _ hb _ hc hhigh
      have hmod := lowerHex_injective _ hb' _ hc' hlow
      have hbyte : b = b' := by
        apply UInt8.toNat_inj.mp
        omega
      rw [hbyte, ih hrest]

theorem filter_hex (bs : List UInt8) : (hex bs).filter (· ≠ '-') = hex bs := by
  rw [List.filter_eq_self]
  intro c hc
  obtain ⟨b, -, hb⟩ := List.mem_flatMap.mp hc
  obtain ⟨hhigh, hlow⟩ := digits_of_byte b
  simp only [hexByte, List.mem_cons, List.not_mem_nil, or_false] at hb
  rcases hb with rfl | rfl
  · simpa using lowerHex_ne_dash hhigh
  · simpa using lowerHex_ne_dash hlow

theorem hex_append (bs bs' : List UInt8) : hex (bs ++ bs') = hex bs ++ hex bs' :=
  List.flatMap_append

/-- Without the dashes between its groups, a state is all digits of its bytes. -/
theorem filter_stateOf (draw : List UInt8) :
    (stateOf draw).toList.filter (· ≠ '-') = hex (marked draw) := by
  have hdash (cs : List Char) : ('-' :: cs).filter (· ≠ '-') = cs.filter (· ≠ '-') :=
    List.filter_cons_of_neg (by simp)
  -- what one group leaves is where the next one starts
  have hgroup (i n : Nat) : hex (((marked draw).drop i).take n) ++ hex ((marked draw).drop (i + n)) =
      hex ((marked draw).drop i) := by
    rw [← hex_append, ← List.drop_drop, List.take_append_drop]
  unfold stateOf
  rw [String.toList_ofList]
  simp only [List.filter_append, List.append_assoc, List.cons_append, hdash, filter_hex]
  rw [hgroup 8 2, hgroup 6 2, hgroup 4 2]
  exact hgroup 0 4

/-- A state tells all bits of its draw but those under the marks. -/
theorem stateOf_eq_iff {draw draw' : List UInt8} :
    stateOf draw = stateOf draw' ↔ marked draw = marked draw' := by
  constructor
  · intro h
    apply hex_injective
    rw [← filter_stateOf, ← filter_stateOf, h]
  · intro h
    unfold stateOf
    rw [h]

end CodeFlow.Pkce
