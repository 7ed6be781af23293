import CodeFlow.Proofs.Url.Spelling
import CodeFlow.Proofs.Url.Reading

/-!
# Hosts hold no spaces and no controls

At the ends of a text spaces and controls are dropped before it is read, but anywhere else they
count. The bytes of a host are decoded twice before it is looked up. A space is part of no escape,
and of no character beyond ASCII, so it is still there when names with spaces are refused
(`readHost_of_isEdge`).
-/

namespace CodeFlow.Url

open CodeFlow.Text

/-- A byte that is no part of an escape is kept. -/
theorem mem_percentDecode {b : UInt8} (hpercent : b ≠ 37) (hdigit : hexDigit? b = none)
    {bs : List UInt8} (h : b ∈ bs) : b ∈ percentDecode bs := by
  induction bs using percentDecode.induct with
  | case1 a a' rest low high hlow hhigh ih =>
    rw [percentDecode_digits hhigh hlow]
    simp only [List.mem_cons, hpercent, false_or] at h
    rcases h with rfl | rfl | h
    · rw [hdigit] at hhigh
      cases hhigh
    · rw [hdigit] at hlow
      cases hlow
    · exact List.mem_cons_of_mem _ (ih h)
  | case2 a a' rest hnone ih =>
    rw [percentDecode]
    split
    · rename_i hhigh hlow
      exact absurd hlow fun hlow => hnone _ _ hhigh hlow
    · exact List.mem_cons_of_mem _ (ih ((List.mem_cons.mp h).resolve_left hpercent))
  | case3 a rest hother ih =>
    rw [percentDecode]
    · rcases List.mem_cons.mp h with rfl | h
      · exact List.mem_cons_self
      · exact List.mem_cons_of_mem _ (ih h)
    · exact hother
  | case4 => exact h

theorem hexDigit?_of_isEdge {c : Char} (h : isEdge c = true) :
    c.toNat < 0x80 ∧ UInt8.ofNat c.toNat ≠ 37 ∧ hexDigit? (UInt8.ofNat c.toNat) = none :=
  of_isEdge (p := fun c => c.toNat < 0x80 ∧ UInt8.ofNat c.toNat ≠ 37 ∧
    hexDigit? (UInt8.ofNat c.toNat) = none) (by decide) h

/-- A name with a space or a control in it has no form that is looked up. -/
theorem domainToAscii?_of_isEdge {name : List Char} {c : Char} (hc : isEdge c = true)
    (hmem : c ∈ name) : domainToAscii? name = none := by
  obtain ⟨hfold, hforbidden⟩ :=
    of_isEdge (p := fun c => c ∈ foldChar c ∧ isForbidden c = true) (by decide) hc
  have hany : (name.flatMap foldChar).any isForbidden = true :=
    List.any_eq_true.mpr ⟨c, List.mem_flatMap.mpr ⟨c, hmem, hfold⟩, hforbidden⟩
  rw [domainToAscii?, if_pos hany]

/-- No host ends in a space or a control. -/
theorem readHost_of_isEdge {c : Char} (hc : isEdge c = true) (front : List Char) :
    ∃ fault, readHost (front ++ [c]) = .error fault := by
  unfold readHost
  split
  · rename_i rest hbracket
    cases front with
    | nil =>
      cases hbracket
      exact absurd hc (by decide)
    | cons d front =>
      obtain ⟨-, rfl⟩ := List.cons.inj hbracket
      -- what stands in brackets does not end in one
      have hlast : ¬(front ++ [c]).getLast? = some ']' := by
        rw [List.getLast?_concat]
        rintro ⟨⟩
        exact absurd hc (by decide)
      exact ⟨.invalidLongAddress, if_neg hlast⟩
  · obtain ⟨hascii, hpercent, hdigit⟩ := hexDigit?_of_isEdge hc
    have hbyte : UInt8.ofNat c.toNat ∈ percentDecode (Utf8.encode (front ++ [c])) := by
      apply mem_percentDecode hpercent hdigit
      rw [Utf8.encode_append, Utf8.encode_cons, Utf8.encodeChar_ascii hascii]
      exact List.mem_append_right _ List.mem_cons_self
    have hnone : (Utf8.decode? (percentDecode (Utf8.encode (front ++ [c])))).bind
        domainToAscii? = none := by
      cases hdecode : Utf8.decode? (percentDecode (Utf8.encode (front ++ [c]))) with
      | none => rfl
      | some name => exact domainToAscii?_of_isEdge hc (Utf8.mem_of_decode? hdecode hascii hbyte)
    exact ⟨.invalidDomain, by rw [hnone]⟩

end CodeFlow.Url
