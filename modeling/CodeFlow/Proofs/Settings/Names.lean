import CodeFlow.Proofs.Text.Scanning
import CodeFlow.Settings.Environment

/-!
# What variables name

A variable names a setting in small letters, and a key that leads one step down from another is made
of the two with a point between them.
-/

namespace CodeFlow.Settings

open CodeFlow.Text CodeFlow.Text.Scan

/-! ## Small letters -/

theorem smallChar_smallChar (c : Char) : smallChar (smallChar c) = smallChar c := by
  by_cases hascii : c.toNat < 128
  · have hall : ∀ n < 128, smallChar (smallChar (Char.ofNat n)) = smallChar (Char.ofNat n) := by
      decide
    rw [← c.ofNat_toNat]
    exact hall _ hascii
  · -- beyond ASCII only the sign for degrees Kelvin changes
    by_cases hkelvin : c = '\u212a'
    · rw [hkelvin]
      decide
    · have hlower : c.toLower = c := by
        refine dif_neg ?_
        rintro ⟨-, hz⟩
        exact hascii (Nat.lt_of_le_of_lt (UInt32.le_iff_toNat_le.mp hz) (by decide))
      have hsmall : smallChar c = c := by rw [smallChar, if_neg hkelvin, hlower]
      rw [hsmall, hsmall]

/-- A text that is its own form in small letters. -/
def IsSmall (s : String) : Prop := small s = s

theorem isSmall_iff {s : String} : IsSmall s ↔ ∀ c ∈ s.toList, smallChar c = c := by
  rw [IsSmall, small, ← String.toList_inj, String.toList_ofList]
  constructor
  · intro h c hc
    exact List.map_inj_left.mp (h.trans (List.map_id s.toList).symm) c hc
  · intro h
    exact (List.map_congr_left h).trans (List.map_id s.toList)

theorem isSmall_small (s : String) : IsSmall (small s) := by
  rw [isSmall_iff, small, String.toList_ofList]
  intro c hc
  obtain ⟨d, -, rfl⟩ := List.mem_map.mp hc
  exact smallChar_smallChar d

theorem IsSmall.of_subset {s t : String} (h : IsSmall t) (hst : s.toList ⊆ t.toList) : IsSmall s :=
  isSmall_iff.mpr fun c hc => isSmall_iff.mp h c (hst hc)

/-! ## Paths -/

namespace Path

theorem scanKey_eq_some {cs rest : List Char} {key : String} (h : scanKey cs = some (key, rest)) :
    cs = key.toList ++ rest := by
  obtain ⟨taken, left, htaken, hkey⟩ := bind_eq_some h
  cases hkey
  rw [many1_eq_some htaken, String.toList_ofList]

theorem scanTurn_member {cs rest : List Char} {key : String}
    (h : scanTurn cs = some (.member key, rest)) : cs = '.' :: (key.toList ++ rest) := by
  rcases orElse_eq_some h with hmember | hitem
  · obtain ⟨u, left, hpoint, hmember⟩ := bind_eq_some hmember
    obtain ⟨k, left', hkey, hturn⟩ := bind_eq_some hmember
    cases hturn
    rw [symbol_eq_some hpoint, scanKey_eq_some hkey]
  · -- whatever stands in brackets, it is no key
    obtain ⟨_, _, _, hitem⟩ := bind_eq_some hitem
    obtain ⟨_, _, _, hitem⟩ := bind_eq_some hitem
    obtain ⟨_, _, _, hitem⟩ := bind_eq_some hitem
    obtain ⟨_, _, _, hitem⟩ := bind_eq_some hitem
    obtain ⟨_, _, _, hitem⟩ := bind_eq_some hitem
    obtain ⟨_, _, _, hitem⟩ := bind_eq_some hitem
    revert hitem
    cases numberIn? 10 _ with
    | none => exact fun hitem => nomatch hitem
    | some n =>
      by_cases hn : n < 9223372036854775808
      · simp only [if_pos hn]
        exact fun hitem => nomatch hitem
      · simp only [if_neg hn]
        exact fun hitem => nomatch hitem

/-- A text that names the path one step down from a key is made of the two keys. -/
theorem eq_of_parse? {text group key : String} (h : parse? text = some ⟨group, [.member key]⟩) :
    text = group ++ "." ++ key := by
  unfold parse? whole? at h
  split at h
  · rename_i path hscan
    cases h
    obtain ⟨k, left, hkey, hscan⟩ := bind_eq_some hscan
    obtain ⟨turns, left', hturns, hpath⟩ := bind_eq_some hscan
    cases hpath
    obtain ⟨behind, m, hturn, hmore⟩ := repeatedUpTo_eq_some hturns
    have hend := repeatedUpTo_eq_some hmore
    dsimp only at hend
    subst hend
    apply String.toList_injective
    rw [scanKey_eq_some hkey, scanTurn_member hturn]
    simp
  · cases h

theorem key_subset_of_parse? {text : String} {p : Path} (h : parse? text = some p) :
    p.key.toList ⊆ text.toList := by
  unfold parse? whole? at h
  split at h
  · rename_i path hscan
    cases h
    obtain ⟨k, left, hkey, hscan⟩ := bind_eq_some hscan
    obtain ⟨turns, left', -, hpath⟩ := bind_eq_some hscan
    cases hpath
    rw [scanKey_eq_some hkey]
    exact List.subset_append_left _ _
  · cases h

theorem isSmall_ofKey {key : String} (h : IsSmall key) : IsSmall (ofKey key).key := by
  unfold ofKey
  cases hparse : parse? key with
  | none => exact h
  | some p => exact h.of_subset (key_subset_of_parse? hparse)

theorem eq_of_ofKey {text group key : String} (h : ofKey text = ⟨group, [.member key]⟩) :
    text = group ++ "." ++ key := by
  unfold ofKey at h
  cases hparse : parse? text with
  | none =>
    rw [hparse] at h
    cases h
  | some p =>
    rw [hparse] at h
    exact eq_of_parse? (hparse.trans (congrArg some h))

end Path

/-! ## Names of variables -/

theorem mem_dotted (cs : List Char) : ∀ c ∈ dotted cs, c = '.' ∨ c ∈ cs := by
  induction cs using dotted.induct with
  | case1 => exact fun c hc => .inr hc
  | case2 c => exact fun d hd => .inr hd
  | case3 c d cs h ih =>
    rw [dotted, if_pos h]
    intro e he
    rcases List.mem_cons.mp he with rfl | he
    · exact .inl rfl
    · exact (ih e he).imp_right fun he => List.mem_cons_of_mem c (List.mem_cons_of_mem d he)
  | case4 c d cs h ih =>
    rw [dotted, if_neg h]
    intro e he
    rcases List.mem_cons.mp he with rfl | he
    · exact .inr List.mem_cons_self
    · exact (ih e he).imp_right fun he => List.mem_cons_of_mem c he

/-- Variables name settings in small letters. -/
theorem isSmall_of_keyOf? {mark name key : String} (h : keyOf? mark name = some key) :
    IsSmall key := by
  obtain ⟨cs, hcs, rfl⟩ := Option.map_eq_some_iff.mp h
  rw [isSmall_iff, String.toList_ofList]
  intro c hc
  rcases mem_dotted cs c hc with rfl | hc
  · decide
  · refine isSmall_iff.mp (isSmall_small name) c ?_
    rw [behind?_eq_some hcs]
    exact List.mem_append_right _ hc

end CodeFlow.Settings
