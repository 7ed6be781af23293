import CodeFlow.Text.Digit

/-!
# ASCII characters

What holds of all ASCII characters is checked on their numbers. Digits of any base are such
characters.
-/

namespace CodeFlow.Text

/-- A property of ASCII characters is checked on the numbers below 128. -/
theorem ascii_of_forall {p : Char → Prop} (h : ∀ n < 128, p (Char.ofNat n)) {c : Char}
    (hc : c.toNat < 128) : p c := by
  have hback := h c.toNat hc
  rwa [Char.ofNat_toNat] at hback

theorem ascii_of_digitIn? {base n : Nat} {c : Char} (h : digitIn? base c = some n) :
    c.toNat < 128 := by
  have hsome := (Option.filter_eq_some_iff.mp h).1
  have hle (d : Char) (hd : d.toNat < 128) (hcd : c ≤ d) : c.toNat < 128 :=
    Nat.lt_of_le_of_lt (UInt32.le_iff_toNat_le.mp hcd) hd
  split at hsome
  · rename_i hrange
    exact hle '9' (by decide) hrange.2
  · split at hsome
    · rename_i hrange
      exact hle 'f' (by decide) hrange.2
    · split at hsome
      · rename_i hrange
        exact hle 'F' (by decide) hrange.2
      · cases hsome

end CodeFlow.Text
