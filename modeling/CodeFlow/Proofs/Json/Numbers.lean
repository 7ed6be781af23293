import CodeFlow.Proofs.Json.Strings

/-!
# Whole numbers of JSON read back

The digits of a number read back in front of anything that may follow a value, as long as the number
is within the range of 64 bits, with a sign or without.
-/

namespace CodeFlow.Json

open CodeFlow.Text

/-! ## What may follow a value -/

/-- Nothing, white space, a comma or the end of a list or an object. -/
def Follows (rest : List UInt8) : Prop :=
  ∀ b ∈ rest.head?, isSpace b = true ∨ b = 44 ∨ b = 93 ∨ b = 125

theorem isSpace_iff {b : UInt8} : isSpace b = true ↔ b = 32 ∨ b = 10 ∨ b = 9 ∨ b = 13 := by
  simp [isSpace, or_assoc]

theorem Follows.not_mem {rest : List UInt8} (h : Follows rest) {b : UInt8} (hb : b ∈ rest.head?) :
    digit? b = none ∧ b ≠ 46 ∧ b ≠ 101 ∧ b ≠ 69 := by
  rcases h b hb with hspace | rfl | rfl | rfl
  · rcases isSpace_iff.mp hspace with rfl | rfl | rfl | rfl <;> decide
  all_goals decide

/-! ## Digits -/

section

variable {c : Char} {cs : List Char} {n limit : Nat} {rest : List UInt8}

theorem digit_range (h : c.isDigit = true) : 48 ≤ c.toNat ∧ c.toNat ≤ 57 := by
  simp only [Char.isDigit, Bool.and_eq_true, decide_eq_true_eq, ge_iff_le,
    UInt32.le_iff_toNat_le] at h
  exact h

theorem digit?_ofNat (h : c.isDigit = true) :
    digit? (UInt8.ofNat c.toNat) = some (c.toNat - 48) := by
  have hrange := digit_range h
  have hbyte : (UInt8.ofNat c.toNat).toNat = c.toNat := Utf8.toNat_ofNat_byte (by omega)
  rw [digit?, hbyte, if_pos hrange]

/-- A digit is its own byte. -/
theorem encode_digit (h : c.isDigit = true) (cs : List Char) (rest : List UInt8) :
    Utf8.encode (c :: cs) ++ rest = UInt8.ofNat c.toNat :: (Utf8.encode cs ++ rest) := by
  have hrange := digit_range h
  rw [Utf8.encode_cons, Utf8.encodeChar_ascii (by omega), List.singleton_append, List.cons_append]

/-- A number only grows with further digits. -/
theorem le_ofDigitChars (cs : List Char) (n : Nat) : n ≤ Nat.ofDigitChars 10 cs n := by
  rw [Nat.ofDigitChars_eq_ofDigitChars_zero]
  exact Nat.le_add_right_of_le (Nat.le_mul_of_pos_left n (Nat.pow_pos (by decide)))

/-- Digits are taken as long as the number stays within the limit. -/
theorem takeDigits_encode (hcs : ∀ c ∈ cs, c.isDigit = true) (h : Nat.ofDigitChars 10 cs n ≤ limit)
    (hrest : ∀ b ∈ rest.head?, digit? b = none) (count : Nat) :
    takeDigits limit n count (Utf8.encode cs ++ rest) =
      (Nat.ofDigitChars 10 cs n, count + cs.length, rest) := by
  induction cs generalizing n count with
  | nil =>
    cases rest with
    | nil => rfl
    | cons b rest =>
      have hb : digit? b = none := hrest b rfl
      simp only [Utf8.encode_nil, List.nil_append, takeDigits, hb]
      rfl
  | cons c cs ih =>
    have hdigit := hcs c List.mem_cons_self
    have hstep : Nat.ofDigitChars 10 (c :: cs) n =
        Nat.ofDigitChars 10 cs (n * 10 + (c.toNat - 48)) := by
      rw [Nat.ofDigitChars_cons, Nat.mul_comm n 10]
      rfl
    rw [hstep] at h ⊢
    have hle : n * 10 + (c.toNat - 48) ≤ limit := Nat.le_trans (le_ofDigitChars cs _) h
    rw [encode_digit hdigit, takeDigits]
    simp only [digit?_ofNat hdigit, if_neg (Nat.not_lt.mpr hle)]
    rw [ih (fun c hc => hcs c (List.mem_cons_of_mem _ hc)) h, List.length_cons,
      Nat.add_assoc, Nat.add_comm 1]

/-- Only the digits of zero begin with a zero. -/
theorem toDigits_head (h : 0 < n) : ∃ c cs, Nat.toDigits 10 n = c :: cs ∧ c.toNat ≠ 48 := by
  induction n using Nat.strongRecOn with
  | ind n ih =>
    by_cases hlow : n < 10
    · refine ⟨n.digitChar, [], Nat.toDigits_of_lt_base hlow, ?_⟩
      rw [Nat.toNat_digitChar_of_lt_ten hlow]
      omega
    · obtain ⟨c, cs, heq, hc⟩ := ih (n / 10) (by omega) (by omega)
      refine ⟨c, cs ++ [(n % 10).digitChar], ?_, hc⟩
      rw [Nat.toDigits_of_base_le (by decide) (Nat.le_of_not_lt hlow), heq, List.cons_append]

/-- The digits of a number read back, up to what comes behind them. -/
theorem readNumber_toDigits (positive : Bool) (h : n ≤ significandLimit)
    (hrest : ∀ b ∈ rest.head?, digit? b = none) :
    readNumber positive (Utf8.encode (Nat.toDigits 10 n) ++ rest) =
      readAfterWhole positive n rest := by
  have hnone : rest.head?.bind digit? = none := by
    cases rest with
    | nil => rfl
    | cons b rest => exact hrest b rfl
  rcases Nat.eq_zero_or_pos n with rfl | hpos
  · have hzero : digit? 48 = some 0 := by decide
    change readNumber positive (48 :: rest) = _
    simp only [readNumber, hzero, hnone]
  · obtain ⟨c, cs, heq, hc⟩ := toDigits_head hpos
    have hdigits : ∀ c' ∈ c :: cs, c'.isDigit = true := fun c' hc' =>
      Nat.isDigit_of_mem_toDigits (by decide) (by decide) (heq ▸ hc')
    have hdigit := hdigits c List.mem_cons_self
    have hvalue : Nat.ofDigitChars 10 cs (c.toNat - 48) = n := by
      have hall := Nat.ofDigitChars_ten_toDigits (n := n)
      rwa [heq, Nat.ofDigitChars_cons, Nat.mul_zero, Nat.zero_add] at hall
    have htake : takeDigits significandLimit (c.toNat - 48) 0 (Utf8.encode cs ++ rest) =
        (n, 0 + cs.length, rest) := by
      have hall := takeDigits_encode (fun c hc => hdigits c (List.mem_cons_of_mem _ hc))
        (Nat.le_trans (Nat.le_of_eq hvalue) h) hrest 0
      rwa [hvalue] at hall
    obtain ⟨d, hd⟩ : ∃ d, c.toNat - 48 = d + 1 :=
      Nat.exists_eq_succ_of_ne_zero (by have := digit_range hdigit; omega)
    rw [hd] at htake
    rw [heq, encode_digit hdigit]
    simp only [readNumber, digit?_ofNat hdigit, hd, htake, hnone]

/-! ## Whole numbers -/

/-- Without a point or an exponent a number is whole. -/
theorem readAfterWhole_true (n : Nat) (h : Follows rest) :
    readAfterWhole true n rest = .ok (.int n, rest) := by
  cases rest with
  | nil => rfl
  | cons b rest =>
    obtain ⟨-, hpoint, hsmall, hcapital⟩ := h.not_mem rfl
    rw [readAfterWhole, if_neg hpoint, if_neg (not_or.mpr ⟨hsmall, hcapital⟩), if_pos rfl]

/-- A negative number is whole unless it is zero or too small. -/
theorem readAfterWhole_false (hpos : 0 < n) (hn : n ≤ 9223372036854775808) (h : Follows rest) :
    readAfterWhole false n rest = .ok (.int (-(n : Int)), rest) := by
  have hwhole : ¬ (n = 0 ∨ 9223372036854775808 < n) := by omega
  cases rest with
  | nil =>
    simp only [readAfterWhole, if_neg hwhole, Bool.false_eq_true, if_false]
  | cons b rest =>
    obtain ⟨-, hpoint, hsmall, hcapital⟩ := h.not_mem rfl
    rw [readAfterWhole, if_neg hpoint, if_neg (not_or.mpr ⟨hsmall, hcapital⟩), if_neg (by decide),
      if_neg hwhole]

theorem writeInt_ofNat (n : Nat) : writeInt n = Nat.toDigits 10 n :=
  String.toList_ofList

theorem writeInt_neg (h : 0 < n) : writeInt (-(n : Int)) = '-' :: Nat.toDigits 10 n := by
  obtain ⟨m, rfl⟩ := Nat.exists_eq_succ_of_ne_zero (Nat.ne_of_gt h)
  have hrepr : toString (-((m.succ : Nat) : Int)) = "-" ++ Nat.repr m.succ := rfl
  rw [writeInt, hrepr, String.toList_append, Nat.toList_repr]
  rfl

theorem encode_toDigits_head (n : Nat) :
    ∃ b bs, Utf8.encode (Nat.toDigits 10 n) = b :: bs ∧ isDigit b = true := by
  obtain ⟨c, cs, heq⟩ := List.exists_cons_of_ne_nil (Nat.toDigits_ne_nil (n := n) (b := 10))
  have hdigit : c.isDigit = true :=
    Nat.isDigit_of_mem_toDigits (by decide) (by decide) (heq ▸ List.mem_cons_self)
  have hbytes := encode_digit hdigit cs []
  rw [List.append_nil, List.append_nil] at hbytes
  refine ⟨_, _, heq ▸ hbytes, ?_⟩
  rw [isDigit, digit?_ofNat hdigit]
  rfl

/-- A number begins with a digit or with a minus sign. -/
theorem encode_writeInt_head (n : Int) :
    ∃ b bs, Utf8.encode (writeInt n) = b :: bs ∧ (isDigit b = true ∨ b = 45) := by
  rcases Int.lt_or_le n 0 with hneg | hnonneg
  · obtain ⟨m, rfl⟩ : ∃ m : Nat, n = -(m : Int) := ⟨n.natAbs, by omega⟩
    rw [writeInt_neg (by omega)]
    exact ⟨45, _, rfl, .inr rfl⟩
  · obtain ⟨m, rfl⟩ : ∃ m : Nat, n = (m : Int) := ⟨n.toNat, by omega⟩
    obtain ⟨b, bs, hbytes, hdigit⟩ := encode_toDigits_head m
    exact ⟨b, bs, (congrArg _ (writeInt_ofNat m)).trans hbytes, .inl hdigit⟩

theorem isDigit_iff {b : UInt8} : isDigit b = true ↔ 48 ≤ b.toNat ∧ b.toNat ≤ 57 := by
  unfold isDigit digit?
  split <;> simp_all

theorem ne_of_isDigit {b d : UInt8} (h : isDigit b = true) (hd : d.toNat < 48 ∨ 57 < d.toNat) :
    b ≠ d := by
  have hrange := isDigit_iff.mp h
  rintro rfl
  omega

theorem not_isSpace_of_isDigit {b : UInt8} (h : isDigit b = true) : ¬ isSpace b = true := by
  rw [isSpace_iff]
  simp only [ne_of_isDigit h (d := 32) (by decide), ne_of_isDigit h (d := 10) (by decide),
    ne_of_isDigit h (d := 9) (by decide), ne_of_isDigit h (d := 13) (by decide), or_self,
    not_false_eq_true]

/-- A value that begins with a digit is a number. -/
theorem readFound_digit {b : UInt8} (h : isDigit b = true) (rest : List UInt8) :
    readFound (b :: rest) = (readNumber true (b :: rest)).map fun p => (p.1.found, p.2) := by
  have hne {d : UInt8} (hd : d.toNat < 48 ∨ 57 < d.toNat) : b ≠ d := ne_of_isDigit h hd
  rw [readFound, skipSpace, List.dropWhile_cons_of_neg (not_isSpace_of_isDigit h)]
  simp only [hne (d := 110) (by decide), hne (d := 116) (by decide), hne (d := 102) (by decide),
    hne (d := 45) (by decide), if_false, h, if_true]

theorem readFound_minus (rest : List UInt8) :
    readFound (45 :: rest) = (readNumber false rest).map fun p => (p.1.found, p.2) := rfl

/-- A number in the range of 64 bits reads back. -/
theorem readFound_writeInt {n : Int} (hlow : -9223372036854775808 ≤ n)
    (hhigh : n < 18446744073709551616) (h : Follows rest) :
    readFound (Utf8.encode (writeInt n) ++ rest) = .ok (.int n, rest) := by
  have hrest : ∀ b ∈ rest.head?, digit? b = none := fun b hb => (h.not_mem hb).1
  rcases Int.lt_or_le n 0 with hneg | hnonneg
  · obtain ⟨m, rfl⟩ : ∃ m : Nat, n = -(m : Int) := ⟨n.natAbs, by omega⟩
    rw [writeInt_neg (by omega), Utf8.encode_cons]
    change readFound (45 :: (Utf8.encode (Nat.toDigits 10 m) ++ rest)) = _
    rw [readFound_minus, readNumber_toDigits false (by unfold significandLimit; omega) hrest,
      readAfterWhole_false (by omega) (by omega) h]
    rfl
  · obtain ⟨m, rfl⟩ : ∃ m : Nat, n = (m : Int) := ⟨n.toNat, by omega⟩
    have hread := readNumber_toDigits true (n := m) (by unfold significandLimit; omega) hrest
    rw [readAfterWhole_true m h] at hread
    obtain ⟨b, bs, hbytes, hdigit⟩ := encode_toDigits_head m
    rw [writeInt_ofNat]
    rw [hbytes, List.cons_append] at hread ⊢
    rw [readFound_digit hdigit, hread]
    rfl

end

end CodeFlow.Json
