import CodeFlow.Text.Utf8

/-!
# Written text reads back

What is written as UTF-8 is read back by both readers, whatever stands behind it, and the strict
reader takes nothing else: each text has one form in bytes (`decode?_eq_some_iff`). Text beyond ASCII
is written in bytes from 128 on, so no byte below stands for anything but its own character, which
is read wherever such a byte stands.
-/

namespace CodeFlow.Text.Utf8

/-! ## One step -/

theorem toNat_ofNat_byte {n : Nat} (h : n < 256) : (UInt8.ofNat n).toNat = n :=
  UInt8.toNat_ofNat_of_lt' h

theorem isTail_iff {b : UInt8} : isTail b = true ↔ 0x80 ≤ b.toNat ∧ b.toNat ≤ 0xBF := by
  simp [isTail, UInt8.le_iff_toNat_le]

/-- The second byte is one of those that continue a character, and after four of the first bytes
it has a narrower range. -/
theorem isSecond_of {first second : UInt8} (htail : isTail second = true)
    (h₁ : first.toNat = 0xE0 → 0xA0 ≤ second.toNat)
    (h₂ : first.toNat = 0xED → second.toNat ≤ 0x9F)
    (h₃ : first.toNat = 0xF0 → 0x90 ≤ second.toNat)
    (h₄ : first.toNat = 0xF4 → second.toNat ≤ 0x8F) : isSecond first second = true := by
  obtain ⟨hlow, hhigh⟩ := isTail_iff.mp htail
  unfold isSecond
  simp only [beq_iff_eq, ← UInt8.toNat_inj, UInt8.reduceToNat, UInt8.le_iff_toNat_le]
  split
  · rename_i h
    simp [h₁ h, hhigh]
  · split
    · rename_i h
      simp [h₂ h, hlow]
    · split
      · rename_i h
        simp [h₃ h, hhigh]
      · split
        · rename_i h
          simp [h₄ h, hlow]
        · exact htail

section

variable {b b₁ b₂ b₃ : UInt8} (rest : List UInt8)

theorem step_one (h : b.toNat < 0x80) : step b rest = .char (Char.ofNat b.toNat) rest := by
  unfold step
  rw [if_pos (UInt8.lt_iff_toNat_lt.mpr h)]

theorem step_two (hlow : 0xC2 ≤ b.toNat) (hhigh : b.toNat ≤ 0xDF) (h₁ : isTail b₁ = true) :
    step b (b₁ :: rest) = .char (Char.ofNat (b.toNat % 32 * 64 + low6 b₁)) rest := by
  have hne : ¬ b < 0x80 := by
    simp only [UInt8.lt_iff_toNat_lt, UInt8.reduceToNat]
    omega
  have hlead : (0xC2 ≤ b && b ≤ 0xDF) = true := by
    simp [UInt8.le_iff_toNat_le, hlow, hhigh]
  unfold step
  rw [if_neg hne, if_pos hlead]
  simp only [h₁, if_true]

theorem step_three (hlow : 0xE0 ≤ b.toNat) (hhigh : b.toNat ≤ 0xEF) (h₁ : isSecond b b₁ = true)
    (h₂ : isTail b₂ = true) :
    step b (b₁ :: b₂ :: rest) =
      .char (Char.ofNat (b.toNat % 16 * 4096 + low6 b₁ * 64 + low6 b₂)) rest := by
  have hne : ¬ b < 0x80 := by
    simp only [UInt8.lt_iff_toNat_lt, UInt8.reduceToNat]
    omega
  have hnotTwo : ¬ (0xC2 ≤ b && b ≤ 0xDF) = true := by
    simp [UInt8.le_iff_toNat_le]
    omega
  have hlead : (0xE0 ≤ b && b ≤ 0xEF) = true := by
    simp [UInt8.le_iff_toNat_le, hlow, hhigh]
  unfold step
  rw [if_neg hne, if_neg hnotTwo, if_pos hlead]
  simp only [h₁, h₂, if_true]

theorem step_four (hlow : 0xF0 ≤ b.toNat) (hhigh : b.toNat ≤ 0xF4) (h₁ : isSecond b b₁ = true)
    (h₂ : isTail b₂ = true) (h₃ : isTail b₃ = true) :
    step b (b₁ :: b₂ :: b₃ :: rest) =
      .char (Char.ofNat (b.toNat % 8 * 262144 + low6 b₁ * 4096 + low6 b₂ * 64 + low6 b₃)) rest := by
  have hne : ¬ b < 0x80 := by
    simp only [UInt8.lt_iff_toNat_lt, UInt8.reduceToNat]
    omega
  have hnotTwo : ¬ (0xC2 ≤ b && b ≤ 0xDF) = true := by
    simp [UInt8.le_iff_toNat_le]
    omega
  have hnotThree : ¬ (0xE0 ≤ b && b ≤ 0xEF) = true := by
    simp [UInt8.le_iff_toNat_le]
    omega
  have hlead : (0xF0 ≤ b && b ≤ 0xF4) = true := by
    simp [UInt8.le_iff_toNat_le, hlow, hhigh]
  unfold step
  rw [if_neg hne, if_neg hnotTwo, if_neg hnotThree, if_pos hlead]
  simp only [h₁, h₂, h₃, if_true]

end

/-- A character that is no surrogate and not too large. -/
theorem char_range (c : Char) : c.toNat < 0xD800 ∨ 0xDFFF < c.toNat ∧ c.toNat < 0x110000 :=
  c.valid

/-- A step takes a written character off the front. -/
theorem step_encodeChar (c : Char) (rest : List UInt8) :
    ∃ b bs, String.utf8EncodeChar c ++ rest = b :: bs ∧ step b bs = .char c rest := by
  have hrange := char_range c
  have hback := Char.ofNat_toNat c
  unfold String.utf8EncodeChar
  simp only
  change c.toNat < 0xD800 ∨ _ at hrange
  generalize hv : c.val.toNat = v
  have hcv : c.toNat = v := hv
  rw [hcv] at hrange hback
  -- one case for each length; `hsum` puts the number together again from the bits of its bytes
  split
  · refine ⟨_, _, List.cons_append, ?_⟩
    have hb := toNat_ofNat_byte (n := v) (by omega)
    rw [List.nil_append, step_one _ (by omega), hb, hback]
  · split
    · refine ⟨_, _, List.cons_append, ?_⟩
      have hb := toNat_ofNat_byte (n := v / 64 % 0x20 + 0xc0) (by omega)
      have hb₁ := toNat_ofNat_byte (n := v % 0x40 + 0x80) (by omega)
      have hsum : (v / 64 % 0x20 + 0xc0) % 32 * 64 + (v % 0x40 + 0x80) % 64 = v := by omega
      rw [List.singleton_append, step_two _ (by omega) (by omega)
        (isTail_iff.mpr (by omega)), low6, hb, hb₁, hsum, hback]
    · split
      · refine ⟨_, _, List.cons_append, ?_⟩
        have hb := toNat_ofNat_byte (n := v / 4096 % 0x10 + 0xe0) (by omega)
        have hb₁ := toNat_ofNat_byte (n := v / 64 % 0x40 + 0x80) (by omega)
        have hb₂ := toNat_ofNat_byte (n := v % 0x40 + 0x80) (by omega)
        have hsum : (v / 4096 % 0x10 + 0xe0) % 16 * 4096 + (v / 64 % 0x40 + 0x80) % 64 * 64 +
            (v % 0x40 + 0x80) % 64 = v := by omega
        simp only [List.cons_append, List.nil_append]
        rw [step_three _ (by omega) (by omega)
          (isSecond_of (isTail_iff.mpr (by omega)) (by omega) (by omega) (by omega) (by omega))
          (isTail_iff.mpr (by omega)), low6, low6, hb, hb₁, hb₂, hsum, hback]
      · refine ⟨_, _, List.cons_append, ?_⟩
        have hb := toNat_ofNat_byte (n := v / 262144 % 0x08 + 0xf0) (by omega)
        have hb₁ := toNat_ofNat_byte (n := v / 4096 % 0x40 + 0x80) (by omega)
        have hb₂ := toNat_ofNat_byte (n := v / 64 % 0x40 + 0x80) (by omega)
        have hb₃ := toNat_ofNat_byte (n := v % 0x40 + 0x80) (by omega)
        have hsum : (v / 262144 % 0x08 + 0xf0) % 8 * 262144 +
            (v / 4096 % 0x40 + 0x80) % 64 * 4096 + (v / 64 % 0x40 + 0x80) % 64 * 64 +
            (v % 0x40 + 0x80) % 64 = v := by omega
        simp only [List.cons_append, List.nil_append]
        rw [step_four _ (by omega) (by omega)
          (isSecond_of (isTail_iff.mpr (by omega)) (by omega) (by omega) (by omega) (by omega))
          (isTail_iff.mpr (by omega)) (isTail_iff.mpr (by omega)), low6, low6, low6, hb, hb₁, hb₂,
          hb₃, hsum, hback]

/-! ## Whole texts -/

theorem decodeOnto_encode (cs acc : List Char) : decodeOnto acc (encode cs) = some (cs.reverse ++ acc) := by
  induction cs generalizing acc with
  | nil => simp [decodeOnto]
  | cons c cs ih =>
    obtain ⟨b, bs, hbytes, hstep⟩ := step_encodeChar c (encode cs)
    rw [encode_cons, hbytes, decodeOnto]
    split
    · rename_i hstep' _
      rw [hstep] at hstep'
      cases hstep'
      rw [ih]
      simp
    · rename_i hstep' _
      rw [hstep] at hstep'
      cases hstep'

/-- Written text is well-formed, and reads back. -/
theorem decode?_encode (cs : List Char) : decode? (encode cs) = some cs := by
  simp [decode?, decodeOnto_encode]

theorem decodeLossyOnto_encode (cs acc : List Char) :
    decodeLossyOnto acc (encode cs) = cs.reverse ++ acc := by
  induction cs generalizing acc with
  | nil => simp [decodeLossyOnto]
  | cons c cs ih =>
    obtain ⟨b, bs, hbytes, hstep⟩ := step_encodeChar c (encode cs)
    rw [encode_cons, hbytes, decodeLossyOnto]
    split
    · rename_i hstep' _
      rw [hstep] at hstep'
      cases hstep'
      rw [ih]
      simp
    · rename_i hstep' _
      rw [hstep] at hstep'
      cases hstep'

/-- The lenient reader has nothing to replace in written text. -/
theorem decodeLossy_encode (cs : List Char) : decodeLossy (encode cs) = cs := by
  simp [decodeLossy, decodeLossyOnto_encode]

/-! ## Length -/

/-- A text has as many bytes as its size says. -/
theorem length_bytesOf (s : String) : (bytesOf s).length = s.utf8ByteSize := by
  have hbytes : (String.ofList s.toList).toByteArray = (bytesOf s).toByteArray :=
    String.toByteArray_ofList
  rw [String.ofList_toList] at hbytes
  rw [String.utf8ByteSize, hbytes, List.size_toByteArray]

/-- A text has no more characters than bytes. -/
theorem length_le_length_encode (cs : List Char) : cs.length ≤ (encode cs).length := by
  induction cs with
  | nil => exact Nat.le_refl 0
  | cons c cs ih =>
    have hpos := c.utf8Size_pos
    rw [encode_cons, List.length_append, String.length_utf8EncodeChar, List.length_cons]
    omega

/-! ## ASCII and the rest -/

/-- A character of ASCII is its own byte. -/
theorem encodeChar_ascii {c : Char} (h : c.toNat < 0x80) :
    String.utf8EncodeChar c = [UInt8.ofNat c.toNat] :=
  if_pos (by change c.toNat ≤ 0x7f; omega)

theorem encode_cons_ascii {c : Char} (h : c.toNat < 0x80) (cs : List Char) :
    encode (c :: cs) = UInt8.ofNat c.toNat :: encode cs := by
  rw [encode_cons, encodeChar_ascii h, List.singleton_append]

/-- A character beyond ASCII has no byte below 128. -/
theorem le_of_mem_encodeChar {c : Char} (h : 0x80 ≤ c.toNat) {b : UInt8}
    (hb : b ∈ String.utf8EncodeChar c) : 0x80 ≤ b.toNat := by
  unfold String.utf8EncodeChar at hb
  simp only at hb
  have hrange := char_range c
  change 0x80 ≤ c.val.toNat at h
  change c.val.toNat < 0xD800 ∨ _ at hrange
  generalize c.val.toNat = v at h hb hrange
  -- the first byte has its marker, the others are tails: all of them are 128 or more
  split at hb
  · omega
  · split at hb
    · simp only [List.mem_cons, List.not_mem_nil, or_false] at hb
      rcases hb with rfl | rfl <;> rw [toNat_ofNat_byte (by omega)] <;> omega
    · split at hb
      · simp only [List.mem_cons, List.not_mem_nil, or_false] at hb
        rcases hb with rfl | rfl | rfl <;> rw [toNat_ofNat_byte (by omega)] <;> omega
      · simp only [List.mem_cons, List.not_mem_nil, or_false] at hb
        rcases hb with rfl | rfl | rfl | rfl <;> rw [toNat_ofNat_byte (by omega)] <;> omega

/-! ## What is read is written -/

/-- Where a second byte is admitted, it continues a character, and rules out what has a shorter
form, the surrogates and what is too large. -/
theorem bounds_of_isSecond {first second : UInt8} (h : isSecond first second = true) :
    isTail second = true ∧ (first.toNat = 0xE0 → 0xA0 ≤ second.toNat) ∧
      (first.toNat = 0xED → second.toNat ≤ 0x9F) ∧ (first.toNat = 0xF0 → 0x90 ≤ second.toNat) ∧
      (first.toNat = 0xF4 → second.toNat ≤ 0x8F) := by
  unfold isSecond isTail at h
  rw [isTail_iff]
  simp only [beq_iff_eq, ← UInt8.toNat_inj, UInt8.reduceToNat, UInt8.le_iff_toNat_le] at h
  -- four of the first bytes narrow the range of the second
  repeat' split at h
  all_goals
    rw [Bool.and_eq_true, decide_eq_true_eq, decide_eq_true_eq] at h
    omega

/-- A number that is no surrogate and not too large is that of its character. -/
theorem toNat_val_ofNat {v : Nat} (h : v < 0xD800 ∨ 0xDFFF < v ∧ v < 0x110000) :
    (Char.ofNat v).val.toNat = v := by
  have hvalid : v.isValidChar := h
  have hchar : Char.ofNat v = Char.ofNatAux v hvalid := dif_pos hvalid
  rw [hchar]
  rfl

theorem ofNat_of_eq {n : Nat} {b : UInt8} (h : n = b.toNat) : UInt8.ofNat n = b := by
  rw [h, UInt8.ofNat_toNat]

section

variable {b b₁ b₂ b₃ : UInt8}

theorem encodeChar_one (h : b.toNat < 0x80) :
    String.utf8EncodeChar (Char.ofNat b.toNat) = [b] := by
  have hv : (Char.ofNat b.toNat).toNat = b.toNat := toNat_val_ofNat (by omega)
  rw [encodeChar_ascii (by omega), hv, UInt8.ofNat_toNat]

theorem encodeChar_two (hlow : 0xC2 ≤ b.toNat) (hhigh : b.toNat ≤ 0xDF) (h₁ : isTail b₁ = true) :
    String.utf8EncodeChar (Char.ofNat (b.toNat % 32 * 64 + low6 b₁)) = [b, b₁] := by
  obtain ⟨hlow₁, hhigh₁⟩ := isTail_iff.mp h₁
  unfold low6
  have hv := toNat_val_ofNat (v := b.toNat % 32 * 64 + b₁.toNat % 64) (by omega)
  unfold String.utf8EncodeChar
  simp only [hv]
  rw [if_neg (by omega), if_pos (by omega), ofNat_of_eq (b := b) (by omega),
    ofNat_of_eq (b := b₁) (by omega)]

theorem encodeChar_three (hlow : 0xE0 ≤ b.toNat) (hhigh : b.toNat ≤ 0xEF)
    (h₁ : isSecond b b₁ = true) (h₂ : isTail b₂ = true) :
    String.utf8EncodeChar (Char.ofNat (b.toNat % 16 * 4096 + low6 b₁ * 64 + low6 b₂)) =
      [b, b₁, b₂] := by
  obtain ⟨htail₁, hshort, hsurrogate, -, -⟩ := bounds_of_isSecond h₁
  obtain ⟨hlow₁, hhigh₁⟩ := isTail_iff.mp htail₁
  obtain ⟨hlow₂, hhigh₂⟩ := isTail_iff.mp h₂
  unfold low6
  have hv := toNat_val_ofNat
    (v := b.toNat % 16 * 4096 + b₁.toNat % 64 * 64 + b₂.toNat % 64) (by omega)
  unfold String.utf8EncodeChar
  simp only [hv]
  rw [if_neg (by omega), if_neg (by omega), if_pos (by omega), ofNat_of_eq (b := b) (by omega),
    ofNat_of_eq (b := b₁) (by omega), ofNat_of_eq (b := b₂) (by omega)]

theorem encodeChar_four (hlow : 0xF0 ≤ b.toNat) (hhigh : b.toNat ≤ 0xF4)
    (h₁ : isSecond b b₁ = true) (h₂ : isTail b₂ = true) (h₃ : isTail b₃ = true) :
    String.utf8EncodeChar
      (Char.ofNat (b.toNat % 8 * 262144 + low6 b₁ * 4096 + low6 b₂ * 64 + low6 b₃)) =
      [b, b₁, b₂, b₃] := by
  obtain ⟨htail₁, -, -, hshort, hlarge⟩ := bounds_of_isSecond h₁
  obtain ⟨hlow₁, hhigh₁⟩ := isTail_iff.mp htail₁
  obtain ⟨hlow₂, hhigh₂⟩ := isTail_iff.mp h₂
  obtain ⟨hlow₃, hhigh₃⟩ := isTail_iff.mp h₃
  unfold low6
  have hv := toNat_val_ofNat (v := b.toNat % 8 * 262144 + b₁.toNat % 64 * 4096 +
    b₂.toNat % 64 * 64 + b₃.toNat % 64) (by omega)
  unfold String.utf8EncodeChar
  simp only [hv]
  rw [if_neg (by omega), if_neg (by omega), if_neg (by omega), ofNat_of_eq (b := b) (by omega),
    ofNat_of_eq (b := b₁) (by omega), ofNat_of_eq (b := b₂) (by omega),
    ofNat_of_eq (b := b₃) (by omega)]

/-- The character that a step takes off the front is written as the bytes that it took. -/
theorem eq_encodeChar_of_step {bs rest : List UInt8} {c : Char} (h : step b bs = .char c rest) :
    b :: bs = String.utf8EncodeChar c ++ rest := by
  unfold step at h
  simp only [UInt8.lt_iff_toNat_lt, UInt8.le_iff_toNat_le, UInt8.reduceToNat, Bool.and_eq_true,
    decide_eq_true_eq] at h
  -- where a byte does not fit there is no character, so one case is left for each length
  repeat' split at h
  all_goals cases h
  · rename_i hone
    rw [encodeChar_one hone]
    rfl
  · rename_i htwo _ _ h₁
    rw [encodeChar_two htwo.1 htwo.2 h₁]
    rfl
  · rename_i hthree _ _ h₁ _ _ h₂
    rw [encodeChar_three hthree.1 hthree.2 h₁ h₂]
    rfl
  · rename_i hfour _ _ h₁ _ _ h₂ _ _ h₃
    rw [encodeChar_four hfour.1 hfour.2 h₁ h₂ h₃]
    rfl

end

/-- The characters that are read are written as the bytes that they were read from. -/
theorem encode_of_decodeOnto {acc cs : List Char} {bs : List UInt8}
    (h : decodeOnto acc bs = some cs) : ∃ ds, cs = ds.reverse ++ acc ∧ encode ds = bs := by
  induction acc, bs using decodeOnto.induct with
  | case1 acc =>
    rw [decodeOnto] at h
    cases h
    exact ⟨[], rfl, rfl⟩
  | case2 acc b bs c rest hlength hstep ih =>
    rw [decodeOnto] at h
    split at h
    · rename_i c' rest' hstep' _
      rw [hstep] at hstep'
      cases hstep'
      obtain ⟨ds, rfl, rfl⟩ := ih h
      refine ⟨c :: ds, by simp, ?_⟩
      rw [encode_cons, eq_encodeChar_of_step hstep]
    · cases h
  | case3 acc b bs rest hlength hstep =>
    rw [decodeOnto] at h
    split at h
    · rename_i hstep' _
      rw [hstep] at hstep'
      cases hstep'
    · cases h

/-- Only what is written is well-formed. -/
theorem decode?_eq_some_iff {bs : List UInt8} {cs : List Char} :
    decode? bs = some cs ↔ bs = encode cs := by
  constructor
  · intro h
    obtain ⟨ds, hds, rfl⟩ := Option.map_eq_some_iff.mp h
    obtain ⟨es, rfl, hes⟩ := encode_of_decodeOnto hds
    simpa using hes.symm
  · rintro rfl
    exact decode?_encode cs

/-- A byte of ASCII is read as its own character wherever it stands. -/
theorem mem_of_decode? {cs : List Char} {bs : List UInt8} (h : decode? bs = some cs) {c : Char}
    (hascii : c.toNat < 0x80) (hc : UInt8.ofNat c.toNat ∈ bs) : c ∈ cs := by
  rw [decode?_eq_some_iff.mp h] at hc
  obtain ⟨d, hd, hbyte⟩ := List.mem_flatMap.mp hc
  have hnumber : (UInt8.ofNat c.toNat).toNat = c.toNat := toNat_ofNat_byte (by omega)
  -- the byte is one of a character of the text, which cannot be beyond ASCII
  by_cases hd' : d.toNat < 0x80
  · rw [encodeChar_ascii hd', List.mem_singleton, ← UInt8.toNat_inj, hnumber,
      toNat_ofNat_byte (by omega)] at hbyte
    have heq : c = d := by rw [← Char.ofNat_toNat c, hbyte, Char.ofNat_toNat]
    rwa [heq]
  · have hle := le_of_mem_encodeChar (Nat.not_lt.mp hd') hbyte
    omega

end CodeFlow.Text.Utf8
