import CodeFlow.Proofs.Text.Utf8
import CodeFlow.Text.Base64

/-!
# Base64 that reads back

The reader takes every padded form that the writer gives for the bytes that it was made of, and
takes nothing else (`decode_eq_ok_iff`). Three bytes and four digits are two ways to write one number
of 24 bits, so each group reads back by itself, and is the only one that is read so. The unpadded
form differs from the padded one in two digits and in the padding, which the number of bytes tells;
so it belongs to its bytes alone as well.
-/

namespace CodeFlow.Text.Base64

/-! ## Digits -/

/-- The byte of the standard digit for a value. -/
def digitByte (v : Nat) : UInt8 :=
  UInt8.ofNat (standard.digit v).toNat

theorem digit_ascii {v : Nat} (h : v < 64) : (standard.digit v).toNat < 0x80 := by
  decide +revert

theorem encodeChar_digit {v : Nat} (h : v < 64) :
    String.utf8EncodeChar (standard.digit v) = [digitByte v] :=
  Utf8.encodeChar_ascii (digit_ascii h)

theorem encodeChar_pad : String.utf8EncodeChar pad = [padByte] := by decide

theorem value?_digitByte {v : Nat} (h : v < 64) : value? (digitByte v) = some v := by
  decide +revert

/-- The padding is no digit. -/
theorem digitByte_ne_padByte {v : Nat} (h : v < 64) : digitByte v ≠ padByte := by
  intro heq
  have hvalue := value?_digitByte h
  rw [heq] at hvalue
  cases hvalue

@[simp] theorem digitAt_digitByte {v : Nat} (offset : Nat) (h : v < 64) :
    digitAt offset (digitByte v) = .ok v := by
  rw [digitAt, value?_digitByte h]

/-! ## Groups -/

/-- The number of three bytes. -/
def groupOf (x y z : UInt8) : Nat :=
  x.toNat * 65536 + y.toNat * 256 + z.toNat

theorem groupOf_lt (x y z : UInt8) : groupOf x y z < 16777216 := by
  have hx := x.toNat_lt
  have hy := y.toNat_lt
  have hz := z.toNat_lt
  unfold groupOf
  omega

/-- Two digits of six bits give back the number of one byte. -/
theorem regroup_one (n : Nat) : (n * 16 / 64 * 64 + n * 16 % 64) / 16 = n := by
  omega

/-- Three digits give back the number of two bytes. -/
theorem regroup_two (n : Nat) :
    (n * 4 / 4096 * 4096 + n * 4 / 64 % 64 * 64 + n * 4 % 64) / 4 = n := by
  omega

/-- Four digits give back the number of three bytes. -/
theorem regroup (n : Nat) :
    n / 262144 * 262144 + n / 4096 % 64 * 4096 + n / 64 % 64 * 64 + n % 64 = n := by
  omega

/-- A group gives back its three bytes. -/
theorem bytes_groupOf (x y z : UInt8) :
    UInt8.ofNat (groupOf x y z / 65536) = x ∧ UInt8.ofNat (groupOf x y z / 256 % 256) = y ∧
      UInt8.ofNat (groupOf x y z % 256) = z := by
  have hx := x.toNat_lt
  have hy := y.toNat_lt
  have hz := z.toNat_lt
  have hfirst : groupOf x y z / 65536 = x.toNat := by unfold groupOf; omega
  have hsecond : groupOf x y z / 256 % 256 = y.toNat := by unfold groupOf; omega
  have hthird : groupOf x y z % 256 = z.toNat := by unfold groupOf; omega
  rw [hfirst, hsecond, hthird]
  exact ⟨UInt8.ofNat_toNat, UInt8.ofNat_toNat, UInt8.ofNat_toNat⟩

/-- The three bytes of a number of 24 bits make a group with this number. -/
theorem groupOf_bytes {n : Nat} (h : n < 16777216) :
    groupOf (UInt8.ofNat (n / 65536)) (UInt8.ofNat (n / 256 % 256)) (UInt8.ofNat (n % 256)) = n := by
  have hx : (UInt8.ofNat (n / 65536)).toNat = n / 65536 := Utf8.toNat_ofNat_byte (by omega)
  have hy : (UInt8.ofNat (n / 256 % 256)).toNat = n / 256 % 256 :=
    Utf8.toNat_ofNat_byte (by omega)
  have hz : (UInt8.ofNat (n % 256)).toNat = n % 256 := Utf8.toNat_ofNat_byte (by omega)
  rw [groupOf, hx, hy, hz]
  omega

/-! ## Written forms -/

/-- The bytes of the padded form. -/
def written (bs : List UInt8) : List UInt8 :=
  Utf8.encode (encode bs)

theorem written_nil : written [] = [] := rfl

theorem written_one (x : UInt8) :
    written [x] = [digitByte (x.toNat * 16 / 64), digitByte (x.toNat * 16 % 64), padByte,
      padByte] := by
  have hx := x.toNat_lt
  have hhigh : x.toNat * 16 / 64 < 64 := by omega
  have hlow : x.toNat * 16 % 64 < 64 := Nat.mod_lt _ (by decide)
  simp only [written, encode, encodeWith, List.cons_append, List.nil_append, Utf8.encode_cons,
    Utf8.encode_nil, encodeChar_digit hhigh, encodeChar_digit hlow, encodeChar_pad]

theorem written_two (x y : UInt8) :
    written [x, y] =
      [digitByte ((x.toNat * 256 + y.toNat) * 4 / 4096),
        digitByte ((x.toNat * 256 + y.toNat) * 4 / 64 % 64),
        digitByte ((x.toNat * 256 + y.toNat) * 4 % 64), padByte] := by
  have hx := x.toNat_lt
  have hy := y.toNat_lt
  have hfirst : (x.toNat * 256 + y.toNat) * 4 / 4096 < 64 := by omega
  have hsecond : (x.toNat * 256 + y.toNat) * 4 / 64 % 64 < 64 := Nat.mod_lt _ (by decide)
  have hthird : (x.toNat * 256 + y.toNat) * 4 % 64 < 64 := Nat.mod_lt _ (by decide)
  simp only [written, encode, encodeWith, List.cons_append, List.nil_append, Utf8.encode_cons,
    Utf8.encode_nil, encodeChar_digit hfirst, encodeChar_digit hsecond, encodeChar_digit hthird,
    encodeChar_pad]

theorem written_group (x y z : UInt8) (rest : List UInt8) :
    written (x :: y :: z :: rest) =
      digitByte (groupOf x y z / 262144) :: digitByte (groupOf x y z / 4096 % 64) ::
        digitByte (groupOf x y z / 64 % 64) :: digitByte (groupOf x y z % 64) ::
          written rest := by
  have hgroup := groupOf_lt x y z
  have hfirst : groupOf x y z / 262144 < 64 := by omega
  have hsecond : groupOf x y z / 4096 % 64 < 64 := Nat.mod_lt _ (by decide)
  have hthird : groupOf x y z / 64 % 64 < 64 := Nat.mod_lt _ (by decide)
  have hfourth : groupOf x y z % 64 < 64 := Nat.mod_lt _ (by decide)
  unfold groupOf at *
  simp only [written, encode, encodeWith, List.cons_append, List.nil_append, Utf8.encode_cons,
    encodeChar_digit hfirst, encodeChar_digit hsecond, encodeChar_digit hthird,
    encodeChar_digit hfourth]

/-- Only whole groups of four are written. -/
theorem length_written (bs : List UInt8) : (written bs).length = (bs.length + 2) / 3 * 4 := by
  fun_induction encodeWith standard [pad] bs with
  | case1 => rfl
  | case2 x n => simp [written_one]
  | case3 x y n => simp [written_two]
  | case4 x y z rest n ih =>
    rw [written_group]
    simp only [List.length_cons, ih]
    omega

/-! ## Reading digits -/

section Digits

variable {v₀ v₁ v₂ v₃ n : Nat} (offset : Nat) (h₀ : v₀ < 64) (h₁ : v₁ < 64)

include h₀ h₁

theorem decodeLast_two (hspare : v₁ % 16 = 0) (hn : (v₀ * 64 + v₁) / 16 = n) :
    decodeLast offset [digitByte v₀, digitByte v₁, padByte, padByte] = .ok [UInt8.ofNat n] := by
  rw [decodeLast, digitAt_digitByte _ h₀, digitAt_digitByte _ h₁]
  simp [bind, Except.bind, hspare, hn]

theorem decodeLast_three (h₂ : v₂ < 64) (hspare : v₂ % 4 = 0)
    (hn : (v₀ * 4096 + v₁ * 64 + v₂) / 4 = n) :
    decodeLast offset [digitByte v₀, digitByte v₁, digitByte v₂, padByte] =
      .ok [UInt8.ofNat (n / 256), UInt8.ofNat (n % 256)] := by
  rw [decodeLast, digitAt_digitByte _ h₀, digitAt_digitByte _ h₁, digitAt_digitByte _ h₂]
  simp [bind, Except.bind, digitByte_ne_padByte h₂, hspare, hn]

theorem decodeLast_four (h₂ : v₂ < 64) (h₃ : v₃ < 64)
    (hn : v₀ * 262144 + v₁ * 4096 + v₂ * 64 + v₃ = n) :
    decodeLast offset [digitByte v₀, digitByte v₁, digitByte v₂, digitByte v₃] =
      .ok [UInt8.ofNat (n / 65536), UInt8.ofNat (n / 256 % 256), UInt8.ofNat (n % 256)] := by
  rw [decodeLast, digitAt_digitByte _ h₀, digitAt_digitByte _ h₁, digitAt_digitByte _ h₂,
    digitAt_digitByte _ h₃]
  simp [bind, Except.bind, digitByte_ne_padByte h₂, digitByte_ne_padByte h₃, hn]

/-- Four digits with something behind them are read on their own. -/
theorem decodeFrom_four (h₂ : v₂ < 64) (h₃ : v₃ < 64)
    (hn : v₀ * 262144 + v₁ * 4096 + v₂ * 64 + v₃ = n) {rest : List UInt8} (hrest : rest ≠ []) :
    decodeFrom offset (digitByte v₀ :: digitByte v₁ :: digitByte v₂ :: digitByte v₃ :: rest) =
      (decodeFrom (offset + 4) rest).map fun bytes =>
        UInt8.ofNat (n / 65536) :: UInt8.ofNat (n / 256 % 256) :: UInt8.ofNat (n % 256) ::
          bytes := by
  obtain ⟨b, more, rfl⟩ := List.exists_cons_of_ne_nil hrest
  rw [decodeFrom, digitAt_digitByte _ h₀, digitAt_digitByte _ h₁, digitAt_digitByte _ h₂,
    digitAt_digitByte _ h₃]
  simp only [bind, Except.bind, hn]
  cases decodeFrom (offset + 4) (b :: more) <;> rfl

end Digits

/-- At most four bytes are the last group. -/
theorem decodeFrom_of_length_le {text : List UInt8} (offset : Nat) (h : text.length ≤ 4) :
    decodeFrom offset text = decodeLast offset text := by
  unfold decodeFrom
  split
  · simp only [List.length_cons] at h
    omega
  · rfl

/-! ## Reading back -/

theorem decodeFrom_written_one (offset : Nat) (x : UInt8) :
    decodeFrom offset (written [x]) = .ok [x] := by
  have hx := x.toNat_lt
  have hhigh : x.toNat * 16 / 64 < 64 := by omega
  have hlow : x.toNat * 16 % 64 < 64 := Nat.mod_lt _ (by decide)
  -- the four bits that belong to no byte are zeros
  have hspare : x.toNat * 16 % 64 % 16 = 0 := by omega
  rw [decodeFrom_of_length_le offset (by simp [length_written]), written_one,
    decodeLast_two offset hhigh hlow hspare (regroup_one _), UInt8.ofNat_toNat]

theorem decodeFrom_written_two (offset : Nat) (x y : UInt8) :
    decodeFrom offset (written [x, y]) = .ok [x, y] := by
  have hx := x.toNat_lt
  have hy := y.toNat_lt
  have hhigh : (x.toNat * 256 + y.toNat) / 256 = x.toNat := by omega
  have hlow : (x.toNat * 256 + y.toNat) % 256 = y.toNat := by omega
  have hfirst : (x.toNat * 256 + y.toNat) * 4 / 4096 < 64 := by omega
  have hsecond : (x.toNat * 256 + y.toNat) * 4 / 64 % 64 < 64 := Nat.mod_lt _ (by decide)
  have hthird : (x.toNat * 256 + y.toNat) * 4 % 64 < 64 := Nat.mod_lt _ (by decide)
  -- the two bits that belong to no byte are zeros
  have hspare : (x.toNat * 256 + y.toNat) * 4 % 64 % 4 = 0 := by omega
  rw [decodeFrom_of_length_le offset (by simp [length_written]), written_two,
    decodeLast_three offset hfirst hsecond hthird hspare (regroup_two _), hhigh, hlow, UInt8.ofNat_toNat,
    UInt8.ofNat_toNat]

/-- A whole group is read by itself, whether or not it is the last one. -/
theorem decodeFrom_written_group (offset : Nat) (x y z : UInt8) (rest : List UInt8) :
    decodeFrom offset (written (x :: y :: z :: rest)) =
      (decodeFrom (offset + 4) (written rest)).map fun bytes => x :: y :: z :: bytes := by
  have hgroup := groupOf_lt x y z
  have hfirst : groupOf x y z / 262144 < 64 := by omega
  have hsecond : groupOf x y z / 4096 % 64 < 64 := Nat.mod_lt _ (by decide)
  have hthird : groupOf x y z / 64 % 64 < 64 := Nat.mod_lt _ (by decide)
  have hfourth : groupOf x y z % 64 < 64 := Nat.mod_lt _ (by decide)
  obtain ⟨hx, hy, hz⟩ := bytes_groupOf x y z
  rw [written_group]
  by_cases hrest : written rest = []
  · have hnil : rest = [] := by
      have hlength := length_written rest
      rw [hrest, List.length_nil] at hlength
      exact List.length_eq_zero_iff.mp (by omega)
    rw [hnil, written_nil, decodeFrom_of_length_le offset (by simp),
      decodeLast_four offset hfirst hsecond hthird hfourth (regroup _), hx, hy, hz]
    rfl
  · rw [decodeFrom_four offset hfirst hsecond hthird hfourth (regroup _) hrest, hx, hy, hz]

theorem decodeFrom_written (offset : Nat) (bs : List UInt8) :
    decodeFrom offset (written bs) = .ok bs := by
  fun_induction encodeWith standard [pad] bs generalizing offset with
  | case1 => rfl
  | case2 x n => exact decodeFrom_written_one offset x
  | case3 x y n => exact decodeFrom_written_two offset x y
  | case4 x y z rest n ih =>
    rw [decodeFrom_written_group, ih]
    rfl

/-- What is written reads back. -/
theorem decode_encode (bs : List UInt8) : decode (Utf8.encode (encode bs)) = .ok bs := by
  -- with whole groups of four there is no stray byte
  have hlength : (Utf8.encode (encode bs)).length % 4 ≠ 1 := by
    have hwritten := length_written bs
    rw [written] at hwritten
    omega
  rw [decode, strayByte?, if_neg hlength]
  exact decodeFrom_written 0 bs

/-! ## Only written forms are read -/

/-- Each digit has a byte of its own. -/
theorem eq_digitByte_of_value? {b : UInt8} {v : Nat} (h : value? b = some v) :
    v < 64 ∧ b = digitByte v := by
  have hall : ∀ n < 256, (value? (UInt8.ofNat n)).all
      (fun v => v < 64 && UInt8.ofNat n == digitByte v) = true := by
    decide +kernel
  have hb := hall b.toNat b.toNat_lt
  rw [UInt8.ofNat_toNat, h] at hb
  simpa using hb

theorem eq_digitByte_of_digitAt {offset v : Nat} {b : UInt8} (h : digitAt offset b = .ok v) :
    v < 64 ∧ b = digitByte v := by
  unfold digitAt at h
  split at h
  · rename_i hvalue
    cases h
    exact eq_digitByte_of_value? hvalue
  · cases h

section

variable {v₀ v₁ v₂ v₃ n : Nat} (h₀ : v₀ < 64) (h₁ : v₁ < 64)

include h₀ h₁

/-- Two digits are those of the byte that they are read as, if the bits to spare are zeros. -/
theorem written_of_two (hspare : v₁ % 16 = 0) (hn : (v₀ * 64 + v₁) / 16 = n) :
    written [UInt8.ofNat n] = [digitByte v₀, digitByte v₁, padByte, padByte] := by
  have hbyte : (UInt8.ofNat n).toNat = n := Utf8.toNat_ofNat_byte (by omega)
  have hfirst : n * 16 / 64 = v₀ := by omega
  have hsecond : n * 16 % 64 = v₁ := by omega
  rw [written_one, hbyte, hfirst, hsecond]

theorem written_of_three (h₂ : v₂ < 64) (hspare : v₂ % 4 = 0)
    (hn : (v₀ * 4096 + v₁ * 64 + v₂) / 4 = n) :
    written [UInt8.ofNat (n / 256), UInt8.ofNat (n % 256)] =
      [digitByte v₀, digitByte v₁, digitByte v₂, padByte] := by
  have hhigh : (UInt8.ofNat (n / 256)).toNat = n / 256 := Utf8.toNat_ofNat_byte (by omega)
  have hlow : (UInt8.ofNat (n % 256)).toNat = n % 256 := Utf8.toNat_ofNat_byte (by omega)
  have hwhole : n / 256 * 256 + n % 256 = n := by omega
  have hfirst : n * 4 / 4096 = v₀ := by omega
  have hsecond : n * 4 / 64 % 64 = v₁ := by omega
  have hthird : n * 4 % 64 = v₂ := by omega
  rw [written_two, hhigh, hlow, hwhole, hfirst, hsecond, hthird]

theorem written_of_four (h₂ : v₂ < 64) (h₃ : v₃ < 64)
    (hn : v₀ * 262144 + v₁ * 4096 + v₂ * 64 + v₃ = n) (rest : List UInt8) :
    written (UInt8.ofNat (n / 65536) :: UInt8.ofNat (n / 256 % 256) :: UInt8.ofNat (n % 256) ::
      rest) =
      digitByte v₀ :: digitByte v₁ :: digitByte v₂ :: digitByte v₃ :: written rest := by
  have hgroup := groupOf_bytes (n := n) (by omega)
  have hfirst : n / 262144 = v₀ := by omega
  have hsecond : n / 4096 % 64 = v₁ := by omega
  have hthird : n / 64 % 64 = v₂ := by omega
  have hfourth : n % 64 = v₃ := by omega
  rw [written_group, hgroup, hfirst, hsecond, hthird, hfourth]

end

theorem eq_nil_of_length_le_four {b₀ b₁ b₂ b₃ : UInt8} {more : List UInt8}
    (h : (b₀ :: b₁ :: b₂ :: b₃ :: more).length ≤ 4) : more = [] := by
  simp only [List.length_cons] at h
  exact List.eq_nil_of_length_eq_zero (by omega)

/-- What is read from the last group is written as that group. -/
theorem eq_written_of_decodeLast {offset : Nat} {text bs : List UInt8} (hlength : text.length ≤ 4)
    (h : decodeLast offset text = .ok bs) : text = written bs := by
  unfold decodeLast at h
  simp only [bind, Except.bind] at h
  -- no group of one to three digits is read, and one of four in three ways
  repeat' split at h
  all_goals try cases h
  · rfl
  · rename_i b₀ b₁ b₂ b₃ more _ v₀ hv₀ _ v₁ hv₁ hpad₂ hpad₃ hspare
    obtain rfl := eq_nil_of_length_le_four hlength
    obtain ⟨h₀, rfl⟩ := eq_digitByte_of_digitAt hv₀
    obtain ⟨h₁, rfl⟩ := eq_digitByte_of_digitAt hv₁
    rw [written_of_two h₀ h₁ (Decidable.not_not.mp hspare) rfl, hpad₂, Decidable.not_not.mp hpad₃]
  · rename_i b₀ b₁ b₂ b₃ more _ v₀ hv₀ _ v₁ hv₁ _ _ v₂ hv₂ hpad₃ hspare
    obtain rfl := eq_nil_of_length_le_four hlength
    obtain ⟨h₀, rfl⟩ := eq_digitByte_of_digitAt hv₀
    obtain ⟨h₁, rfl⟩ := eq_digitByte_of_digitAt hv₁
    obtain ⟨h₂, rfl⟩ := eq_digitByte_of_digitAt hv₂
    rw [written_of_three h₀ h₁ h₂ (Decidable.not_not.mp hspare) rfl, hpad₃]
  · rename_i b₀ b₁ b₂ b₃ more _ v₀ hv₀ _ v₁ hv₁ _ _ v₂ hv₂ _ _ v₃ hv₃
    obtain rfl := eq_nil_of_length_le_four hlength
    obtain ⟨h₀, rfl⟩ := eq_digitByte_of_digitAt hv₀
    obtain ⟨h₁, rfl⟩ := eq_digitByte_of_digitAt hv₁
    obtain ⟨h₂, rfl⟩ := eq_digitByte_of_digitAt hv₂
    obtain ⟨h₃, rfl⟩ := eq_digitByte_of_digitAt hv₃
    rw [written_of_four h₀ h₁ h₂ h₃ rfl, written_nil]

theorem eq_written_of_decodeFrom {offset : Nat} {text bs : List UInt8}
    (h : decodeFrom offset text = .ok bs) : text = written bs := by
  fun_induction decodeFrom offset text generalizing bs with
  | case1 offset b₀ b₁ b₂ b₃ b₄ rest ih =>
    simp only [bind, Except.bind] at h
    -- each of the four digits and all that follows must have been read
    repeat' split at h
    all_goals cases h
    rename_i v₀ hv₀ _ v₁ hv₁ _ v₂ hv₂ _ v₃ hv₃ _ bytes hbytes
    obtain ⟨h₀, rfl⟩ := eq_digitByte_of_digitAt hv₀
    obtain ⟨h₁, rfl⟩ := eq_digitByte_of_digitAt hv₁
    obtain ⟨h₂, rfl⟩ := eq_digitByte_of_digitAt hv₂
    obtain ⟨h₃, rfl⟩ := eq_digitByte_of_digitAt hv₃
    rw [written_of_four h₀ h₁ h₂ h₃ rfl, ih hbytes]
  | case2 offset last hshort =>
    refine eq_written_of_decodeLast ?_ h
    -- five bytes or more begin with a group that is not the last one
    match last, hshort with
    | [], _ => simp
    | [_], _ => simp
    | [_, _], _ => simp
    | [_, _, _], _ => simp
    | [_, _, _, _], _ => simp
    | b₀ :: b₁ :: b₂ :: b₃ :: b₄ :: rest, hshort => exact absurd rfl (hshort b₀ b₁ b₂ b₃ b₄ rest)

/-- The only form that is read is the one that is written. -/
theorem decode_eq_ok_iff {text bs : List UInt8} :
    decode text = .ok bs ↔ text = Utf8.encode (encode bs) := by
  constructor
  · intro h
    unfold decode at h
    split at h
    · cases h
    · exact eq_written_of_decodeFrom h
  · rintro rfl
    exact decode_encode bs

/-! ## The unpadded form -/

/-- The values of the digits in which bytes are written. -/
def digits : List UInt8 → List Nat
  | [] => []
  | [x] => [x.toNat * 16 / 64, x.toNat * 16 % 64]
  | [x, y] =>
    let n := (x.toNat * 256 + y.toNat) * 4
    [n / 4096, n / 64 % 64, n % 64]
  | x :: y :: z :: rest =>
    let n := groupOf x y z
    n / 262144 :: n / 4096 % 64 :: n / 64 % 64 :: n % 64 :: digits rest

/-- The alphabet is for the values; how much padding there is depends on the number of bytes. -/
theorem encodeWith_eq (a : Alphabet) (filler : List Char) (bs : List UInt8) :
    encodeWith a filler bs =
      (digits bs).map a.digit ++ (List.replicate ((3 - bs.length % 3) % 3) filler).flatten := by
  fun_induction digits bs with
  | case1 => simp [encodeWith]
  | case2 x => simp [encodeWith]
  | case3 x y n => simp [encodeWith, n]
  | case4 x y z rest n ih =>
    have hgroup : n = x.toNat * 65536 + y.toNat * 256 + z.toNat := rfl
    -- a whole group does not change how far the last one falls short
    have hshort : (3 - (x :: y :: z :: rest).length % 3) % 3 = (3 - rest.length % 3) % 3 := by
      simp only [List.length_cons]
      omega
    rw [hshort, encodeWith, ih, hgroup]
    rfl

theorem length_digits (bs : List UInt8) : (digits bs).length = (bs.length * 4 + 2) / 3 := by
  fun_induction digits bs with
  | case1 => rfl
  | case2 x => simp
  | case3 x y n => simp
  | case4 x y z rest n ih =>
    simp only [List.length_cons, ih]
    omega

theorem lt_of_mem_digits {bs : List UInt8} {v : Nat} (h : v ∈ digits bs) : v < 64 := by
  fun_induction digits bs with
  | case1 => cases h
  | case2 x =>
    have hx := x.toNat_lt
    simp only [List.mem_cons, List.not_mem_nil, or_false] at h
    omega
  | case3 x y n =>
    have hx := x.toNat_lt
    have hy := y.toNat_lt
    simp only [List.mem_cons, List.not_mem_nil, or_false] at h
    omega
  | case4 x y z rest n ih =>
    have hgroup : n < 16777216 := groupOf_lt x y z
    simp only [List.mem_cons] at h
    rcases h with h | h | h | h | h
    · omega
    · omega
    · omega
    · omega
    · exact ih h

/-- The characters of the unpadded form: letters, figures and two signs. -/
def IsUrlDigit (c : Char) : Prop :=
  c.isAlphanum = true ∨ c = '-' ∨ c = '_'

instance (c : Char) : Decidable (IsUrlDigit c) :=
  inferInstanceAs (Decidable (_ ∨ _ ∨ _))

/-- The standard digit for a digit that is safe in URLs. -/
def standardOf (c : Char) : Char :=
  if c = '-' then '+' else if c = '_' then '/' else c

theorem isUrlDigit_digit {v : Nat} (h : v < 64) : IsUrlDigit (urlSafe.digit v) := by
  decide +revert

theorem standardOf_digit {v : Nat} (h : v < 64) :
    standardOf (urlSafe.digit v) = standard.digit v := by
  decide +revert

theorem encodeUrl_eq (bs : List UInt8) : encodeUrl bs = (digits bs).map urlSafe.digit := by
  simp [encodeUrl, encodeWith_eq]

theorem length_encodeUrl (bs : List UInt8) :
    (encodeUrl bs).length = (bs.length * 4 + 2) / 3 := by
  rw [encodeUrl_eq, List.length_map, length_digits]

theorem isUrlDigit_of_mem_encodeUrl {bs : List UInt8} {c : Char} (h : c ∈ encodeUrl bs) :
    IsUrlDigit c := by
  rw [encodeUrl_eq] at h
  obtain ⟨v, hv, rfl⟩ := List.mem_map.mp h
  exact isUrlDigit_digit (lt_of_mem_digits hv)

/-- The padded form is the unpadded one with other signs and with the padding. -/
theorem encode_eq (bs : List UInt8) :
    encode bs =
      (encodeUrl bs).map standardOf ++ (List.replicate ((3 - bs.length % 3) % 3) [pad]).flatten := by
  have hdigits : ∀ v ∈ digits bs, standard.digit v = standardOf (urlSafe.digit v) := by
    intro v hv
    exact (standardOf_digit (lt_of_mem_digits hv)).symm
  rw [encode, encodeWith_eq, encodeUrl_eq, List.map_map]
  congr 1
  exact List.map_congr_left hdigits

/-- Different bytes have different unpadded forms. -/
theorem encodeUrl_injective : Function.Injective encodeUrl := by
  intro bs bs' h
  have hlength : bs.length = bs'.length := by
    have hforms := congrArg List.length h
    rw [length_encodeUrl, length_encodeUrl] at hforms
    omega
  have hpadded : encode bs = encode bs' := by rw [encode_eq, encode_eq, h, hlength]
  -- both are read from one padded form
  have hread : (Except.ok bs : Except Fault (List UInt8)) = .ok bs' := by
    rw [← decode_encode bs, hpadded, decode_encode]
  exact Except.ok.inj hread

end CodeFlow.Text.Base64
