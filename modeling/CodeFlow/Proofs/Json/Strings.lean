import CodeFlow.Json.Document
import CodeFlow.Proofs.Text.Utf8

/-!
# Strings of JSON read back

A string is read back as it was written, whatever its characters are and whatever stands behind it.
-/

namespace CodeFlow.Json

open CodeFlow.Text

/-! ## Characters within a string -/

section

variable {acc rest : List UInt8}

theorem readStringOnto_quote : readStringOnto acc (34 :: rest) = .ok (acc, rest) := by
  rw [readStringOnto, if_pos rfl]

theorem readStringOnto_plain {b : UInt8} (hquote : b ≠ 34) (hescape : b ≠ 92)
    (hcontrol : ¬ b < 32) : readStringOnto acc (b :: rest) = readStringOnto (b :: acc) rest := by
  rw [readStringOnto, if_neg hquote, if_neg hescape, if_neg hcontrol]

theorem readStringOnto_escape {bs out : List UInt8} (h : readEscape bs = .ok (out, rest)) :
    readStringOnto acc (92 :: bs) = readStringOnto (out.reverse ++ acc) rest := by
  rw [readStringOnto, if_neg (by decide), if_pos rfl]
  split
  · rename_i h'
    rw [h] at h'
    cases h'
  · rename_i h'
    rw [h] at h'
    cases h'
    rfl

theorem readStringOnto_plains {bs : List UInt8}
    (h : ∀ b ∈ bs, b ≠ 34 ∧ b ≠ 92 ∧ ¬ b < 32) :
    readStringOnto acc (bs ++ rest) = readStringOnto (bs.reverse ++ acc) rest := by
  induction bs generalizing acc with
  | nil => rfl
  | cons b bs ih =>
    obtain ⟨hquote, hescape, hcontrol⟩ := h b List.mem_cons_self
    rw [List.cons_append, readStringOnto_plain hquote hescape hcontrol,
      ih fun b hb => h b (List.mem_cons_of_mem _ hb)]
    simp

end

theorem hexValue?_hexDigit : ∀ n < 16, hexValue? (UInt8.ofNat (hexDigit n).toNat) = some n := by
  decide

theorem hexDigit_ascii : ∀ n < 16, (hexDigit n).toNat < 0x80 := by
  decide

/-- The four digits by which a control character is escaped. -/
theorem readHex_control {n : Nat} (h : n < 0x20) (rest : List UInt8) :
    readHex (48 :: 48 :: UInt8.ofNat (hexDigit (n / 16)).toNat ::
      UInt8.ofNat (hexDigit (n % 16)).toNat :: rest) = .ok (n, rest) := by
  have hzero : hexValue? 48 = some 0 := by decide
  have hsum : 0 * 4096 + 0 * 256 + n / 16 * 16 + n % 16 = n := by omega
  simp only [readHex, hzero, hexValue?_hexDigit _ (show n / 16 < 16 by omega),
    hexValue?_hexDigit _ (show n % 16 < 16 by omega), hsum]

theorem readEscape_control {c : Char} (h : c.toNat < 0x20) (rest : List UInt8) :
    readEscape (117 :: 48 :: 48 :: UInt8.ofNat (hexDigit (c.toNat / 16)).toNat ::
      UInt8.ofNat (hexDigit (c.toNat % 16)).toNat :: rest) =
      .ok (String.utf8EncodeChar c, rest) := by
  have hlow : ¬ (0xDC00 ≤ c.toNat ∧ c.toNat ≤ 0xDFFF) := by omega
  have hhigh : ¬ (0xD800 ≤ c.toNat ∧ c.toNat ≤ 0xDBFF) := by omega
  simp only [readEscape, if_true, readHex_control h, hlow, hhigh, if_false, Char.ofNat_toNat]

/-- A control character that has no letter of its own is escaped by its number. -/
theorem encode_escapeControl {n : Nat} (h : n < 0x20) :
    Utf8.encode ['\\', 'u', '0', '0', hexDigit (n / 16), hexDigit (n % 16)] =
      92 :: 117 :: 48 :: 48 :: UInt8.ofNat (hexDigit (n / 16)).toNat ::
        [UInt8.ofNat (hexDigit (n % 16)).toNat] := by
  have hhigh := Utf8.encodeChar_ascii (hexDigit_ascii (n / 16) (by omega))
  have hlow := Utf8.encodeChar_ascii (hexDigit_ascii (n % 16) (by omega))
  simp only [Utf8.encode_cons, Utf8.encode_nil, hhigh, hlow]
  rfl

/-- A character that is not escaped has no byte that means something within a string. -/
theorem plain_of_mem_encodeChar {c : Char} (hquote : c ≠ '"') (hescape : c ≠ '\\')
    (hcontrol : ¬ c.toNat < 0x20) :
    ∀ b ∈ String.utf8EncodeChar c, b ≠ 34 ∧ b ≠ 92 ∧ ¬ b < 32 := by
  intro b hb
  simp only [← UInt8.toNat_inj, ne_eq, UInt8.lt_iff_toNat_lt, UInt8.reduceToNat]
  by_cases hascii : c.toNat < 0x80
  · rw [Utf8.encodeChar_ascii hascii, List.mem_singleton] at hb
    have hb' : b.toNat = c.toNat := by rw [hb, Utf8.toNat_ofNat_byte (by omega)]
    have hne (d : Char) (hd : c ≠ d) : c.toNat ≠ d.toNat := fun h => hd (Char.toNat_inj.mp h)
    have hquote' : c.toNat ≠ 34 := hne '"' hquote
    have hescape' : c.toNat ≠ 92 := hne '\\' hescape
    omega
  -- all signs that mean something are ASCII
  · have := Utf8.le_of_mem_encodeChar (Nat.le_of_not_lt hascii) hb
    omega

/-- An escape by a letter stands for one byte. -/
theorem readStringOnto_letter {b out : UInt8} (hb : b ≠ 117) (h : escaped? b = some out)
    (acc rest : List UInt8) :
    readStringOnto acc (92 :: b :: rest) = readStringOnto (out :: acc) rest := by
  have hread : readEscape (b :: rest) = .ok ([out], rest) := by
    rw [readEscape, if_neg hb, h]
  exact readStringOnto_escape hread

/-- A character is read from a string as it was written there. -/
theorem readStringOnto_escapeChar (c : Char) (acc rest : List UInt8) :
    readStringOnto acc (Utf8.encode (escapeChar c) ++ rest) =
      readStringOnto ((String.utf8EncodeChar c).reverse ++ acc) rest := by
  unfold escapeChar
  -- seven characters have an escape by a letter
  split
  · rename_i h
    subst h
    exact readStringOnto_letter (by decide) (by decide) acc rest
  split
  · rename_i h
    subst h
    exact readStringOnto_letter (by decide) (by decide) acc rest
  split
  · rename_i h
    subst h
    exact readStringOnto_letter (by decide) (by decide) acc rest
  split
  · rename_i h
    subst h
    exact readStringOnto_letter (by decide) (by decide) acc rest
  split
  · rename_i h
    subst h
    exact readStringOnto_letter (by decide) (by decide) acc rest
  split
  · rename_i h
    subst h
    exact readStringOnto_letter (by decide) (by decide) acc rest
  split
  · rename_i h
    subst h
    exact readStringOnto_letter (by decide) (by decide) acc rest
  split
  · rename_i hcontrol
    rw [encode_escapeControl hcontrol]
    exact readStringOnto_escape (readEscape_control hcontrol rest)
  · rename_i hquote hescape _ _ _ _ _ hcontrol
    rw [Utf8.encode_cons, Utf8.encode_nil, List.append_nil]
    exact readStringOnto_plains (plain_of_mem_encodeChar hquote hescape hcontrol)

/-! ## Whole strings -/

theorem readStringOnto_escaped (cs : List Char) (acc rest : List UInt8) :
    readStringOnto acc (Utf8.encode (cs.flatMap escapeChar) ++ 34 :: rest) =
      .ok ((Utf8.encode cs).reverse ++ acc, rest) := by
  induction cs generalizing acc with
  | nil => exact readStringOnto_quote
  | cons c cs ih =>
    rw [List.flatMap_cons, Utf8.encode_append, List.append_assoc, readStringOnto_escapeChar, ih]
    simp

theorem encode_writeString (s : String) :
    Utf8.encode (writeString s) = 34 :: (Utf8.encode (s.toList.flatMap escapeChar) ++ [34]) := by
  unfold writeString
  rw [List.cons_append, Utf8.encode_cons, Utf8.encode_append]
  rfl

/-- A string reads back, once its opening quote has been taken. -/
theorem readString_escaped (s : String) (rest : List UInt8) :
    readString (Utf8.encode (s.toList.flatMap escapeChar) ++ 34 :: rest) = .ok (s, rest) := by
  unfold readString
  rw [readStringOnto_escaped]
  simp [Utf8.toText?, Utf8.decode?_encode]

theorem readFound_quote (rest : List UInt8) :
    readFound (34 :: rest) = (readString rest).map fun p => (.str p.1, p.2) := rfl

/-- A string reads back as a value. -/
theorem readFound_writeString (s : String) (rest : List UInt8) :
    readFound (Utf8.encode (writeString s) ++ rest) = .ok (.str s, rest) := by
  rw [encode_writeString, List.cons_append, List.append_assoc, List.singleton_append,
    readFound_quote, readString_escaped]
  rfl

end CodeFlow.Json
