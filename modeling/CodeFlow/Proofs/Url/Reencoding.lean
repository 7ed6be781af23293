import CodeFlow.Proofs.Url.Query
import Mathlib.Data.List.TakeWhile

/-!
# Queries that are encoded once more

Whoever reads an address encodes its query once more, so that it holds nothing but the characters
that a query keeps. What is encoded already stays as it is (`percentEncode_of_stricter`), and what
was not is read as the same bytes: whatever the text of a query is, its pairs stay the same
(`pairsOf_percentEncode`).
-/

namespace CodeFlow.Url

open CodeFlow.Text

variable {special : Bool} {c : Char} {cs : List Char}

/-! ## What a query keeps -/

theorem inQuery_of_digitIn? {n : Nat} (h : digitIn? 16 c = some n) :
    inQuery special c = true := by
  refine ascii_of_forall (p := fun c => (digitIn? 16 c).isSome = true → inQuery special c = true)
    ?_ (ascii_of_digitIn? h) (by rw [h]; rfl)
  cases special <;> decide

theorem percentEncode_append (keeps : Char → Bool) (cs ds : List Char) :
    percentEncode keeps (cs ++ ds) = percentEncode keeps cs ++ percentEncode keeps ds :=
  List.flatMap_append

theorem percentEncode_cons_kept {keeps : Char → Bool} (h : keeps c = true) (cs : List Char) :
    percentEncode keeps (c :: cs) = c :: percentEncode keeps cs := by
  simp [percentEncode, escapeChar, h]

theorem percentEncode_cons_escaped {keeps : Char → Bool} (h : keeps c = false) (cs : List Char) :
    percentEncode keeps (c :: cs) =
      (String.utf8EncodeChar c).flatMap escapeByte ++ percentEncode keeps cs := by
  simp [percentEncode, escapeChar, h]

/-- An escape begins with a percent sign. -/
theorem exists_escape (c : Char) :
    ∃ escape, (String.utf8EncodeChar c).flatMap escapeByte = '%' :: escape := by
  obtain ⟨b, bs, hbytes, -⟩ := Utf8.step_encodeChar c []
  rw [List.append_nil] at hbytes
  rw [hbytes]
  exact ⟨_, rfl⟩

/-- Under the well-known schemes less is kept. -/
theorem inQuery_of_stricter (h : inQuery true c = true) (special : Bool) :
    inQuery special c = true := by
  cases special with
  | true => exact h
  | false =>
    rw [inQuery, Bool.and_eq_true] at h ⊢
    exact ⟨h.1, rfl⟩

/-- Every sign of an escape is kept. -/
theorem SpellsBytes.inQuery {bs : List UInt8} (h : SpellsBytes bs cs) :
    ∀ c ∈ cs, inQuery special c = true := by
  induction h with
  | nil => exact fun c hc => absurd hc List.not_mem_nil
  | cons hhigh hlow _ ih =>
    intro c hc
    simp only [List.mem_cons] at hc
    rcases hc with rfl | rfl | rfl | hc
    · cases special <;> decide
    · exact inQuery_of_digitIn? hhigh
    · exact inQuery_of_digitIn? hlow
    · exact ih c hc

theorem inQuery_of_mem_percentEncode (h : c ∈ percentEncode (inQuery special) cs) :
    inQuery special c = true := by
  obtain ⟨d, -, hescape⟩ := List.mem_flatMap.mp h
  unfold escapeChar at hescape
  split at hescape
  · rename_i hkept
    rwa [List.mem_singleton.mp hescape]
  · exact (spellsBytes_escapeBytes _).inQuery c hescape

theorem percentEncode_of_kept {keeps : Char → Bool} (h : ∀ c ∈ cs, keeps c = true) :
    percentEncode keeps cs = cs := by
  induction cs with
  | nil => rfl
  | cons c cs ih =>
    rw [percentEncode_cons_kept (h c List.mem_cons_self),
      ih fun d hd => h d (List.mem_cons_of_mem c hd)]

/-- What is encoded for one of the well-known schemes stays as it is under every scheme. -/
theorem percentEncode_of_stricter (special : Bool) (cs : List Char) :
    percentEncode (inQuery special) (percentEncode (inQuery true) cs) =
      percentEncode (inQuery true) cs := by
  apply percentEncode_of_kept
  intro c hc
  exact inQuery_of_stricter (inQuery_of_mem_percentEncode hc) special

/-! ## Keys and values -/

/-- The text does not begin with a hexadecimal digit. -/
def NoDigit (cs : List Char) : Prop := ∀ c ∈ cs.head?, digitIn? 16 c = none

/-- The bytes do not begin with a hexadecimal digit. -/
def NoDigitByte (bs : List UInt8) : Prop := ∀ b ∈ bs.head?, hexDigit? b = none

theorem noDigit_or_digit (cs : List Char) :
    NoDigit cs ∨ ∃ c n rest, cs = c :: rest ∧ digitIn? 16 c = some n := by
  cases cs with
  | nil => exact .inl fun c hc => by cases hc
  | cons c rest =>
    cases hdigit : digitIn? 16 c with
    | none =>
      refine .inl fun d hd => ?_
      obtain rfl : c = d := by simpa using hd
      exact hdigit
    | some n => exact .inr ⟨c, n, rest, rfl, hdigit⟩

/-- No byte of a character beyond the digits is a digit. -/
theorem NoDigit.bytes (h : NoDigit cs) : NoDigitByte (Utf8.encode (spaced cs)) := by
  cases cs with
  | nil => exact fun b hb => by cases hb
  | cons c rest =>
    have hc : digitIn? 16 c = none := h c rfl
    intro b hb
    by_cases hplus : c = '+'
    · subst hplus
      have hspace : Utf8.encode (spaced ('+' :: rest)) = 32 :: Utf8.encode (spaced rest) := rfl
      obtain rfl : 32 = b := by simpa [hspace] using hb
      decide
    · have hspaced : spaced (c :: rest) = c :: spaced rest := by simp [spaced, hplus]
      rw [hspaced, Utf8.encode_cons] at hb
      by_cases hascii : c.toNat < 128
      · have htable : digitIn? 16 c = none → hexDigit? (UInt8.ofNat c.toNat) = none :=
          ascii_of_forall
            (p := fun c => digitIn? 16 c = none → hexDigit? (UInt8.ofNat c.toNat) = none)
            (by decide) hascii
        obtain rfl : UInt8.ofNat c.toNat = b := by
          simpa [Utf8.encodeChar_ascii hascii] using hb
        exact htable hc
      · obtain ⟨first, bytes, hbytes, -⟩ := Utf8.step_encodeChar c []
        rw [List.append_nil] at hbytes
        obtain rfl : first = b := by simpa [hbytes] using hb
        have hmem : first ∈ String.utf8EncodeChar c := by
          rw [hbytes]
          exact List.mem_cons_self
        have hhigh : 0x80 ≤ first.toNat := Utf8.le_of_mem_encodeChar (by omega) hmem
        unfold hexDigit?
        dsimp only
        rw [if_neg (by omega), if_neg (by omega), if_neg (by omega)]

theorem NoDigit.percentEncode (h : NoDigit cs) : NoDigit (percentEncode (inQuery special) cs) := by
  cases cs with
  | nil => exact h
  | cons c rest =>
    cases hkept : inQuery special c with
    | true =>
      rw [percentEncode_cons_kept hkept]
      exact h
    | false =>
      obtain ⟨escape, hescape⟩ := exists_escape c
      rw [percentEncode_cons_escaped hkept, hescape]
      intro d hd
      obtain rfl : '%' = d := by simpa using hd
      decide

/-- A percent sign stays if no digit follows it, -/
theorem percentDecode_noDigit {bs : List UInt8} (h : NoDigitByte bs) :
    percentDecode (37 :: bs) = 37 :: percentDecode bs := by
  match bs with
  | [] => rfl
  | [a] => rw [percentDecode]; simp
  | a :: b :: rest =>
    rw [percentDecode, h a rfl]

/-- or only one. -/
theorem percentDecode_oneDigit {bs : List UInt8} (h : NoDigitByte bs) (a : UInt8) :
    percentDecode (37 :: a :: bs) = 37 :: percentDecode (a :: bs) := by
  match bs with
  | [] => rw [percentDecode]; simp
  | b :: rest =>
    rw [percentDecode, h b rfl]
    cases hexDigit? a <;> rfl

theorem percentDecode_noPercent {bs : List UInt8} (h : (37 : UInt8) ∉ bs) (rest : List UInt8) :
    percentDecode (bs ++ rest) = bs ++ percentDecode rest := by
  induction bs with
  | nil => rfl
  | cons b bs ih =>
    rw [List.mem_cons, not_or] at h
    rw [List.cons_append, percentDecode_other (Ne.symm h.1), ih h.2, List.cons_append]

theorem percent_not_mem_encodeChar (h : c ≠ '%') : (37 : UInt8) ∉ String.utf8EncodeChar c := by
  intro hmem
  by_cases hascii : c.toNat < 128
  · rw [Utf8.encodeChar_ascii hascii, List.mem_singleton] at hmem
    have hnat : 37 = (UInt8.ofNat c.toNat).toNat := congrArg UInt8.toNat hmem
    rw [Utf8.toNat_ofNat_byte (by omega)] at hnat
    exact h (Char.toNat_inj.mp hnat.symm)
  · exact absurd (Utf8.le_of_mem_encodeChar (by omega) hmem) (by decide)

theorem spaced_cons_digit {n : Nat} (h : digitIn? 16 c = some n) (cs : List Char) :
    Utf8.encode (spaced (c :: cs)) = UInt8.ofNat c.toNat :: Utf8.encode (spaced cs) := by
  rw [spaced_cons_of_isPlain (isPlain_of_digitIn? h), Utf8.encode_cons,
    Utf8.encodeChar_ascii (ascii_of_digitIn? h)]
  rfl

/-- What is encoded once more is read as the same bytes. -/
theorem percentDecode_percentEncode (cs : List Char) :
    percentDecode (Utf8.encode (spaced (percentEncode (inQuery special) cs))) =
      percentDecode (Utf8.encode (spaced cs)) := by
  -- a percent sign looks at the two characters behind it, so the induction is on the length
  induction hlength : cs.length using Nat.strongRecOn generalizing cs with
  | ind length ih =>
    subst hlength
    have ihOf (ds : List Char) (h : ds.length < cs.length) := ih ds.length h ds rfl
    cases cs with
    | nil => rfl
    | cons c rest =>
      have hrest := ihOf rest (by simp)
      cases hkept : inQuery special c with
      | false =>
        have hplus : c ≠ '+' := by
          rintro rfl
          cases special <;> exact absurd hkept (by decide)
        have hpercent : c ≠ '%' := by
          rintro rfl
          cases special <;> exact absurd hkept (by decide)
        have hspaced : spaced (c :: rest) = c :: spaced rest := by simp [spaced, hplus]
        rw [percentEncode_cons_escaped hkept, spaced_append, Utf8.encode_append,
          (spellsBytes_escapeBytes _).decode, hrest, hspaced, Utf8.encode_cons,
          percentDecode_noPercent (percent_not_mem_encodeChar hpercent)]
      | true =>
        rw [percentEncode_cons_kept hkept]
        by_cases hpercent : c = '%'
        · subst hpercent
          have hbytes (ds : List Char) :
              Utf8.encode (spaced ('%' :: ds)) = 37 :: Utf8.encode (spaced ds) := rfl
          rw [hbytes, hbytes]
          rcases noDigit_or_digit rest with hnone | ⟨high, m, behind, rfl, hhigh⟩
          · rw [percentDecode_noDigit hnone.percentEncode.bytes, percentDecode_noDigit hnone.bytes,
              hrest]
          · have hhighKept : inQuery special high = true := inQuery_of_digitIn? hhigh
            rw [percentEncode_cons_kept hhighKept] at hrest ⊢
            rw [spaced_cons_digit hhigh, spaced_cons_digit hhigh] at hrest ⊢
            rcases noDigit_or_digit behind with hnone | ⟨low, n, further, rfl, hlow⟩
            · rw [percentDecode_oneDigit hnone.percentEncode.bytes,
                percentDecode_oneDigit hnone.bytes, hrest]
            · rw [percentEncode_cons_kept (inQuery_of_digitIn? hlow), spaced_cons_digit hlow,
                spaced_cons_digit hlow,
                percentDecode_digits (hexDigit?_of_digitIn? hhigh) (hexDigit?_of_digitIn? hlow),
                percentDecode_digits (hexDigit?_of_digitIn? hhigh) (hexDigit?_of_digitIn? hlow),
                ihOf further (by simp only [List.length_cons]; omega)]
        · obtain ⟨d, hd, hspaced⟩ : ∃ d, d ≠ '%' ∧ ∀ ds, spaced (c :: ds) = d :: spaced ds := by
            by_cases hplus : c = '+'
            · exact ⟨' ', by decide, fun ds => by simp [spaced, hplus]⟩
            · exact ⟨c, hpercent, fun ds => by simp [spaced, hplus]⟩
          rw [hspaced, hspaced, Utf8.encode_cons, Utf8.encode_cons,
            percentDecode_noPercent (percent_not_mem_encodeChar hd),
            percentDecode_noPercent (percent_not_mem_encodeChar hd), hrest]

theorem readParameter_percentEncode (cs : List Char) :
    readParameter (percentEncode (inQuery special) cs) = readParameter cs := by
  change String.ofList (Utf8.decodeLossy
    (percentDecode (Utf8.encode (spaced (percentEncode (inQuery special) cs))))) = _
  rw [percentDecode_percentEncode]
  rfl

/-! ## Pairs -/

/-- A separator that was not there does not come in. -/
theorem separator_not_mem_percentEncode {sep : Char} (hsep : inPiece sep = false) (h : sep ∉ cs) :
    sep ∉ percentEncode (inQuery special) cs := by
  intro hmem
  obtain ⟨c, hc, hescape⟩ := List.mem_flatMap.mp hmem
  unfold escapeChar at hescape
  split at hescape
  · rw [List.mem_singleton] at hescape
    exact h (hescape ▸ hc)
  · rw [(spellsBytes_escapeBytes _).inPiece sep hescape] at hsep
    cases hsep

/-- A separator stays where it is. -/
theorem percentEncode_separator {sep : Char} (hsep : sep = '&' ∨ sep = '=') (cs ds : List Char) :
    percentEncode (inQuery special) (cs ++ sep :: ds) =
      percentEncode (inQuery special) cs ++ sep :: percentEncode (inQuery special) ds := by
  have hkept : inQuery special sep = true := by
    rcases hsep with rfl | rfl <;> cases special <;> decide
  rw [percentEncode_append, percentEncode_cons_kept hkept]

theorem readPair_of_not_mem {piece : List Char} (h : '=' ∉ piece) :
    readPair piece = (readParameter piece, readParameter []) := by
  rw [readPair, takeWhile_ne_eq_self h, dropWhile_ne_eq_nil h, List.drop_nil]

theorem readPair_append {key : List Char} (h : '=' ∉ key) (value : List Char) :
    readPair (key ++ '=' :: value) = (readParameter key, readParameter value) := by
  rw [readPair, takeWhile_ne_of_not_mem h, dropWhile_ne_of_not_mem h, List.drop_one,
    List.tail_cons]

theorem readPair_percentEncode (piece : List Char) :
    readPair (percentEncode (inQuery special) piece) = readPair piece := by
  by_cases hequals : '=' ∈ piece
  · obtain ⟨key, value, rfl, hkey⟩ := List.eq_append_cons_of_mem hequals
    rw [percentEncode_separator (.inr rfl), readPair_append hkey,
      readPair_append (separator_not_mem_percentEncode (by decide) hkey),
      readParameter_percentEncode, readParameter_percentEncode]
  · rw [readPair_of_not_mem hequals,
      readPair_of_not_mem (separator_not_mem_percentEncode (by decide) hequals),
      readParameter_percentEncode]

theorem percentEncode_eq_nil_iff : percentEncode (inQuery special) cs = [] ↔ cs = [] := by
  cases cs with
  | nil => exact iff_of_true rfl rfl
  | cons c rest =>
    cases hkept : inQuery special c with
    | true => simp [percentEncode_cons_kept hkept]
    | false =>
      obtain ⟨escape, hescape⟩ := exists_escape c
      simp [percentEncode_cons_escaped hkept, hescape]

theorem pairsOf_of_not_mem {piece : List Char} (h : '&' ∉ piece) :
    pairsOf piece = if piece = [] then [] else [readPair piece] := by
  rw [pairsOf, splitOn_of_not_mem h]
  by_cases hempty : piece = [] <;> simp [hempty]

/-- A query that is encoded once more has the same pairs. -/
theorem pairsOf_percentEncode (special : Bool) (query : List Char) :
    pairsOf (percentEncode (inQuery special) query) = pairsOf query := by
  -- one piece after another, so the induction is on the length of what is left
  induction hlength : query.length using Nat.strongRecOn generalizing query with
  | ind length ih =>
    subst hlength
    by_cases hand : '&' ∈ query
    · obtain ⟨piece, further, rfl, hpiece⟩ := List.eq_append_cons_of_mem hand
      have hfirst := ih piece.length (by simp) piece rfl
      have hfurther := ih further.length (by simp; omega) further rfl
      rw [percentEncode_separator (.inl rfl), pairsOf_append, pairsOf_append, hfirst, hfurther]
    · rw [pairsOf_of_not_mem hand,
        pairsOf_of_not_mem (separator_not_mem_percentEncode (by decide) hand),
        readPair_percentEncode]
      simp only [percentEncode_eq_nil_iff]

end CodeFlow.Url
