import CodeFlow.Proofs.Text.Ascii
import CodeFlow.Proofs.Text.Pieces
import CodeFlow.Proofs.Text.Utf8
import CodeFlow.Url.Basic
import Mathlib.Data.List.Forall2

/-!
# Spellings of parameters

A character of a key or a value can be written in several ways: most signs may stand for
themselves, a space may be a plus sign, and every character may be its bytes behind percent signs,
with digits in letters of either case. Whatever way is taken for each of them, the query is read as
the pairs that it spells (`SpellsQuery.pairsOf_eq`).
-/

namespace CodeFlow.Url

open CodeFlow.Text

/-! ## Signs -/

/-- What may stand in a key or a value as it is or in an escape: visible, and no separator. -/
def inPiece (c : Char) : Bool :=
  isVisible c && !(c == ' ' || c == '#' || c == '&' || c == '=')

/-- What may stand for itself in a key or a value. -/
def isPlain (c : Char) : Bool :=
  inPiece c && !(c == '%' || c == '+')

theorem ascii_of_isVisible {c : Char} (h : isVisible c = true) : c.toNat < 128 := by
  simp only [isVisible, Bool.and_eq_true, decide_eq_true_eq] at h
  omega

theorem isVisible_of_inPiece {c : Char} (h : inPiece c = true) : isVisible c = true := by
  rw [inPiece, Bool.and_eq_true] at h
  exact h.1

theorem inPiece_of_isPlain {c : Char} (h : isPlain c = true) : inPiece c = true := by
  rw [isPlain, Bool.and_eq_true] at h
  exact h.1

theorem isPlain_of_digitIn? {n : Nat} {c : Char} (h : digitIn? 16 c = some n) :
    isPlain c = true := by
  have htable : (digitIn? 16 c).isSome = true → isPlain c = true :=
    ascii_of_forall (p := fun c => (digitIn? 16 c).isSome = true → isPlain c = true) (by decide)
      (ascii_of_digitIn? h)
  exact htable (by rw [h]; rfl)

theorem hexDigit?_of_digitIn? {n : Nat} {c : Char} (h : digitIn? 16 c = some n) :
    hexDigit? (UInt8.ofNat c.toNat) = some n := by
  rw [← h]
  exact ascii_of_forall (p := fun c => hexDigit? (UInt8.ofNat c.toNat) = digitIn? 16 c) (by decide)
    (ascii_of_digitIn? h)

/-! ## Bytes behind percent signs -/

/-- Bytes, each behind a percent sign. -/
inductive SpellsBytes : List UInt8 → List Char → Prop where
  | nil : SpellsBytes [] []
  | cons {b : UInt8} {bs : List UInt8} {high low : Char} {cs : List Char} :
      digitIn? 16 high = some (b.toNat / 16) → digitIn? 16 low = some (b.toNat % 16) →
      SpellsBytes bs cs → SpellsBytes (b :: bs) ('%' :: high :: low :: cs)

/-- A plus sign stands for a space. -/
def spaced (cs : List Char) : List Char :=
  cs.map fun c => if c = '+' then ' ' else c

theorem spaced_append (cs ds : List Char) : spaced (cs ++ ds) = spaced cs ++ spaced ds :=
  List.map_append

theorem spaced_cons_of_isPlain {c : Char} (h : isPlain c = true) (cs : List Char) :
    spaced (c :: cs) = c :: spaced cs := by
  have hplus : c ≠ '+' := by
    rintro rfl
    exact absurd h (by decide)
  rw [spaced, List.map_cons, if_neg hplus]
  rfl

theorem percentDecode_other {b : UInt8} (h : b ≠ 37) (rest : List UInt8) :
    percentDecode (b :: rest) = b :: percentDecode rest := by
  rw [percentDecode]
  intro a c rest' hb
  exact absurd hb h

/-- Two digits behind a percent sign are read as their byte. -/
theorem percentDecode_digits {a b : UInt8} {high low : Nat} (hhigh : hexDigit? a = some high)
    (hlow : hexDigit? b = some low) (rest : List UInt8) :
    percentDecode (37 :: a :: b :: rest) = UInt8.ofNat (high * 16 + low) :: percentDecode rest := by
  simp only [percentDecode, hhigh, hlow]

theorem SpellsBytes.decode {bs : List UInt8} {cs : List Char} (h : SpellsBytes bs cs)
    (rest : List UInt8) :
    percentDecode (Utf8.encode (spaced cs) ++ rest) = bs ++ percentDecode rest := by
  induction h with
  | nil => rfl
  | @cons b bs high low cs hhigh hlow _ ih =>
    have hsum : b.toNat / 16 * 16 + b.toNat % 16 = b.toNat := by omega
    have hspaced : spaced ('%' :: high :: low :: cs) = '%' :: high :: low :: spaced cs := by
      rw [← spaced_cons_of_isPlain (isPlain_of_digitIn? hlow),
        ← spaced_cons_of_isPlain (isPlain_of_digitIn? hhigh)]
      rfl
    have hpercent : String.utf8EncodeChar '%' = [37] := by decide
    rw [hspaced]
    simp only [Utf8.encode_cons, hpercent, Utf8.encodeChar_ascii (ascii_of_digitIn? hhigh),
      Utf8.encodeChar_ascii (ascii_of_digitIn? hlow), List.cons_append, List.nil_append]
    rw [percentDecode_digits (hexDigit?_of_digitIn? hhigh) (hexDigit?_of_digitIn? hlow), hsum,
      UInt8.ofNat_toNat, ih]

theorem SpellsBytes.inPiece {bs : List UInt8} {cs : List Char} (h : SpellsBytes bs cs) :
    ∀ c ∈ cs, inPiece c = true := by
  induction h with
  | nil => exact fun c hc => absurd hc List.not_mem_nil
  | cons hhigh hlow _ ih =>
    intro c hc
    simp only [List.mem_cons] at hc
    rcases hc with rfl | rfl | rfl | hc
    · decide
    · exact inPiece_of_isPlain (isPlain_of_digitIn? hhigh)
    · exact inPiece_of_isPlain (isPlain_of_digitIn? hlow)
    · exact ih c hc

/-! ## Keys and values -/

/-- The ways to write a character. -/
inductive SpellsChar : Char → List Char → Prop where
  | plain {c : Char} : isPlain c = true → SpellsChar c [c]
  | space : SpellsChar ' ' ['+']
  | escaped {c : Char} {cs : List Char} :
      SpellsBytes (String.utf8EncodeChar c) cs → SpellsChar c cs

/-- The ways to write a key or a value. -/
inductive Spells : List Char → List Char → Prop where
  | nil : Spells [] []
  | cons {c : Char} {cs front rest : List Char} :
      SpellsChar c front → Spells cs rest → Spells (c :: cs) (front ++ rest)

/-- A character is read as it was written. -/
theorem SpellsChar.decode {c : Char} {cs : List Char} (h : SpellsChar c cs) (rest : List UInt8) :
    percentDecode (Utf8.encode (spaced cs) ++ rest) =
      String.utf8EncodeChar c ++ percentDecode rest := by
  cases h with
  | plain hplain =>
    have hascii := ascii_of_isVisible (isVisible_of_inPiece (inPiece_of_isPlain hplain))
    have hbyte : UInt8.ofNat c.toNat ≠ 37 := by
      intro hb
      have hnat : (UInt8.ofNat c.toNat).toNat = 37 := congrArg UInt8.toNat hb
      rw [Utf8.toNat_ofNat_byte (by omega)] at hnat
      obtain rfl : c = '%' := Char.toNat_inj.mp hnat
      exact absurd hplain (by decide)
    rw [spaced_cons_of_isPlain hplain]
    simp only [spaced, List.map_nil, Utf8.encode_cons, Utf8.encode_nil, List.append_nil,
      Utf8.encodeChar_ascii hascii, List.singleton_append]
    exact percentDecode_other hbyte rest
  | space => exact percentDecode_other (by decide) rest
  | escaped hbytes => exact hbytes.decode rest

theorem SpellsChar.inPiece {c : Char} {cs : List Char} (h : SpellsChar c cs) :
    ∀ d ∈ cs, inPiece d = true := by
  cases h with
  | plain hplain =>
    intro d hd
    rw [List.mem_singleton.mp hd]
    exact inPiece_of_isPlain hplain
  | space =>
    intro d hd
    rw [List.mem_singleton.mp hd]
    decide
  | escaped hbytes => exact hbytes.inPiece

theorem Spells.decode {cs written : List Char} (h : Spells cs written) :
    percentDecode (Utf8.encode (spaced written)) = Utf8.encode cs := by
  induction h with
  | nil => rfl
  | cons hchar _ ih =>
    rw [spaced_append, Utf8.encode_append, hchar.decode, ih, Utf8.encode_cons]

/-- A key or a value is read as it was written. -/
theorem Spells.read {cs written : List Char} (h : Spells cs written) :
    readParameter written = String.ofList cs := by
  change String.ofList (Utf8.decodeLossy
    (percentDecode (Utf8.encode (spaced written)))) = _
  rw [h.decode, Utf8.decodeLossy_encode]

theorem Spells.inPiece {cs written : List Char} (h : Spells cs written) :
    ∀ c ∈ written, inPiece c = true := by
  induction h with
  | nil => exact fun c hc => absurd hc List.not_mem_nil
  | cons hchar _ ih =>
    intro c hc
    rcases List.mem_append.mp hc with hc | hc
    · exact hchar.inPiece c hc
    · exact ih c hc

theorem Spells.not_mem {cs written : List Char} (h : Spells cs written) {sign : Char}
    (hsign : Url.inPiece sign = false) : sign ∉ written := by
  intro hmem
  rw [h.inPiece sign hmem] at hsign
  cases hsign

/-! ## Pairs and queries -/

/-- The ways to write a pair. -/
inductive SpellsPair : String × String → List Char → Prop where
  | mk {key value : String} {k v : List Char} :
      Spells key.toList k → Spells value.toList v → SpellsPair (key, value) (k ++ '=' :: v)

/-- The ways to write pairs as a query. -/
def SpellsQuery (ps : List (String × String)) (query : List Char) : Prop :=
  ∃ pieces, List.Forall₂ SpellsPair ps pieces ∧ query = List.intercalate ['&'] pieces

theorem SpellsPair.read {p : String × String} {piece : List Char} (h : SpellsPair p piece) :
    readPair piece = p := by
  obtain @⟨key, value, k, v, hkey, hvalue⟩ := h
  have hequals : '=' ∉ k := hkey.not_mem (by decide)
  rw [readPair, takeWhile_ne_of_not_mem hequals, dropWhile_ne_of_not_mem hequals, List.drop_one,
    List.tail_cons, hkey.read, hvalue.read, String.ofList_toList, String.ofList_toList]

theorem SpellsPair.ne_nil {p : String × String} {piece : List Char} (h : SpellsPair p piece) :
    piece ≠ [] := by
  obtain ⟨-, -⟩ := h
  exact List.append_ne_nil_of_right_ne_nil _ (List.cons_ne_nil _ _)

theorem SpellsPair.inPiece_or {p : String × String} {piece : List Char} (h : SpellsPair p piece) :
    ∀ c ∈ piece, inPiece c = true ∨ c = '=' := by
  obtain ⟨hkey, hvalue⟩ := h
  intro c hc
  rw [List.mem_append, List.mem_cons] at hc
  rcases hc with hc | hc | hc
  · exact .inl (hkey.inPiece c hc)
  · exact .inr hc
  · exact .inl (hvalue.inPiece c hc)

theorem SpellsPair.separator_not_mem {p : String × String} {piece : List Char}
    (h : SpellsPair p piece) : '&' ∉ piece := by
  intro hmem
  rcases h.inPiece_or '&' hmem with hc | hc <;> exact absurd hc (by decide)

theorem pairsOf_of_spellsPair {p : String × String} {piece : List Char} (h : SpellsPair p piece) :
    pairsOf piece = [p] := by
  rw [pairsOf, splitOn_of_not_mem h.separator_not_mem,
    List.filter_cons_of_pos (by simpa using h.ne_nil)]
  simp only [List.filter_nil, List.map_cons, List.map_nil, h.read]

theorem pairsOf_append (query further : List Char) :
    pairsOf (query ++ '&' :: further) = pairsOf query ++ pairsOf further := by
  simp only [pairsOf, splitOn_append, List.filter_append, List.map_append]

/-- A query is read as the pairs that it spells. -/
theorem SpellsQuery.pairsOf_eq {ps : List (String × String)} {query : List Char}
    (h : SpellsQuery ps query) : pairsOf query = ps := by
  obtain ⟨pieces, hpieces, rfl⟩ := h
  induction hpieces with
  | nil => rfl
  | @cons p piece ps pieces hpiece hrest ih =>
    cases hrest with
    | nil => simpa [List.intercalate] using pairsOf_of_spellsPair hpiece
    | cons hnext hrest =>
      -- between two pieces stands a separator, so the first pair is read on its own
      rw [List.intercalate_cons_cons, List.append_assoc, List.singleton_append, pairsOf_append,
        pairsOf_of_spellsPair hpiece, ih]
      rfl

theorem SpellsQuery.visible {ps : List (String × String)} {query : List Char}
    (h : SpellsQuery ps query) : ∀ c ∈ query, isVisible c = true ∧ c ≠ ' ' ∧ c ≠ '#' := by
  obtain ⟨pieces, hpieces, rfl⟩ := h
  have hsign (c : Char) (hc : inPiece c = true ∨ c = '=' ∨ c = '&') :
      isVisible c = true ∧ c ≠ ' ' ∧ c ≠ '#' := by
    rcases hc with hc | rfl | rfl
    · refine ⟨isVisible_of_inPiece hc, ?_, ?_⟩ <;> rintro rfl <;> exact absurd hc (by decide)
    · decide
    · decide
  intro c hc
  refine hsign c ?_
  induction hpieces with
  | nil => exact absurd hc List.not_mem_nil
  | @cons p piece ps pieces hpiece hrest ih =>
    cases hrest with
    | nil =>
      have hmem : c ∈ piece := by simpa [List.intercalate] using hc
      exact (hpiece.inPiece_or c hmem).imp id .inl
    | cons hnext hrest =>
      rw [List.intercalate_cons_cons, List.append_assoc, List.singleton_append, List.mem_append,
        List.mem_cons] at hc
      rcases hc with hc | hc | hc
      · exact (hpiece.inPiece_or c hc).imp id .inl
      · exact .inr (.inr hc)
      · exact ih hc

end CodeFlow.Url
