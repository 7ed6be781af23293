import CodeFlow.Proofs.Json.Grammar
import CodeFlow.Proofs.Text.Ascii

/-!
# Values that are passed over

Every grammatical value is passed over, up to what follows it: no string, no number and no depth is
too much. The reader works in rounds, of which each takes one value and then all that ends or
separates up to the next one. So a value takes as many rounds as there are values within it, and
leaves the frames around it as they were.
-/

namespace CodeFlow.Json

open CodeFlow.Text

variable {rest : List UInt8}

/-! ## Strings -/

theorem hexValue?_of_digitIn? {c : Char} {n : Nat} (h : digitIn? 16 c = some n) :
    hexValue? (UInt8.ofNat c.toNat) = some n := by
  rw [← h]
  exact ascii_of_forall (p := fun c => hexValue? (UInt8.ofNat c.toNat) = digitIn? 16 c) (by decide)
    (ascii_of_digitIn? h)

theorem numberFrom?_cons_eq_some_iff {base n m : Nat} {c : Char} {cs : List Char} :
    numberFrom? base n (c :: cs) = some m ↔
      ∃ d, digitIn? base c = some d ∧ numberFrom? base (n * base + d) cs = some m := by
  rw [numberFrom?]
  cases digitIn? base c <;> simp

/-- Four digits are read as the number that they write. -/
theorem Hex.readHex {ds : List Char} {n : Nat} (h : Hex ds n) (rest : List UInt8) :
    readHex (Utf8.encode ds ++ rest) = .ok (n, rest) := by
  obtain ⟨hfour, hnumber⟩ := h
  match ds, hfour with
  | [a, b, c, d], _ =>
    simp only [numberIn?, numberFrom?_cons_eq_some_iff] at hnumber
    obtain ⟨va, ha, vb, hb, vc, hc, vd, hd, hvalue⟩ := hnumber
    have hn : va * 4096 + vb * 256 + vc * 16 + vd = n := by
      have := Option.some.inj hvalue
      omega
    simp only [Utf8.encode_cons_ascii (ascii_of_digitIn? ha),
      Utf8.encode_cons_ascii (ascii_of_digitIn? hb), Utf8.encode_cons_ascii (ascii_of_digitIn? hc),
      Utf8.encode_cons_ascii (ascii_of_digitIn? hd),
      Utf8.encode_nil, List.cons_append, List.nil_append, Json.readHex, hexValue?_of_digitIn? ha,
      hexValue?_of_digitIn? hb, hexValue?_of_digitIn? hc, hexValue?_of_digitIn? hd, hn]

/-- An escape by a letter is an escape by its byte. -/
theorem escaped?_of_letter? {c d : Char} (h : letter? c = some d) :
    c ≠ 'u' ∧ c.toNat < 0x80 ∧ d.toNat < 0x80 ∧
      escaped? (UInt8.ofNat c.toNat) = some (UInt8.ofNat d.toNat) := by
  unfold letter? at h
  split at h <;> cases h <;> decide

theorem ofNat_toNat_ne {c d : Char} (hc : c.toNat < 0x80) (hd : d.toNat < 0x80) (h : c ≠ d) :
    UInt8.ofNat c.toNat ≠ UInt8.ofNat d.toNat := by
  intro heq
  have hvalue := congrArg UInt8.toNat heq
  rw [Utf8.toNat_ofNat_byte (by omega), Utf8.toNat_ofNat_byte (by omega)] at hvalue
  exact h (Char.toNat_inj.mp hvalue)

theorem encode_letter {c d : Char} (h : letter? c = some d) (raw : List Char) :
    Utf8.encode ('\\' :: c :: raw) = 92 :: UInt8.ofNat c.toNat :: Utf8.encode raw := by
  rw [Utf8.encode_cons_ascii (by decide), Utf8.encode_cons_ascii (escaped?_of_letter? h).2.1]
  rfl

theorem encode_number (ds raw : List Char) :
    Utf8.encode ('\\' :: 'u' :: (ds ++ raw)) =
      92 :: 117 :: (Utf8.encode ds ++ Utf8.encode raw) := by
  rw [Utf8.encode_cons_ascii (by decide), Utf8.encode_cons_ascii (by decide), Utf8.encode_append]
  rfl

theorem skipString_escape {bs bs' : List UInt8} (h : skipEscape bs = .ok bs') :
    skipString (92 :: bs) = skipString bs' := by
  rw [skipString, if_neg (by decide), if_pos rfl]
  split
  · rename_i h'
    rw [h] at h'
    cases h'
  · rename_i h'
    rw [h] at h'
    cases h'
    rfl

theorem skipString_plains {bs : List UInt8} (h : ∀ b ∈ bs, b ≠ 34 ∧ b ≠ 92 ∧ ¬ b < 32)
    (rest : List UInt8) : skipString (bs ++ rest) = skipString rest := by
  induction bs with
  | nil => rfl
  | cons b bs ih =>
    obtain ⟨hquote, hescape, hcontrol⟩ := h b List.mem_cons_self
    rw [List.cons_append, skipString, if_neg hquote, if_neg hescape, if_neg hcontrol]
    exact ih fun b hb => h b (List.mem_cons_of_mem _ hb)

theorem IsPlain.bytes {c : Char} (h : IsPlain c) :
    ∀ b ∈ String.utf8EncodeChar c, b ≠ 34 ∧ b ≠ 92 ∧ ¬ b < 32 :=
  plain_of_mem_encodeChar h.notQuote h.notBackslash h.notControl

/-- A string is passed over, whether or not it stands for a text. -/
theorem Quoted.skipString {raw : List Char} (h : Quoted raw) (rest : List UInt8) :
    skipString (Utf8.encode raw ++ 34 :: rest) = .ok rest := by
  induction h with
  | nil => rw [Utf8.encode_nil, List.nil_append, Json.skipString, if_pos rfl]
  | plain hc _ ih =>
    rw [Utf8.encode_cons, List.append_assoc, skipString_plains hc.bytes, ih]
  | @letter c d raw hc _ ih =>
    obtain ⟨hu, hascii, -, hescaped⟩ := escaped?_of_letter? hc
    have hu : UInt8.ofNat c.toNat ≠ 117 := ofNat_toNat_ne hascii (by decide : 'u'.toNat < _) hu
    have hskip : skipEscape (UInt8.ofNat c.toNat :: (Utf8.encode raw ++ 34 :: rest)) =
        .ok (Utf8.encode raw ++ 34 :: rest) := by
      rw [skipEscape, if_neg hu, hescaped]
      rfl
    rw [encode_letter hc, List.cons_append, List.cons_append, skipString_escape hskip, ih]
  | @number ds n raw hds _ ih =>
    have hskip : skipEscape (117 :: (Utf8.encode ds ++ (Utf8.encode raw ++ 34 :: rest))) =
        .ok (Utf8.encode raw ++ 34 :: rest) := by
      rw [skipEscape, if_pos rfl, hds.readHex]
    rw [encode_number, List.cons_append, List.cons_append, List.append_assoc,
      skipString_escape hskip, ih]

/-! ## Numbers -/

/-- No digit comes next. -/
def NoDigit (rest : List UInt8) : Prop := ∀ b ∈ rest.head?, digit? b = none

theorem Follows.noDigit (h : Follows rest) : NoDigit rest :=
  fun _ hb => (h.not_mem hb).1

theorem NoDigit.dropWhile (h : NoDigit rest) : rest.dropWhile isDigit = rest := by
  cases rest with
  | nil => rfl
  | cons b rest =>
    have hb : isDigit b = false := by
      rw [isDigit, h b rfl]
      rfl
    rw [List.dropWhile_cons_of_neg (by simp [hb])]

/-- Digits are passed over up to the next byte that is none. -/
theorem dropWhile_digits {ds : List Char} (hds : ∀ d ∈ ds, d.isDigit = true) (h : NoDigit rest) :
    (Utf8.encode ds ++ rest).dropWhile isDigit = rest := by
  induction ds with
  | nil => exact h.dropWhile
  | cons d ds ih =>
    have hdigit := hds d List.mem_cons_self
    have hbyte : isDigit (UInt8.ofNat d.toNat) = true := by
      rw [isDigit, digit?_ofNat hdigit]
      rfl
    rw [encode_digit hdigit, List.dropWhile_cons_of_pos hbyte]
    exact ih fun d hd => hds d (List.mem_cons_of_mem _ hd)

/-- The first of some digits, and what is left when all of them are passed over. -/
theorem AreDigits.exists_bytes {ds : List Char} (h : AreDigits ds) (hrest : NoDigit rest) :
    ∃ b bs, Utf8.encode ds ++ rest = b :: bs ∧ isDigit b = true ∧ bs.dropWhile isDigit = rest := by
  obtain ⟨hsome, hdigits⟩ := h
  obtain ⟨d, ds, rfl⟩ := List.exists_cons_of_ne_nil hsome
  have hdigit := hdigits d List.mem_cons_self
  refine ⟨_, _, encode_digit hdigit ds rest, ?_, ?_⟩
  · rw [isDigit, digit?_ofNat hdigit]
    rfl
  · exact dropWhile_digits (fun d hd => hdigits d (List.mem_cons_of_mem _ hd)) hrest

theorem Exponent.noDigit {cs : List Char} (h : Exponent cs) (hrest : Follows rest) :
    NoDigit (Utf8.encode cs ++ rest) := by
  cases h with
  | none => exact hrest.noDigit
  | digits he =>
    rcases he with rfl | rfl
    all_goals
      rintro _ ⟨⟩
      decide

theorem Places.noDigit {cs : List Char} (h : Places cs) (hrest : NoDigit rest) :
    NoDigit (Utf8.encode cs ++ rest) := by
  cases h with
  | none => exact hrest
  | digits =>
    rintro _ ⟨⟩
    decide

theorem Exponent.skipScale {cs : List Char} (h : Exponent cs) (hrest : Follows rest) :
    skipScale (Utf8.encode cs ++ rest) = .ok rest := by
  cases h with
  | none =>
    cases rest with
    | nil => rfl
    | cons b rest =>
      obtain ⟨-, -, hsmall, hcapital⟩ := hrest.not_mem rfl
      rw [Utf8.encode_nil, List.nil_append, Json.skipScale, if_neg (by simp [hsmall, hcapital])]
  | @digits e sign ds he hsign hds =>
    obtain ⟨b, bs, hbytes, hdigit, hdrop⟩ := hds.exists_bytes hrest.noDigit
    have hletter : ∃ l : UInt8, (l = 101 ∨ l = 69) ∧
        Utf8.encode (e :: (sign ++ ds)) ++ rest = l :: (Utf8.encode sign ++ (b :: bs)) := by
      rcases he with rfl | rfl
      · exact ⟨101, .inl rfl, by rw [Utf8.encode_cons_ascii (by decide)]; simp [hbytes]⟩
      · exact ⟨69, .inr rfl, by rw [Utf8.encode_cons_ascii (by decide)]; simp [hbytes]⟩
    obtain ⟨l, hl, hall⟩ := hletter
    have hplus : b ≠ 43 := ne_of_isDigit hdigit (by decide)
    have hminus : b ≠ 45 := ne_of_isDigit hdigit (by decide)
    rw [hall, Json.skipScale, if_pos hl]
    rcases hsign with rfl | rfl | rfl
    · simp [skipExponent, hplus, hminus, hdigit, hdrop]
    · change skipExponent (43 :: b :: bs) = _
      simp [skipExponent, hdigit, hdrop]
    · change skipExponent (45 :: b :: bs) = _
      simp [skipExponent, hdigit, hdrop]

theorem Places.skipFraction {cs exponent : List Char} (h : Places cs)
    (hexponent : Exponent exponent) (hrest : Follows rest) :
    skipFraction (Utf8.encode cs ++ (Utf8.encode exponent ++ rest)) = .ok rest := by
  have hnodigit := hexponent.noDigit hrest
  cases h with
  | none =>
    have hpoint : ∀ b ∈ (Utf8.encode exponent ++ rest).head?, b ≠ 46 := by
      cases hexponent with
      | none => exact fun b hb => (hrest.not_mem hb).2.1
      | digits he =>
        rcases he with rfl | rfl
        all_goals
          rintro _ ⟨⟩
          decide
    rw [Utf8.encode_nil, List.nil_append, Json.skipFraction]
    · exact hexponent.skipScale hrest
    · intro bs hbs
      exact hpoint 46 (by rw [hbs]; rfl) rfl
  | digits hds =>
    obtain ⟨b, bs, hbytes, hdigit, hdrop⟩ := hds.exists_bytes hnodigit
    rw [Utf8.encode_cons_ascii (by decide), List.cons_append, hbytes]
    change (if isDigit b then skipScale (bs.dropWhile isDigit) else _) = _
    rw [if_pos hdigit, hdrop, hexponent.skipScale hrest]

/-- A number is passed over once its sign has been taken. -/
theorem Unsigned.skipNumber {cs : List Char} (h : Unsigned cs) (hrest : Follows rest) :
    skipNumber (Utf8.encode cs ++ rest) = .ok rest := by
  obtain ⟨hwhole, hplaces, hexponent⟩ := h
  have hfraction := hplaces.skipFraction hexponent hrest
  have hnodigit := hplaces.noDigit (hexponent.noDigit hrest)
  rw [Utf8.encode_append, Utf8.encode_append, List.append_assoc, List.append_assoc]
  generalize Utf8.encode _ ++ (Utf8.encode _ ++ rest) = further at hfraction hnodigit
  cases hwhole with
  | zero =>
    have hnone : further.head?.bind digit? = none := by
      cases further with
      | nil => rfl
      | cons b further => exact hnodigit b rfl
    have hzero : digit? 48 = some 0 := by decide
    change Json.skipNumber (48 :: further) = _
    simp only [Json.skipNumber, hzero, hnone, hfraction]
  | @digits d ds hds hd =>
    have hdigit := hds.digits d List.mem_cons_self
    have hvalue : ∃ v, d.toNat - 48 = v + 1 := by
      have hrange := digit_range hdigit
      have hne : d.toNat ≠ 48 := fun h => hd (Char.toNat_inj.mp h)
      exact Nat.exists_eq_succ_of_ne_zero (by omega)
    obtain ⟨v, hv⟩ := hvalue
    have hdrop := dropWhile_digits (fun d hd => hds.digits d (List.mem_cons_of_mem _ hd)) hnodigit
    rw [encode_digit hdigit]
    simp only [Json.skipNumber, digit?_ofNat hdigit, hv, hdrop, hfraction]

/-! ## Rounds -/

/-- A value is passed over in some rounds, no more than it has characters, up to what ends or
separates it. -/
def Skips (value : List Char) : Prop :=
  ∃ n ≤ value.length, ∀ (fuel : Nat) (frames : List Frame) {rest : List UInt8}, Follows rest →
    skipWithin (fuel + n) frames (Utf8.encode value ++ rest) = skipWithin.further fuel frames rest

/-- What is left of a list or an object behind a value is passed over, with its end. -/
def Closes (frame : Frame) (cs : List Char) : Prop :=
  ∃ n ≤ cs.length, ∀ (fuel : Nat) (frames : List Frame) (rest : List UInt8),
    skipWithin.further (fuel + n) (frame :: frames) (Utf8.encode cs ++ rest) =
      skipWithin.further fuel frames rest

theorem skipWithin_blank {ws : List UInt8} (h : Blank ws) (fuel : Nat) (frames : List Frame)
    (bs : List UInt8) : skipWithin fuel frames (ws ++ bs) = skipWithin fuel frames bs := by
  cases fuel with
  | zero => rw [skipWithin, skipWithin]
  | succ fuel => rw [skipWithin, skipWithin, h.skipSpace]

theorem skipSpace_cons {b : UInt8} (h : ¬ isSpace b = true) (bs : List UInt8) :
    skipSpace (b :: bs) = b :: bs :=
  List.dropWhile_cons_of_neg h

/-- A scalar takes one round. -/
theorem skips_of_skipScalar {value : List Char} {b : UInt8} {bs : List UInt8}
    (hvalue : Utf8.encode value = b :: bs) (hne : value ≠ []) (hspace : ¬ isSpace b = true)
    (hopening : opening? b = none)
    (h : ∀ rest, Follows rest → skipScalar b (bs ++ rest) = .ok rest) : Skips value := by
  refine ⟨1, List.length_pos_iff.mpr hne, fun fuel frames rest hrest => ?_⟩
  rw [hvalue, List.cons_append, skipWithin, skipSpace_cons hspace]
  simp only [hopening, h rest hrest]

theorem Unsigned.head_byte {cs : List Char} (h : Unsigned cs) :
    ∃ b bs, Utf8.encode cs = b :: bs ∧ isDigit b = true := by
  obtain ⟨hwhole, -, -⟩ := h
  cases hwhole with
  | zero => exact ⟨48, _, rfl, by decide⟩
  | @digits d ds hds =>
    have hdigit := hds.digits d List.mem_cons_self
    refine ⟨_, _, Utf8.encode_cons_ascii (by have := digit_range hdigit; omega) _, ?_⟩
    rw [isDigit, digit?_ofNat hdigit]
    rfl

theorem Unsigned.skips {cs : List Char} (h : Unsigned cs) : Skips cs := by
  have hskip (rest : List UInt8) (hrest : Follows rest) := h.skipNumber hrest
  obtain ⟨b, bs, hbytes, hdigit⟩ := h.head_byte
  have hne {d : UInt8} (hd : d.toNat < 48 ∨ 57 < d.toNat) : b ≠ d := ne_of_isDigit hdigit hd
  refine skips_of_skipScalar hbytes (by rintro rfl; cases hbytes)
    (not_isSpace_of_isDigit hdigit) ?_ ?_
  · rw [opening?, if_neg (hne (by decide)), if_neg (hne (by decide))]
  · intro rest hrest
    rw [skipScalar, if_neg (hne (by decide)), if_neg (hne (by decide)), if_neg (hne (by decide)),
      if_neg (hne (by decide)), if_pos hdigit, ← List.cons_append, ← hbytes]
    exact hskip rest hrest

theorem Unsigned.skips_negative {cs : List Char} (h : Unsigned cs) : Skips ('-' :: cs) := by
  refine skips_of_skipScalar (Utf8.encode_cons_ascii (by decide) cs) (List.cons_ne_nil _ _)
    (by decide) (by decide) fun rest hrest => ?_
  change Json.skipNumber _ = _
  exact h.skipNumber hrest

theorem Quoted.skips {raw : List Char} (h : Quoted raw) : Skips ('"' :: (raw ++ ['"'])) := by
  refine skips_of_skipScalar (Utf8.encode_cons_ascii (by decide) _) (List.cons_ne_nil _ _)
    (by decide) (by decide) fun rest _ => ?_
  rw [Utf8.encode_append, List.append_assoc]
  exact h.skipString rest

/-- Behind an end, the next frame around it is looked at. -/
theorem further_end {ws : List UInt8} (h : Blank ws) (frame : Frame) (fuel : Nat)
    (frames : List Frame) (rest : List UInt8) :
    skipWithin.further fuel (frame :: frames) (ws ++ frame.end :: rest) =
      skipWithin.further fuel frames rest := by
  have hspace : ¬ isSpace frame.end = true := by cases frame <;> decide
  have hcomma : frame.end ≠ 44 := by cases frame <;> decide
  rw [skipWithin.further, skipWithin.further, closeFrames, h.skipSpace, skipSpace_cons hspace]
  simp only [hcomma, if_false, if_true]

/-- Behind a comma comes another value of the same frame. -/
theorem further_comma {ws bs bs' : List UInt8} {frame : Frame} (h : Blank ws)
    (hkey : skipKey frame bs = .ok bs') (fuel : Nat) (frames : List Frame) :
    skipWithin.further fuel (frame :: frames) (ws ++ 44 :: bs) =
      skipWithin fuel (frame :: frames) bs' := by
  have hspace : ¬ isSpace 44 = true := by decide
  rw [skipWithin.further, closeFrames, h.skipSpace, skipSpace_cons hspace]
  simp only [if_true, hkey]

/-! ## Lists and objects -/

/-- The sign that opens a list or an object. -/
def Frame.sign : Frame → Char
  | .list => '['
  | .object => '\x7b'

theorem encode_sign (frame : Frame) (cs : List Char) : ∃ b, opening? b = some frame ∧
    ¬ isSpace b = true ∧ Utf8.encode (frame.sign :: cs) = b :: Utf8.encode cs := by
  cases frame with
  | list => exact ⟨91, rfl, by decide, Utf8.encode_cons_ascii (by decide) cs⟩
  | object => exact ⟨123, rfl, by decide, Utf8.encode_cons_ascii (by decide) cs⟩

/-- What stands before a value within a frame: in an object its key. White space may be left. -/
def Fronts (frame : Frame) (front : List Char) : Prop :=
  ∀ bs, ∃ ws, Blank ws ∧ skipKey frame (Utf8.encode front ++ bs) = .ok (ws ++ bs)

theorem Gap.fronts {ws : List Char} (h : Gap ws) : Fronts .list ws :=
  fun _ => ⟨_, h.blank, rfl⟩

theorem Quoted.fronts {ws raw ws' ws'' : List Char} (h : Quoted raw) (hws : Gap ws)
    (hws' : Gap ws') (hws'' : Gap ws'') :
    Fronts .object (ws ++ '"' :: (raw ++ '"' :: (ws' ++ ':' :: ws''))) := by
  intro bs
  have hquote : ¬ isSpace 34 = true := by decide
  have hcolon : ¬ isSpace 58 = true := by decide
  refine ⟨_, hws''.blank, ?_⟩
  rw [Utf8.encode_append, List.append_assoc, Utf8.encode_cons_ascii (by decide), List.cons_append,
    Utf8.encode_append, Utf8.encode_cons_ascii (by decide), Utf8.encode_append,
    Utf8.encode_cons_ascii (by decide)]
  simp only [List.append_assoc, List.cons_append]
  change skipKey .object (_ ++ 34 :: (_ ++ 34 :: (_ ++ 58 :: (_ ++ bs)))) = _
  rw [skipKey, hws.blank.skipSpace, skipSpace_cons hquote]
  simp only [if_true, h.skipString, readColon, hws'.blank.skipSpace, skipSpace_cons hcolon]

section

variable {frame : Frame} {ws front value more : List Char}

/-- The end of a list or an object. -/
theorem closes_nil (h : Gap ws) {sign : Char} (hsign : Utf8.encode [sign] = [frame.end]) :
    Closes frame (ws ++ [sign]) := by
  refine ⟨0, Nat.zero_le _, fun fuel frames rest => ?_⟩
  rw [Utf8.encode_append, hsign, List.append_assoc, List.singleton_append, Nat.add_zero,
    further_end h.blank]

/-- A further value behind a comma. -/
theorem closes_cons (h : Gap ws) (hfront : Fronts frame front) (hvalue : Skips value)
    (hmore : Closes frame more) (hfollows : ∀ rest, Follows (Utf8.encode more ++ rest)) :
    Closes frame (ws ++ ',' :: (front ++ (value ++ more))) := by
  obtain ⟨n, hn, hvalue⟩ := hvalue
  obtain ⟨m, hm, hmore⟩ := hmore
  refine ⟨m + n, by simp only [List.length_append, List.length_cons]; omega,
    fun fuel frames rest => ?_⟩
  obtain ⟨ws', hws', hkey⟩ := hfront (Utf8.encode value ++ (Utf8.encode more ++ rest))
  rw [Utf8.encode_append, Utf8.encode_cons_ascii (by decide), Utf8.encode_append,
    Utf8.encode_append]
  simp only [List.append_assoc, List.cons_append]
  change skipWithin.further _ _ (_ ++ 44 :: _) = _
  rw [further_comma h.blank hkey, skipWithin_blank hws', ← Nat.add_assoc,
    hvalue _ _ (hfollows rest), hmore]

/-- An empty list or object takes one round. -/
theorem skips_nil (frame : Frame) (h : Gap ws) {sign : Char}
    (hsign : Utf8.encode [sign] = [frame.end]) : Skips (frame.sign :: (ws ++ [sign])) := by
  refine ⟨1, by simp, fun fuel frames rest _ => ?_⟩
  obtain ⟨b, hopening, hspace, hencode⟩ := encode_sign frame (ws ++ [sign])
  have hend : ¬ isSpace frame.end = true := by cases frame <;> decide
  rw [hencode, List.cons_append, skipWithin, skipSpace_cons hspace, Utf8.encode_append, hsign,
    List.append_assoc, List.singleton_append]
  simp only [hopening, h.blank.skipSpace, skipSpace_cons hend, if_true]

/-- A list or an object takes one round more than the values in it. -/
theorem skips_cons (frame : Frame) (h : Gap ws) (hfront : Fronts frame front)
    (hvalue : Skips value)
    (hhead : ∃ b bs, Utf8.encode (front ++ value) = b :: bs ∧ ¬ isSpace b = true ∧ b ≠ frame.end)
    (hmore : Closes frame more) (hfollows : ∀ rest, Follows (Utf8.encode more ++ rest)) :
    Skips (frame.sign :: (ws ++ (front ++ (value ++ more)))) := by
  obtain ⟨n, hn, hvalue⟩ := hvalue
  obtain ⟨m, hm, hmore⟩ := hmore
  refine ⟨m + n + 1, by simp only [List.length_append, List.length_cons]; omega,
    fun fuel frames rest _ => ?_⟩
  obtain ⟨ws', hws', hkey⟩ := hfront (Utf8.encode value ++ (Utf8.encode more ++ rest))
  obtain ⟨b, hopening, hspace, hencode⟩ := encode_sign frame (ws ++ (front ++ (value ++ more)))
  obtain ⟨c, bs, hbytes, hc, hend⟩ := hhead
  have hinner : Utf8.encode (front ++ (value ++ more)) ++ rest =
      c :: (bs ++ (Utf8.encode more ++ rest)) := by
    rw [← List.append_assoc, Utf8.encode_append, hbytes, List.append_assoc, List.cons_append]
  have hkey : skipKey frame (c :: (bs ++ (Utf8.encode more ++ rest))) =
      .ok (ws' ++ (Utf8.encode value ++ (Utf8.encode more ++ rest))) := by
    rw [← hinner, ← hkey]
    simp only [Utf8.encode_append, List.append_assoc]
  rw [hencode, List.cons_append, ← Nat.add_assoc, skipWithin, skipSpace_cons hspace,
    Utf8.encode_append, List.append_assoc, hinner]
  simp only [hopening, h.blank.skipSpace, skipSpace_cons hc, if_neg hend, hkey]
  rw [skipWithin_blank hws', ← Nat.add_assoc, hvalue _ _ (hfollows rest), hmore]

end

/-- Before a further item or member comes white space or a comma. -/
theorem Separates.follows {lead : List Char} (h : Separates false lead) (cs : List Char)
    (rest : List UInt8) : Follows (Utf8.encode (lead ++ cs) ++ rest) := by
  cases h with
  | further h =>
    rw [List.append_assoc, Utf8.encode_append, List.append_assoc]
    exact h.blank.follows fun _ hb => .inr (.inl (Option.some.inj hb).symm)

theorem Items.follows {cs : List Char} (h : Items false cs) (rest : List UInt8) :
    Follows (Utf8.encode cs ++ rest) := by
  cases h with
  | nil h =>
    rw [Utf8.encode_append, List.append_assoc]
    exact h.blank.follows fun _ hb => .inr (.inr (.inl (Option.some.inj hb).symm))
  | cons hlead => exact hlead.follows _ rest

theorem Members.follows {ms : List Member} {cs : List Char} (h : Members false ms cs)
    (rest : List UInt8) : Follows (Utf8.encode cs ++ rest) := by
  cases h with
  | nil h =>
    rw [Utf8.encode_append, List.append_assoc]
    exact h.blank.follows fun _ hb => .inr (.inr (.inr (Option.some.inj hb).symm))
  | cons hlead => exact hlead.follows _ rest

/-- The first byte of a value. -/
theorem Value.head_byte {cs : List Char} (h : Value cs) :
    ∃ b bs, Utf8.encode cs = b :: bs ∧ ¬ isSpace b = true ∧ b ≠ 93 := by
  obtain ⟨c, rest, rfl, hascii, hspace, hend⟩ := h.head
  exact ⟨_, _, Utf8.encode_cons_ascii hascii rest, hspace,
    ofNat_toNat_ne hascii (by decide : ']'.toNat < _) hend⟩

mutual

/-- Every value is passed over. -/
theorem Value.skips {cs : List Char} : Value cs → Skips cs
  | .null => skips_of_skipScalar rfl (List.cons_ne_nil _ _) (by decide) rfl fun _ _ => rfl
  | .yes => skips_of_skipScalar rfl (List.cons_ne_nil _ _) (by decide) rfl fun _ _ => rfl
  | .no => skips_of_skipScalar rfl (List.cons_ne_nil _ _) (by decide) rfl fun _ _ => rfl
  | .positive h => h.skips
  | .negative h => h.skips_negative
  | .string h => h.skips
  | .list h => h.skips.1 rfl
  | .object h => h.skips.1 rfl

/-- A list is passed over as a whole, and what is left of it behind a value. -/
theorem Items.skips {first : Bool} {cs : List Char} :
    Items first cs → (first = true → Skips ('[' :: cs)) ∧ (first = false → Closes .list cs)
  | .nil h => ⟨fun _ => skips_nil .list h rfl, fun _ => closes_nil h rfl⟩
  | .cons hlead h hmore => by
    have hvalue := h.skips
    have hclose := hmore.skips.2 rfl
    cases hlead with
    | first hws =>
      refine ⟨fun _ => ?_, nofun⟩
      exact skips_cons .list hws Gap.nil.fronts hvalue h.head_byte hclose hmore.follows
    | further hws hws' =>
      refine ⟨nofun, fun _ => ?_⟩
      rw [List.append_assoc, List.cons_append]
      exact closes_cons hws hws'.fronts hvalue hclose hmore.follows

/-- An object is passed over as a whole, and what is left of it behind a value. -/
theorem Members.skips {first : Bool} {ms : List Member} {cs : List Char} :
    Members first ms cs →
      (first = true → Skips ('\x7b' :: cs)) ∧ (first = false → Closes .object cs)
  | .nil h => ⟨fun _ => skips_nil .object h rfl, fun _ => closes_nil h rfl⟩
  | @Members.cons _ m _ _ ws ws' more hlead hkey hws hws' h hmore => by
    have hvalue := h.skips
    have hclose := hmore.skips.2 rfl
    have hassoc (front : List Char) :
        front ++ '"' :: (m.key ++ '"' :: (ws ++ ':' :: (ws' ++ (m.value ++ more)))) =
          front ++ '"' :: (m.key ++ '"' :: (ws ++ ':' :: ws')) ++ (m.value ++ more) := by
      simp
    cases hlead with
    | first hlead =>
      refine ⟨fun _ => ?_, nofun⟩
      have hfront := hkey.fronts Gap.nil hws hws'
      have hskips := skips_cons .object hlead hfront hvalue
        ⟨34, _, Utf8.encode_cons_ascii (by decide) _, by decide, by decide⟩ hclose hmore.follows
      rw [← hassoc, List.nil_append] at hskips
      exact hskips
    | further hlead hlead' =>
      refine ⟨nofun, fun _ => ?_⟩
      have hfront := hkey.fronts hlead' hws hws'
      rw [List.append_assoc, List.cons_append, hassoc]
      exact closes_cons hlead hfront hvalue hclose hmore.follows

end

/-- A value that nobody asked for is passed over, with the white space before it. -/
theorem Value.skipValue {value ws : List Char} (h : Value value) (hws : Gap ws)
    (hrest : Follows rest) :
    skipValue (Utf8.encode ws ++ (Utf8.encode value ++ rest)) = .ok rest := by
  obtain ⟨n, hn, hskips⟩ := h.skips
  have hlength := Utf8.length_le_length_encode value
  obtain ⟨fuel, hfuel⟩ : ∃ fuel,
      (Utf8.encode ws ++ (Utf8.encode value ++ rest)).length = fuel + n :=
    Nat.exists_eq_add_of_le' (by simp only [List.length_append]; omega)
  have hclosed : skipWithin.further fuel [] rest = .ok rest := by
    rw [skipWithin.further, closeFrames]
  rw [Json.skipValue, hfuel, skipWithin_blank hws.blank, hskips fuel [] hrest, hclosed]

end CodeFlow.Json
