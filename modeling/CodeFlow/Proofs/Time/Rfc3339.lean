import CodeFlow.Proofs.Time.Calendar
import CodeFlow.Time.Rfc3339
import Mathlib.Algebra.Group.Nat.Defs

/-!
# Times read back

The text of an instant reads back as the instant, for every year of the span, for every fraction of
a second and within leap seconds.
-/

namespace CodeFlow.Time

open CodeFlow.Text (isBlank trimStart)

/-! ## Digits -/

/-- Characters write a number in decimal, with zeros in front or without. -/
structure Digits (cs : List Char) (n : Nat) : Prop where
  ne_nil : cs ≠ []
  isDigit : ∀ c ∈ cs, c.isDigit = true
  value : Nat.ofDigitChars 10 cs 0 = n

section

variable {cs rest : List Char} {limit n width : Nat}

theorem digit?_of_isDigit {c : Char} (h : c.isDigit = true) : digit? c = some (c.toNat - 48) := by
  simp only [Char.isDigit, Bool.and_eq_true, decide_eq_true_eq] at h
  exact if_pos h

theorem isBlank_of_isDigit {c : Char} (h : c.isDigit = true) : isBlank c = false := by
  simp only [Char.isDigit, Bool.and_eq_true, decide_eq_true_eq, UInt32.le_iff_toNat_le] at h
  change 48 ≤ c.toNat ∧ c.toNat ≤ 57 at h
  simp only [isBlank, Text.blankRanges, List.any_cons, List.any_nil, Bool.or_false,
    Bool.or_eq_false_iff, Bool.and_eq_false_iff, decide_eq_false_iff_not]
  omega

/-- Taking digits stops where there are no more, or where enough were taken. -/
theorem takeDigits_digits (hcs : ∀ c ∈ cs, c.isDigit = true) (hlength : cs.length ≤ limit)
    (hrest : cs.length = limit ∨ ∀ c ∈ rest.head?, digit? c = none) :
    takeDigits limit (cs ++ rest) = (cs.map (·.toNat - 48), rest) := by
  induction cs generalizing limit with
  | nil =>
    cases limit with
    | zero => rfl
    | succ limit =>
      cases rest with
      | nil => rfl
      | cons c rest =>
        have hc : digit? c = none := by simpa using hrest
        simp only [List.nil_append, List.map_nil, takeDigits, hc]
  | cons c cs ih =>
    cases limit with
    | zero => simp at hlength
    | succ limit =>
      have htake : takeDigits limit (cs ++ rest) = (cs.map (·.toNat - 48), rest) :=
        ih (fun c hc => hcs c (List.mem_cons_of_mem _ hc)) (by simpa using hlength)
          (by simpa using hrest)
      simp only [List.cons_append, List.map_cons, takeDigits,
        digit?_of_isDigit (hcs c List.mem_cons_self), htake]

theorem numberOf_digits (cs : List Char) (n : Nat) :
    numberOf n (cs.map (·.toNat - 48)) = Nat.ofDigitChars 10 cs n := by
  rw [numberOf, Nat.ofDigitChars_eq_foldl, List.foldl_map]
  simp only [Nat.mul_comm]
  rfl

theorem Digits.readNumber (h : Digits cs n) (hlength : cs.length ≤ limit)
    (hrest : cs.length = limit ∨ ∀ c ∈ rest.head?, digit? c = none) (hlimit : n ≤ numberLimit) :
    readNumber limit (cs ++ rest) = .ok (n, rest) := by
  cases cs with
  | nil => exact absurd rfl h.ne_nil
  | cons c cs =>
    have hnumber : numberOf 0 ((c :: cs).map (·.toNat - 48)) = n := by
      rw [numberOf_digits, h.value]
    unfold Time.readNumber
    rw [takeDigits_digits h.isDigit hlength hrest]
    simp only [List.map_cons, List.cons_append] at hnumber ⊢
    rw [hnumber, if_neg (by omega)]

/-- There is no white space in front of a digit. -/
theorem Digits.trimStart (h : Digits cs n) : trimStart (cs ++ rest) = cs ++ rest := by
  cases cs with
  | nil => exact absurd rfl h.ne_nil
  | cons c cs =>
    rw [List.cons_append, Text.trimStart, List.dropWhile_cons_of_neg]
    simp [isBlank_of_isDigit (h.isDigit c List.mem_cons_self)]

theorem padded_eq : padded width n =
    List.replicate (width - (Nat.toDigits 10 n).length) '0' ++ Nat.toDigits 10 n := by
  rw [padded, Nat.toString_eq_ofList_toDigits, String.toList_ofList]

theorem digits_padded (width n : Nat) : Digits (padded width n) n where
  ne_nil := by simp [padded_eq]
  isDigit c hc := by
    rw [padded_eq] at hc
    rcases List.mem_append.mp hc with hzero | hdigit
    · rw [List.eq_of_mem_replicate hzero]
      rfl
    · exact Nat.isDigit_of_mem_toDigits (by decide) (by decide) hdigit
  value := by
    rw [padded_eq, Nat.ofDigitChars_append, Nat.ofDigitChars_replicate_zero, Nat.mul_zero,
      Nat.ofDigitChars_ten_toDigits]

theorem length_padded (hwidth : 0 < width) (h : n < 10 ^ width) :
    (padded width n).length = width := by
  have hlength := (Nat.length_toDigits_le_iff (b := 10) (by decide) hwidth).mpr h
  rw [padded_eq, List.length_append, List.length_replicate]
  omega

end

/-! ## Parts of a time -/

section

variable {rest : List Char}

/-- A number of two digits reads back, whatever stands behind it. -/
theorem readField_padded {n least greatest : Nat} (hleast : least ≤ n) (hgreatest : n ≤ greatest)
    (h : n < 100) (rest : List Char) :
    readField least greatest (padded 2 n ++ rest) = .ok (n, rest) := by
  have hlength : (padded 2 n).length = 2 := length_padded (by decide) (by omega)
  have hread : readNumber 2 (padded 2 n ++ rest) = .ok (n, rest) :=
    (digits_padded 2 n).readNumber (Nat.le_of_eq hlength) (.inl hlength) (by unfold numberLimit; omega)
  rw [readField, (digits_padded 2 n).trimStart, hread]
  exact if_pos ⟨hleast, hgreatest⟩

theorem trimStart_cons {c : Char} (h : isBlank c = false) (rest : List Char) :
    trimStart (c :: rest) = c :: rest := by
  rw [trimStart, List.dropWhile_cons_of_neg (by simp [h])]

theorem readMark_cons {mark : Char} (h : isBlank mark = false) (rest : List Char) :
    readMark mark (mark :: rest) = .ok rest := by
  rw [readMark, trimStart_cons h]
  exact if_pos rfl

/-- Without a sign a year has at most four digits. -/
theorem readYear_digits {cs : List Char} {n : Nat} (h : Digits cs n) (hlength : cs.length = 4)
    (hlimit : n ≤ 9999) (rest : List Char) : readYear (cs ++ rest) = .ok ((n : Int), rest) := by
  have hread : readNumber 4 (cs ++ rest) = .ok (n, rest) :=
    h.readNumber (Nat.le_of_eq hlength) (.inl hlength) (by unfold numberLimit; omega)
  have hrange : -2147483648 ≤ (n : Int) ∧ (n : Int) ≤ 2147483647 := by omega
  rw [readYear, h.trimStart]
  cases cs with
  | nil => exact absurd rfl h.ne_nil
  | cons c cs =>
    have hdigit := h.isDigit c List.mem_cons_self
    rw [List.cons_append] at hread ⊢
    split
    · rename_i heq
      cases heq
      cases hdigit
    · rename_i heq
      cases heq
      cases hdigit
    · rw [hread]
      exact if_pos hrange

/-- Behind a sign a year has as many digits as there are. -/
theorem readYear_signed {cs : List Char} {n : Nat} (h : Digits cs n) (hlimit : n ≤ 2147483647)
    {rest : List Char} (hrest : ∀ c ∈ rest.head?, digit? c = none) :
    readYear ('-' :: (cs ++ rest)) = .ok (-(n : Int), rest) ∧
      readYear ('+' :: (cs ++ rest)) = .ok ((n : Int), rest) := by
  have hread : readNumber (cs ++ rest).length (cs ++ rest) = .ok (n, rest) :=
    h.readNumber (by simp) (.inr hrest) (by unfold numberLimit; omega)
  have hminus : -2147483648 ≤ -(n : Int) ∧ -(n : Int) ≤ 2147483647 := by omega
  have hplus : -2147483648 ≤ (n : Int) ∧ (n : Int) ≤ 2147483647 := by omega
  constructor
  · rw [readYear, trimStart_cons (by decide)]
    simp only [hread]
    exact if_pos hminus
  · rw [readYear, trimStart_cons (by decide)]
    simp only [hread]
    exact if_pos hplus

/-- A year of the span reads back in front of a mark. -/
theorem readYear_writeYear {y : Int} (hfirst : -262143 ≤ y) (hlast : y ≤ 262142)
    (rest : List Char) : readYear (writeYear y ++ '-' :: rest) = .ok (y, '-' :: rest) := by
  have hmark : ∀ c ∈ ('-' :: rest).head?, digit? c = none := by
    intro c hc
    cases hc
    rfl
  unfold writeYear
  split
  · have hread := readYear_digits (digits_padded 4 y.toNat)
      (length_padded (by decide) (by omega)) (by omega) ('-' :: rest)
    rwa [show (y.toNat : Int) = y by omega] at hread
  · have hread := readYear_signed (digits_padded 4 y.natAbs) (by omega) hmark
    split
    · rw [List.cons_append, hread.1, show -(y.natAbs : Int) = y by omega]
    · rw [List.cons_append, hread.2, show (y.natAbs : Int) = y by omega]

/-- A fraction reads back from as many digits as it was written with. -/
theorem readFraction_padded {width n nanos : Nat} (hwidth : 0 < width) (hmost : width ≤ 9)
    (h : n < 10 ^ width) (hnanos : n * 10 ^ (9 - width) = nanos) {rest : List Char}
    (hrest : ∀ c ∈ rest.head?, digit? c = none) :
    readFraction ('.' :: (padded width n ++ rest)) = .ok (nanos, rest) := by
  have hdigits := digits_padded width n
  have hlength : (padded width n).length = width := length_padded hwidth h
  have hpow : 10 ^ width ≤ 10 ^ 9 := Nat.pow_le_pow_right (by decide) hmost
  have hread : readNumber 9 (padded width n ++ rest) = .ok (n, rest) :=
    hdigits.readNumber (by omega) (.inr hrest) (by unfold numberLimit; omega)
  have htake : takeDigits 9 (padded width n ++ rest) =
      ((padded width n).map (·.toNat - 48), rest) :=
    takeDigits_digits hdigits.isDigit (by omega) (.inr hrest)
  have hvalue : numberOf 0 ((padded width n).map (·.toNat - 48)) = n := by
    rw [numberOf_digits, hdigits.value]
  have hdrop : rest.dropWhile (fun c => (digit? c).isSome) = rest := by
    cases rest with
    | nil => rfl
    | cons c rest => rw [List.dropWhile_cons_of_neg (by simp [hrest c rfl])]
  simp only [readFraction, hread, htake, hvalue, List.length_map, hlength]
  change Except.ok (n * 10 ^ (9 - width), rest.dropWhile _) = _
  rw [hnanos, hdrop]

theorem readFraction_writeFraction {nanos : Nat} (h : nanos < billion) (rest : List Char) :
    readFraction (writeFraction nanos ++ 'Z' :: rest) = .ok (nanos, 'Z' :: rest) := by
  have hmark : ∀ c ∈ ('Z' :: rest).head?, digit? c = none := by
    intro c hc
    cases hc
    rfl
  unfold billion at h
  unfold writeFraction
  split
  · rename_i hzero
    rw [hzero]
    rfl
  split
  · exact readFraction_padded (by decide) (by decide) (by omega) (by omega) hmark
  split
  · exact readFraction_padded (by decide) (by decide) (by omega) (by omega) hmark
  · exact readFraction_padded (by decide) (by decide) (by omega) (by omega) hmark

end

/-! ## Whole times -/

theorem daysInMonth_le (y : Int) (m : Nat) : daysInMonth y m ≤ 31 := by
  unfold daysInMonth
  split_ifs <;> decide

theorem Date.ranges_of_isValid {d : Date} (h : d.isValid = true) :
    1 ≤ d.month ∧ d.month ≤ 12 ∧ 1 ≤ d.day ∧ d.day ≤ 31 := by
  simp only [Date.isValid, Bool.and_eq_true, decide_eq_true_eq] at h
  obtain ⟨⟨⟨hmonth₁, hmonth₂⟩, hday₁⟩, hday₂⟩ := h
  exact ⟨hmonth₁, hmonth₂, hday₁, hday₂.trans (daysInMonth_le d.year d.month)⟩

/-- The parts of a time, in their order. -/
theorem Instant.read_parts {date : Date} {hour minute second nanos : Nat}
    (hyear : -262143 ≤ date.year ∧ date.year ≤ 262142) (hvalid : date.isValid = true)
    (hhour : hour ≤ 23) (hminute : minute ≤ 59) (hsecond : second ≤ 60) (hnanos : nanos < billion) :
    Instant.read (writeYear date.year ++ '-' :: padded 2 date.month ++ '-' :: padded 2 date.day ++
      'T' :: padded 2 hour ++ ':' :: padded 2 minute ++ ':' :: padded 2 second ++
      writeFraction nanos ++ ['Z']) =
      assemble date hour minute second nanos 0 := by
  obtain ⟨hmonth₁, hmonth₂, hday₁, hday₂⟩ := Date.ranges_of_isValid hvalid
  have hdash : isBlank '-' = false := by decide
  have hcolon : isBlank ':' = false := by decide
  simp only [List.append_assoc, List.cons_append, Instant.read, bind, Except.bind,
    readYear_writeYear hyear.1 hyear.2, readMark_cons hdash, readMark_cons hcolon,
    readField_padded hmonth₁ hmonth₂ (by omega), readField_padded hday₁ hday₂ (by omega),
    readField_padded (Nat.zero_le hour) hhour (by omega),
    readField_padded (Nat.zero_le minute) hminute (by omega),
    readField_padded (Nat.zero_le second) hsecond (by omega),
    readFraction_writeFraction hnanos]
  rfl

/-- A day with a time of day makes up an instant; a leap second is the sixtieth of its minute. -/
theorem assemble_eq_ok {t : Instant} {date : Date} {hour minute second nanos : Nat}
    (hyear : -262143 ≤ date.year ∧ date.year ≤ 262142) (hvalid : date.isValid = true)
    (hseconds : date.toDays * 86400 + hour * 3600 + minute * 60 +
      ((if second = 60 then 59 else second : Nat) : Int) = t.seconds)
    (hnanos : (if second = 60 then billion + nanos else nanos) = t.nanos) :
    assemble date hour minute second nanos 0 = .ok t := by
  unfold assemble
  rw [if_neg (not_not.mpr ⟨hyear.1, hyear.2, hvalid⟩), if_neg (by decide)]
  simp only [hseconds, hnanos, Int.sub_zero, Instant.ofParts?_self]

theorem Instant.year_date (t : Instant) : -262143 ≤ t.date.year ∧ t.date.year ≤ 262142 := by
  obtain ⟨hfirst, hlast, -⟩ := t.inSpan
  unfold firstSecond at hfirst
  unfold lastSecond at hlast
  generalize hstart : Date.toDays ⟨-262143, 1, 1⟩ = start at hfirst
  generalize hend : Date.toDays ⟨262142, 12, 31⟩ = last at hlast
  refine Date.year_ofDays ?_ ?_
  · rw [hstart]
    omega
  · rw [hend]
    omega

/-- The time of day in hours, minutes and seconds. -/
theorem Instant.secondOfDay_eq (t : Instant) : (t.secondOfDay : Int) = t.seconds % 86400 :=
  Int.toNat_of_nonneg (Int.emod_nonneg _ (by decide))

theorem Instant.read_write_of_plain {t : Instant} (h : t.isLeap = false) :
    Instant.read t.write = .ok t := by
  have hnanos : t.nanos < billion := by simpa [isLeap] using h
  have hdays : t.date.toDays = t.seconds / 86400 := Date.toDays_ofDays _
  have hsecond := t.secondOfDay_eq
  have hparts := read_parts t.year_date (Date.isValid_ofDays _)
    (show t.secondOfDay / 3600 ≤ 23 by omega) (show t.secondOfDay / 60 % 60 ≤ 59 by omega)
    (show t.secondOfDay % 60 ≤ 60 by omega) hnanos
  have hplain : ¬ t.secondOfDay % 60 = 60 := by omega
  simp only [write, h, Bool.false_eq_true, if_false, Nat.add_zero]
  refine hparts.trans (assemble_eq_ok t.year_date (Date.isValid_ofDays _) ?_ (if_neg hplain))
  rw [if_neg hplain]
  omega

/-- A leap second is the last second of its minute, and a billion nanoseconds of it are passed. -/
theorem Instant.read_write_of_leap {t : Instant} (h : t.isLeap = true) :
    Instant.read t.write = .ok t := by
  have hpast : billion ≤ t.nanos := by simpa [isLeap] using h
  obtain ⟨-, -, hspan⟩ := t.inSpan
  obtain ⟨hnanos, hminute⟩ := hspan.resolve_left (Nat.not_lt.mpr hpast)
  have hdays : t.date.toDays = t.seconds / 86400 := Date.toDays_ofDays _
  have hsecond := t.secondOfDay_eq
  have hleap : t.secondOfDay % 60 + 1 = 60 := by omega
  have hparts := read_parts t.year_date (Date.isValid_ofDays _)
    (show t.secondOfDay / 3600 ≤ 23 by omega) (show t.secondOfDay / 60 % 60 ≤ 59 by omega)
    (Nat.le_of_eq hleap) (show t.nanos - billion < billion by omega)
  simp only [write, h, if_true]
  refine hparts.trans (assemble_eq_ok t.year_date (Date.isValid_ofDays _) ?_ ?_)
  · rw [if_pos hleap]
    omega
  · rw [if_pos hleap, Nat.add_sub_cancel' hpast]

/-- The text of an instant reads back. -/
theorem Instant.read_write (t : Instant) : Instant.read t.write = .ok t := by
  cases hleap : t.isLeap with
  | true => exact read_write_of_leap hleap
  | false => exact read_write_of_plain hleap

end CodeFlow.Time
