import CodeFlow.Proofs.Time.Calendar

/-!
# Instants that are moved

Instants are ordered, and a move by whole seconds comes to a second that can be told beforehand. It
fails just where this second lies in a year outside of the span (`Instant.addSeconds?_eq_none_iff`).
A longer move never ends earlier, not even out of a leap second (`Instant.le_of_addSeconds?`).
-/

namespace CodeFlow.Time

/-! ## Years of the span -/

/-- The year in which a second lies. -/
def yearOf (second : Int) : Int :=
  (Date.ofDays (second / 86400)).year

/-- A second lies in a year of the span. -/
def InYears (second : Int) : Prop :=
  -262143 ≤ yearOf second ∧ yearOf second ≤ 262142

/-- The days of the years of the span are those from its first day to its last one. -/
theorem Date.year_ofDays_iff {days : Int} :
    -262143 ≤ (ofDays days).year ∧ (ofDays days).year ≤ 262142 ↔
      -96465292 ≤ days ∧ days ≤ 95026236 := by
  have hstart : toDays ⟨-262143, 1, 1⟩ = -96465292 := by decide +kernel
  have hend : toDays ⟨262142, 12, 31⟩ = 95026236 := by decide +kernel
  constructor
  · obtain ⟨era, year, day, hplace, heq⟩ := exists_place days
    have hyear := dateIn_year (year + era * 400) hplace.day_nonneg hplace.day_le_365
    rw [heq, hyear]
    obtain ⟨hdays, hyear₀, hyear₁, hday₀, hday₁⟩ := hplace
    unfold lastDay firstDay at hday₁
    unfold firstDay at hdays
    rintro ⟨hfirst, hlast⟩
    split_ifs at hday₁ hfirst hlast <;> omega
  · rintro ⟨hfirst, hlast⟩
    exact year_ofDays (by omega) (by omega)

/-- The seconds of the span are those of its years. -/
theorem inYears_iff {second : Int} :
    InYears second ↔ firstSecond ≤ second ∧ second ≤ lastSecond := by
  have hfirst : firstSecond = -96465292 * 86400 := by decide +kernel
  have hlast : lastSecond = 95026236 * 86400 + 86399 := by decide +kernel
  unfold InYears yearOf
  rw [Date.year_ofDays_iff, hfirst, hlast]
  omega

namespace Instant

variable {a b c t e e' : Instant} {s s' : Int}

/-! ## Order -/

theorem le_iff :
    a.le b = true ↔ a.seconds < b.seconds ∨ a.seconds = b.seconds ∧ a.nanos ≤ b.nanos := by
  simp [le]

theorem le_trans (hab : a.le b = true) (hbc : b.le c = true) : a.le c = true := by
  rw [le_iff] at hab hbc ⊢
  omega

/-- The nanoseconds from one instant to another one, if neither is in a leap second. -/
def since (a b : Instant) : Int :=
  (a.seconds - b.seconds) * billion + (a.nanos - b.nanos)

theorem nanos_lt_of_not_isLeap (h : a.isLeap = false) : a.nanos < billion := by
  simpa [isLeap] using h

/-! ## Movement -/

/-- The second to which a move comes. A leap second counts as the second before it for a move
forward, and as the second behind it for a move back. -/
def secondAfter (t : Instant) (s : Int) : Int :=
  if t.isLeap = true ∧ s < 0 then t.seconds + 1 + s else t.seconds + s

theorem secondAfter_of_not_isLeap (h : t.isLeap = false) (s : Int) :
    t.secondAfter s = t.seconds + s := by
  simp [secondAfter, h]

/-- The nanoseconds to which a move comes: any move at all leaves a leap second. -/
def nanosAfter (t : Instant) (s : Int) : Nat :=
  if t.isLeap = true ∧ s ≠ 0 then t.nanos - billion else t.nanos

/-- A move comes to its second and nanoseconds, if there is such an instant. -/
theorem addSeconds?_eq (t : Instant) (s : Int) :
    t.addSeconds? s = ofParts? (t.secondAfter s) (t.nanosAfter s) := by
  unfold addSeconds? secondAfter nanosAfter
  cases hleap : t.isLeap with
  | false => simp
  | true =>
    rcases Int.lt_trichotomy s 0 with hback | rfl | hforward
    · simp [hback, show ¬ 0 < s by omega, show s ≠ 0 by omega]
    · simp [ofParts?_self]
    · simp [hforward, show ¬ s < 0 by omega, show s ≠ 0 by omega]

theorem addSeconds?_eq_some_iff :
    t.addSeconds? s = some e ↔ e.seconds = t.secondAfter s ∧ e.nanos = t.nanosAfter s := by
  rw [addSeconds?_eq, ofParts?_eq_some_iff]

/-- The nanoseconds to which a move comes never stand in the way. -/
theorem inSpan_after (t : Instant) (s : Int) :
    InSpan (t.secondAfter s) (t.nanosAfter s) ↔ InYears (t.secondAfter s) := by
  obtain ⟨-, -, hnanos⟩ := t.inSpan
  have hafter : t.nanosAfter s < billion ∨
      t.nanosAfter s < 2 * billion ∧ t.secondAfter s % 60 = 59 := by
    unfold nanosAfter secondAfter
    cases hleap : t.isLeap with
    | false =>
      left
      simpa using nanos_lt_of_not_isLeap hleap
    | true =>
      by_cases hzero : s = 0
      · simpa [hzero] using hnanos
      · left
        simp only [true_and, ne_eq, hzero, not_false_eq_true, if_true]
        omega
  rw [inYears_iff]
  unfold InSpan
  constructor
  · rintro ⟨hfirst, hlast, -⟩
    exact ⟨hfirst, hlast⟩
  · rintro ⟨hfirst, hlast⟩
    exact ⟨hfirst, hlast, hafter⟩

/-- A move fails where the second to which it comes lies outside of the years of the span. -/
theorem addSeconds?_eq_none_iff : t.addSeconds? s = none ↔ ¬ InYears (t.secondAfter s) := by
  rw [addSeconds?_eq, ← inSpan_after]
  unfold ofParts?
  split
  · simpa
  · simpa

/-- A longer move never ends earlier. -/
theorem le_of_addSeconds? (hs : s' ≤ s) (h : t.addSeconds? s = some e)
    (h' : t.addSeconds? s' = some e') : e'.le e = true := by
  obtain ⟨hsecond, hnanos⟩ := addSeconds?_eq_some_iff.mp h
  obtain ⟨hsecond', hnanos'⟩ := addSeconds?_eq_some_iff.mp h'
  rw [le_iff, hsecond, hsecond', hnanos, hnanos']
  cases hleap : t.isLeap with
  | false =>
    simp only [secondAfter, nanosAfter, hleap, Bool.false_eq_true, false_and, if_false]
    omega
  -- to stay in a leap second is later than to go back to its second
  | true =>
    simp only [secondAfter, nanosAfter, hleap, true_and]
    split_ifs <;> omega

/-- Outside of leap seconds, an instant is reached by a move just where the nanoseconds since its
start are those of the seconds, or more. -/
theorem le_iff_of_addSeconds? (ht : t.isLeap = false) (ha : a.isLeap = false)
    (h : t.addSeconds? s = some e) : e.le a = true ↔ s * billion ≤ a.since t := by
  obtain ⟨hsecond, hnanos⟩ := addSeconds?_eq_some_iff.mp h
  have ht' := nanos_lt_of_not_isLeap ht
  have ha' := nanos_lt_of_not_isLeap ha
  rw [secondAfter_of_not_isLeap ht] at hsecond
  rw [nanosAfter, if_neg (by simp [ht])] at hnanos
  rw [le_iff, hsecond, hnanos]
  unfold since billion at *
  omega

end Instant

end CodeFlow.Time
