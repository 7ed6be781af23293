import CodeFlow.Time.Instant
import Mathlib.Order.Monotone.Basic
import Mathlib.Tactic.Common

/-!
# Days and dates

Every day has a date, and the date tells the day again (`Date.toDays_ofDays`). Within an era, the
days without the leap days among them tell the year: their count grows with the days, and it is
looked at only on the first and the last day of each year.
-/

namespace CodeFlow.Time

/-! ## Years of an era -/

/-- The days of an era before a day, without the leap days among them. -/
def commonDays (day : Int) : Int :=
  day - day / 1460 + day / 36524 - day / 146096

/-- The first day of a year of an era. -/
def firstDay (year : Int) : Int :=
  365 * year + year / 4 - year / 100

/-- The last day of a year of an era. Years begin in March, so that the leap day is the last day of
the year before a leap year. -/
def lastDay (year : Int) : Int :=
  firstDay year + if year % 4 = 3 ∧ (year % 100 ≠ 99 ∨ year = 399) then 365 else 364

theorem commonDays_mono {a b : Int} (h : a ≤ b) : commonDays a ≤ commonDays b := by
  refine monotone_int_of_le_succ (fun day => ?_) h
  unfold commonDays
  omega

/-- Every day of a year counts for that year, since the first and the last one do. -/
theorem commonDays_of_year : ∀ year : Nat, year < 400 →
    365 * (year : Int) ≤ commonDays (firstDay year) ∧
      commonDays (lastDay year) < 365 * ((year : Int) + 1) := by
  decide +kernel

theorem lastDay_add_one {year : Int} (h₀ : 0 ≤ year) (h : year < 399) :
    lastDay year + 1 = firstDay (year + 1) := by
  unfold lastDay firstDay
  split <;> omega

/-- A day of an era lies in the year for which it counts. -/
theorem day_in_year {day : Int} (h₀ : 0 ≤ day) (h : day < 146097) :
    0 ≤ commonDays day / 365 ∧ commonDays day / 365 < 400 ∧
      firstDay (commonDays day / 365) ≤ day ∧ day ≤ lastDay (commonDays day / 365) := by
  have hfirst : commonDays 0 ≤ commonDays day := commonDays_mono h₀
  have hlast : commonDays day ≤ commonDays 146096 := commonDays_mono (by omega)
  have hnone : commonDays 0 = 0 := by decide
  have hall : commonDays 146096 = 145999 := by decide
  obtain ⟨year, hyear⟩ := Int.eq_ofNat_of_zero_le (show 0 ≤ commonDays day / 365 by omega)
  have hlt : year < 400 := by omega
  rw [hyear]
  refine ⟨by omega, by omega, ?_, ?_⟩
  -- a day before the year would count for an earlier year, and one behind it for a later one
  · by_contra hbefore
    cases year with
    | zero =>
      have hstart : firstDay (0 : Nat) = 0 := by decide
      omega
    | succ year =>
      have hnext := lastDay_add_one (show (0 : Int) ≤ year by omega) (by omega)
      have hmono := commonDays_mono (show day ≤ lastDay year by push_cast at hbefore; omega)
      have hcounts := (commonDays_of_year year (by omega)).2
      omega
  · by_contra hbehind
    by_cases hnext : (year : Int) < 399
    · have hstep := lastDay_add_one (by omega) hnext
      have hmono := commonDays_mono (show firstDay (year + 1) ≤ day by omega)
      have hcounts := (commonDays_of_year (year + 1) (by omega)).1
      push_cast at hcounts
      omega
    · have hend : lastDay (399 : Nat) = 146096 := by decide
      obtain rfl : year = 399 := by omega
      omega

/-! ## Dates -/

theorem isLeapYear_iff {y : Int} :
    isLeapYear y = true ↔ y % 4 = 0 ∧ (y % 100 ≠ 0 ∨ y % 400 = 0) := by
  simp [isLeapYear]

/-- The date of a day of a year, where years begin in March and days are counted from zero. -/
def dateIn (year dayOfYear : Int) : Date :=
  let monthFromMarch := (5 * dayOfYear + 2) / 153
  let day := dayOfYear - (153 * monthFromMarch + 2) / 5 + 1
  let month := if monthFromMarch < 10 then monthFromMarch + 3 else monthFromMarch - 9
  ⟨if month ≤ 2 then year + 1 else year, month.toNat, day.toNat⟩

/-- The place of a day: its era, the year of the era and the day of the year. -/
structure Date.Place (days era year day : Int) : Prop where
  eq : days = era * 146097 + firstDay year + day - 719468
  year_nonneg : 0 ≤ year
  year_lt : year < 400
  day_nonneg : 0 ≤ day
  day_le : firstDay year + day ≤ lastDay year

theorem Date.exists_place (days : Int) : ∃ era year day, Date.Place days era year day ∧
    Date.ofDays days = dateIn (year + era * 400) day := by
  have hday := day_in_year (Int.emod_nonneg (days + 719468) (show (146097 : Int) ≠ 0 by decide))
    (Int.emod_lt_of_pos (days + 719468) (by decide))
  refine ⟨(days + 719468) / 146097, _, _, ⟨?_, hday.1, hday.2.1, ?_, ?_⟩, rfl⟩
  · change days = _ + firstDay (commonDays ((days + 719468) % 146097) / 365) +
      ((days + 719468) % 146097 - firstDay (commonDays ((days + 719468) % 146097) / 365)) - 719468
    omega
  · exact Int.sub_nonneg_of_le hday.2.2.1
  · change firstDay (commonDays ((days + 719468) % 146097) / 365) +
      ((days + 719468) % 146097 - firstDay (commonDays ((days + 719468) % 146097) / 365)) ≤ _
    omega

section

variable {days era year day : Int}

theorem Date.Place.day_le_365 (h : Date.Place days era year day) : day ≤ 365 := by
  have hday := h.day_le
  unfold lastDay at hday
  split at hday <;> omega

/-- The last ten months of a year that begins in March end with the last day of December. -/
theorem dateIn_year (year : Int) (h₀ : 0 ≤ day) (h₁ : day ≤ 365) :
    (dateIn year day).year = if day < 306 then year else year + 1 := by
  simp only [dateIn]
  split_ifs <;> omega

theorem dateIn_month (year : Int) (h₀ : 0 ≤ day) (h₁ : day ≤ 365) :
    ((dateIn year day).month : Int) =
      if day < 306 then (5 * day + 2) / 153 + 3 else (5 * day + 2) / 153 - 9 := by
  simp only [dateIn]
  split_ifs <;> omega

theorem dateIn_day (year day : Int) :
    ((dateIn year day).day : Int) = day - (153 * ((5 * day + 2) / 153) + 2) / 5 + 1 := by
  simp only [dateIn]
  omega

/-- A date tells the place that it was made of. -/
theorem Date.Place.toDays (h : Date.Place days era year day) :
    (dateIn (year + era * 400) day).toDays = days := by
  have hday₁ := h.day_le_365
  obtain ⟨heq, hyear₀, hyear₁, hday₀, -⟩ := h
  have hyear := dateIn_year (year + era * 400) hday₀ hday₁
  have hmonth := dateIn_month (year + era * 400) hday₀ hday₁
  have hday := dateIn_day (year + era * 400) day
  generalize dateIn (year + era * 400) day = date at hyear hmonth hday ⊢
  -- both ways count years and months from March on
  have hshifted : (if date.month ≤ 2 then date.year - 1 else date.year) = year + era * 400 := by
    split_ifs at hyear hmonth ⊢ <;> omega
  have hmarch : ((date.month : Int) + 9) % 12 = (5 * day + 2) / 153 := by
    split_ifs at hmonth <;> omega
  have hera : (year + era * 400) / 400 = era := by omega
  have hyearOfEra : (year + era * 400) % 400 = year := by omega
  simp only [Date.toDays, hshifted, hmarch, hday, hera, hyearOfEra, heq, firstDay]
  omega

theorem Date.Place.isValid (h : Date.Place days era year day) :
    (dateIn (year + era * 400) day).isValid = true := by
  have hday₁ := h.day_le_365
  have hyear := dateIn_year (year + era * 400) h.day_nonneg hday₁
  have hmonth := dateIn_month (year + era * 400) h.day_nonneg hday₁
  have hday := dateIn_day (year + era * 400) day
  generalize dateIn (year + era * 400) day = date at hyear hmonth hday ⊢
  obtain ⟨-, hyear₀, hyear₁, hday₀, hlast⟩ := h
  simp only [Date.isValid, Bool.and_eq_true, decide_eq_true_eq]
  refine ⟨⟨⟨?_, ?_⟩, ?_⟩, ?_⟩
  · split_ifs at hmonth <;> omega
  · split_ifs at hmonth <;> omega
  · omega
  · unfold daysInMonth
    split
    -- February ends the year, so its length is told by the last day of the year
    · rename_i hfebruary
      have hbehind : ¬ day < 306 := by
        split_ifs at hmonth <;> omega
      rw [if_neg hbehind] at hyear hmonth
      rw [if_congr isLeapYear_iff rfl rfl, hyear]
      unfold lastDay at hlast
      split_ifs at hlast ⊢ <;> omega
    · split <;> split_ifs at hmonth <;> omega

end

/-! ## Days and dates -/

namespace Date

/-- The date of a day tells the day. -/
theorem toDays_ofDays (days : Int) : (ofDays days).toDays = days := by
  obtain ⟨era, year, day, hplace, heq⟩ := exists_place days
  rw [heq, hplace.toDays]

theorem isValid_ofDays (days : Int) : (ofDays days).isValid = true := by
  obtain ⟨era, year, day, hplace, heq⟩ := exists_place days
  rw [heq, hplace.isValid]

/-- The days of the span lie in its years. -/
theorem year_ofDays {days : Int} (hfirst : toDays ⟨-262143, 1, 1⟩ ≤ days)
    (hlast : days ≤ toDays ⟨262142, 12, 31⟩) :
    -262143 ≤ (ofDays days).year ∧ (ofDays days).year ≤ 262142 := by
  obtain ⟨era, year, day, hplace, heq⟩ := exists_place days
  have hstart : toDays ⟨-262143, 1, 1⟩ = -96465292 := by decide +kernel
  have hend : toDays ⟨262142, 12, 31⟩ = 95026236 := by decide +kernel
  have hyear := dateIn_year (year + era * 400) hplace.day_nonneg hplace.day_le_365
  rw [heq, hyear]
  obtain ⟨hdays, hyear₀, hyear₁, hday₀, hday₁⟩ := hplace
  unfold lastDay firstDay at hday₁
  unfold firstDay at hdays
  split_ifs at hday₁ ⊢ <;> omega

end Date

end CodeFlow.Time
