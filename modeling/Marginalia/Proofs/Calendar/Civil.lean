import Mathlib
import Marginalia.Calendar.Basic

/-!
What a clock shows. The year of a day begins on that day or before and does not end before it, and within the year the
months follow each other, so the date that a clock shows exists and has the number of the day. With the time of day it
gives the moment back.
-/

namespace Marginalia

namespace Calendar

variable {year year' : Int} {passed : Nat}

/-- The number of days of a year. -/
def daysOf (year : Int) : Nat := if isLeap year then 366 else 365

theorem dayNumber_first (year : Int) : dayNumber year 1 1 =
    (year - 1) * 365 + (year - 1) / 4 - (year - 1) / 100 + (year - 1) / 400 - 719162 := by
  simp [dayNumber, daysBefore, Int.fdiv_eq_ediv_of_nonneg]

theorem dayNumber_day (year : Int) (month day : Nat) : dayNumber year month day = dayNumber year month 1 + (day - 1) := by
  simp [dayNumber]

/-- Up to the first of a month pass the same days in all leap years, and in all others. -/
theorem dayNumber_month (h : isLeap year = isLeap year') (month : Nat) :
    dayNumber year month 1 - dayNumber year 1 1 = dayNumber year' month 1 - dayNumber year' 1 1 := by
  simp only [dayNumber, h]
  omega

theorem monthDay_eq (h : isLeap year = isLeap year') (passed : Nat) : monthDay year passed = monthDay year' passed := by
  simp only [monthDay, dayNumber_month h]

theorem daysIn_eq (h : isLeap year = isLeap year') (month : Nat) : daysIn month year = daysIn month year' := by
  simp only [daysIn, h]

theorem daysIn_le (month : Nat) (year : Int) : daysIn month year ≤ 31 := by
  unfold daysIn
  split
  · split <;> decide
  all_goals decide

/-- A year with as many days, whose months can be looked at one by one. -/
def model (year : Int) : Int := if isLeap year then 2000 else 2001

theorem isLeap_model (year : Int) : isLeap year = isLeap (model year) := by
  unfold model
  split
  · rename_i h
    exact h
  · rename_i h
    exact Bool.eq_false_of_not_eq_true h

/-- A day of a year lies in one of the twelve months, and is one of its days. -/
structure InYear (year : Int) (passed : Nat) (date : Nat × Nat) : Prop where
  month : 1 ≤ date.1 ∧ date.1 ≤ 12
  day : 1 ≤ date.2 ∧ date.2 ≤ daysIn date.1 year
  number : dayNumber year date.1 date.2 - dayNumber year 1 1 = passed

theorem monthDay_inYear (h : passed < daysOf year) : InYear year passed (monthDay year passed) := by
  have hmodel : ∀ year ∈ [(2000 : Int), 2001], ∀ passed < daysOf year,
      (1 ≤ (monthDay year passed).1 ∧ (monthDay year passed).1 ≤ 12) ∧
      (1 ≤ (monthDay year passed).2 ∧ (monthDay year passed).2 ≤ daysIn (monthDay year passed).1 year) ∧
      dayNumber year (monthDay year passed).1 (monthDay year passed).2 - dayNumber year 1 1 = passed := by
    decide +kernel
  have hleap := isLeap_model year
  have hmem : model year ∈ [(2000 : Int), 2001] := by
    unfold model
    split <;> simp
  obtain ⟨hmonth, hday, hnumber⟩ := hmodel (model year) hmem passed (by rwa [daysOf, ← hleap])
  rw [monthDay_eq hleap]
  refine ⟨hmonth, daysIn_eq hleap _ ▸ hday, ?_⟩
  rw [dayNumber_day] at hnumber ⊢
  have := dayNumber_month hleap (monthDay (model year) passed).1
  omega

/-- The first day of a year, by the four centuries, the centuries, the four years and the years that passed before. -/
theorem dayNumber_parts {era century four one : Int} (hcentury : 0 ≤ century ∧ century ≤ 3)
    (hfour : 0 ≤ four ∧ four ≤ 24) (hone : 0 ≤ one ∧ one ≤ 3) :
    dayNumber (era * 400 + century * 100 + four * 4 + one + 1) 1 1 =
      era * 146097 + century * 36524 + four * 1461 + one * 365 - 719162 := by
  rw [dayNumber_first]
  omega

theorem daysOf_parts {era century four one : Int} (hcentury : 0 ≤ century ∧ century ≤ 3)
    (hfour : 0 ≤ four ∧ four ≤ 24) (hone : 0 ≤ one ∧ one ≤ 3) :
    daysOf (era * 400 + century * 100 + four * 4 + one + 1) =
      if one = 3 ∧ (four ≠ 24 ∨ century = 3) then 366 else 365 := by
  have hleap : isLeap (era * 400 + century * 100 + four * 4 + one + 1) = true ↔
      one = 3 ∧ (four ≠ 24 ∨ century = 3) := by
    simp only [isLeap, Bool.and_eq_true, Bool.or_eq_true, beq_iff_eq, bne_iff_ne]
    omega
  simp only [daysOf, hleap]

/-- A day lies in the year that is found for it. -/
theorem day_in_year (day : Int) : dayNumber (yearOfDay day) 1 1 ≤ day ∧
    day < dayNumber (yearOfDay day) 1 1 + daysOf (yearOfDay day) := by
  simp only [yearOfDay, Int.fdiv_eq_ediv_of_nonneg _ (show (0 : Int) ≤ 146097 by decide),
    Int.fdiv_eq_ediv_of_nonneg _ (show (0 : Int) ≤ 36524 by decide),
    Int.fdiv_eq_ediv_of_nonneg _ (show (0 : Int) ≤ 1461 by decide),
    Int.fdiv_eq_ediv_of_nonneg _ (show (0 : Int) ≤ 365 by decide),
    Int.fmod_eq_emod_of_nonneg _ (show (0 : Int) ≤ 146097 by decide)]
  -- What is left of the days after each of the four divisions.
  obtain ⟨r, hr⟩ : ∃ r, r = (day + 719162) % 146097 := ⟨_, rfl⟩
  obtain ⟨c, hc⟩ : ∃ c, c = min (r / 36524) 3 := ⟨_, rfl⟩
  obtain ⟨f, hf⟩ : ∃ f, f = (r - c * 36524) / 1461 := ⟨_, rfl⟩
  obtain ⟨o, ho⟩ : ∃ o, o = min ((r - c * 36524 - f * 1461) / 365) 3 := ⟨_, rfl⟩
  rw [← hr, ← hc, ← hf, ← ho]
  have hcentury : 0 ≤ c ∧ c ≤ 3 := by omega
  have hfour : 0 ≤ f ∧ f ≤ 24 := by omega
  have hone : 0 ≤ o ∧ o ≤ 3 := by omega
  rw [dayNumber_parts hcentury hfour hone, daysOf_parts hcentury hfour hone]
  split <;> omega

end Calendar

namespace Civil

/-- A date that is in the calendar, and a time of day. -/
structure Valid (c : Civil) : Prop where
  month : 1 ≤ c.month ∧ c.month ≤ 12
  day : 1 ≤ c.day ∧ c.day ≤ Calendar.daysIn c.month c.year
  time : c.hour < 24 ∧ c.minute < 60 ∧ c.second < 60

end Civil

namespace Moment

theorem day_in_civil (m : Moment) : Calendar.dayNumber m.civil.year 1 1 ≤ m.day ∧
    m.day < Calendar.dayNumber m.civil.year 1 1 + Calendar.daysOf m.civil.year :=
  Calendar.day_in_year m.day

theorem civil_date (m : Moment) : Calendar.InYear m.civil.year
    (m.day - Calendar.dayNumber m.civil.year 1 1).toNat (m.civil.month, m.civil.day) := by
  have hday := m.day_in_civil
  exact Calendar.monthDay_inYear (by omega)

theorem civil_valid (m : Moment) : m.civil.Valid where
  month := m.civil_date.month
  day := m.civil_date.day
  time := by
    have htime := Int.fmod_lt_of_pos (m.seconds + m.offset) (show (0 : Int) < 86400 by decide)
    simp only [civil]
    omega

theorem dayNumber_civil (m : Moment) : Calendar.dayNumber m.civil.year m.civil.month m.civil.day = m.day := by
  have hday := m.day_in_civil
  have hnumber := m.civil_date.number
  simp only at hnumber
  omega

/-- The moment at which a clock shows what it shows. -/
theorem civil_moment (m : Moment) : m.civil.moment m.offset = m := by
  have htime : ((m.civil.hour * 3600 + m.civil.minute * 60 + m.civil.second : Nat) : Int) =
      Int.fmod (m.seconds + m.offset) 86400 := by
    have := Int.fmod_nonneg_of_pos (m.seconds + m.offset) (show (0 : Int) < 86400 by decide)
    simp only [civil]
    omega
  have hseconds : m.civil.clockSeconds = m.seconds + m.offset := by
    rw [Civil.clockSeconds, dayNumber_civil, Int.ofNat_eq_natCast, htime, day, Int.mul_comm, Int.mul_fdiv_add_fmod]
  rw [Civil.moment, hseconds, Int.add_sub_cancel]
  rfl

end Moment

end Marginalia
