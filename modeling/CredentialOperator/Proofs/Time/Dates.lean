import CredentialOperator.Time.Calendar
import Mathlib.Tactic.Common

/-!
# Days and dates

The date of a day exists, and the day on which it falls is that day.  The arithmetic is that of
the era of four hundred years that the day lies in: `yearOfEra` and `dayOfYear` name its steps,
and the facts about them are all that is needed of the corrections for leap years.
-/

namespace CredentialOperator.Calendar

/-! ## Within an era -/

/-- The year of an era in which a day of it lies. -/
def yearOfEra (d : Int) : Int := (d - d / 1460 + d / 36524 - d / 146096) / 365

/-- The number of days of an era before a year of it. -/
def daysBefore (y : Int) : Int := 365 * y + y / 4 - y / 100

section

variable {d : Int}

/-- The centuries, of which only the last is a day longer. -/
lemma century_cases (low : 0 ≤ d) (high : d < 146097) :
    d / 36524 = 0 ∨ d / 36524 = 1 ∨ d / 36524 = 2 ∨ d / 36524 = 3 ∨ d / 36524 = 4 := by
  omega

lemma century_yearOfEra (low : 0 ≤ d) (high : d < 146097) :
    yearOfEra d / 100 = d / 36524 - d / 146096 := by
  unfold yearOfEra
  rcases century_cases low high with h | h | h | h | h <;> omega

lemma yearOfEra_bounds (low : 0 ≤ d) (high : d < 146097) : 0 ≤ yearOfEra d ∧ yearOfEra d < 400 := by
  unfold yearOfEra
  omega

lemma daysBefore_le (low : 0 ≤ d) (high : d < 146097) : daysBefore (yearOfEra d) ≤ d := by
  have century := century_yearOfEra low high
  unfold daysBefore
  unfold yearOfEra at century ⊢
  omega

lemma le_daysBefore (low : 0 ≤ d) (high : d < 146097) : d - daysBefore (yearOfEra d) ≤ 365 := by
  have century := century_yearOfEra low high
  unfold daysBefore
  unfold yearOfEra at century ⊢
  omega

/-- Only leap years, counted to end in February, have a day with the number 365. -/
lemma leap_of_last (low : 0 ≤ d) (high : d < 146097) (last : d - daysBefore (yearOfEra d) = 365) :
    (yearOfEra d + 1) % 4 = 0 ∧ ((yearOfEra d + 1) % 100 ≠ 0 ∨ (yearOfEra d + 1) % 400 = 0) := by
  have century := century_yearOfEra low high
  have bounds := yearOfEra_bounds low high
  generalize hy : yearOfEra d = y at *
  unfold yearOfEra at hy
  unfold daysBefore at last
  -- the day with this number is the last of four years, the third year counted from zero
  have olympiad : y / 4 + 1 ≤ d / 1460 := by omega
  have third : y % 4 = 3 := by omega
  refine ⟨by omega, ?_⟩
  rcases century_cases low high with h | h | h | h | h <;> omega

end

/-! ## Dates -/

/-- The parts of which a day and its date are made up: an era, a year `y` of it that begins in
March, and a day and a month of that year, all counted from zero. -/
structure Parts (n : Int) (d : Date) (era y day month : Int) : Prop where
  total : n + 719468 = era * 146097 + daysBefore y + day
  year : 0 ≤ y ∧ y < 400
  day_bounds : 0 ≤ day ∧ day ≤ 365
  last : day = 365 → (y + 1) % 4 = 0 ∧ ((y + 1) % 100 ≠ 0 ∨ (y + 1) % 400 = 0)
  month_eq : month = (5 * day + 2) / 153
  date : (month < 10 ∧ d = ⟨y + era * 400, (month + 3).toNat,
      (day - (153 * month + 2) / 5 + 1).toNat⟩) ∨
    (10 ≤ month ∧ d = ⟨y + era * 400 + 1, (month - 9).toNat,
      (day - (153 * month + 2) / 5 + 1).toNat⟩)

lemma exists_parts (n : Int) : ∃ era y day month, Parts n (Date.ofDays n) era y day month := by
  have low : 0 ≤ (n + 719468) % 146097 := by omega
  have high : (n + 719468) % 146097 < 146097 := by omega
  have before := daysBefore_le low high
  have after := le_daysBefore low high
  refine ⟨(n + 719468) / 146097, yearOfEra ((n + 719468) % 146097),
    (n + 719468) % 146097 - daysBefore (yearOfEra ((n + 719468) % 146097)), _,
    ⟨by omega, yearOfEra_bounds low high, by omega, leap_of_last low high, rfl, ?_⟩⟩
  -- from January on the year is the next one
  by_cases hm : (5 * ((n + 719468) % 146097 - daysBefore (yearOfEra ((n + 719468) % 146097))) + 2)
      / 153 < 10
  · left
    refine ⟨hm, ?_⟩
    unfold daysBefore yearOfEra at hm ⊢
    simp only [Date.ofDays, hm, if_true, Date.mk.injEq, and_true]
    rw [if_neg]
    unfold daysBefore yearOfEra at before
    omega
  · right
    refine ⟨by omega, ?_⟩
    unfold daysBefore yearOfEra at hm ⊢
    simp only [Date.ofDays, hm, if_false, Date.mk.injEq, and_true]
    rw [if_pos]
    unfold daysBefore yearOfEra at after
    omega

/-- The date of a day falls on that day. -/
theorem toDays_ofDays (n : Int) : (Date.ofDays n).toDays = n := by
  obtain ⟨era, y, day, month, parts⟩ := exists_parts n
  have total := parts.total
  have year := parts.year
  have day_bounds := parts.day_bounds
  have month_eq := parts.month_eq
  unfold daysBefore at total
  have dayNumber : ((day - (153 * month + 2) / 5 + 1).toNat : Int) =
      day - (153 * month + 2) / 5 + 1 := by omega
  rcases parts.date with ⟨hm, date⟩ | ⟨hm, date⟩
  · have monthNumber : ((month + 3).toNat : Int) = month + 3 := by omega
    have early : ¬ (month + 3).toNat ≤ 2 := by omega
    have late : 2 < (month + 3).toNat := by omega
    have in_era : (y + era * 400) / 400 = era ∧ (y + era * 400) % 400 = y := by omega
    rw [date]
    simp only [Date.toDays, early, late, if_true, if_false, dayNumber, monthNumber, in_era]
    omega
  · have monthNumber : ((month - 9).toNat : Int) = month - 9 := by omega
    have early : (month - 9).toNat ≤ 2 := by omega
    have late : ¬ 2 < (month - 9).toNat := by omega
    have in_era : (y + era * 400 + 1 - 1) / 400 = era ∧ (y + era * 400 + 1 - 1) % 400 = y := by
      omega
    rw [date]
    simp only [Date.toDays, early, late, if_true, if_false, dayNumber, monthNumber, in_era]
    omega

lemma isLeap_iff {year : Int} :
    isLeap year = true ↔ year % 4 = 0 ∧ (year % 100 ≠ 0 ∨ year % 400 = 0) := by
  simp [isLeap]

/-- The date of a day exists. -/
theorem isValid_ofDays (n : Int) : (Date.ofDays n).isValid = true := by
  obtain ⟨era, y, day, month, parts⟩ := exists_parts n
  have day_bounds := parts.day_bounds
  have month_eq := parts.month_eq
  have month_bounds : 0 ≤ month ∧ month ≤ 11 := by omega
  rcases parts.date with ⟨hm, date⟩ | ⟨hm, date⟩
  · have months : month = 0 ∨ month = 1 ∨ month = 2 ∨ month = 3 ∨ month = 4 ∨ month = 5 ∨
        month = 6 ∨ month = 7 ∨ month = 8 ∨ month = 9 := by omega
    rw [date]
    rcases months with rfl | rfl | rfl | rfl | rfl | rfl | rfl | rfl | rfl | rfl <;>
      simp only [Date.isValid, daysInMonth, Bool.and_eq_true, decide_eq_true_eq,
        Int.reduceAdd, Int.reduceMul, Int.reduceDiv, Int.reduceToNat] <;>
      omega
  · have months : month = 10 ∨ month = 11 := by omega
    rw [date]
    rcases months with rfl | rfl
    · simp only [Date.isValid, daysInMonth, Bool.and_eq_true, decide_eq_true_eq, Int.reduceAdd,
        Int.reduceSub, Int.reduceMul, Int.reduceDiv, Int.reduceToNat]
      omega
    · -- the only month whose length depends on the year
      have leap : day = 365 → isLeap (y + era * 400 + 1) = true := by
        intro last
        have := parts.last last
        rw [isLeap_iff]
        omega
      simp only [Date.isValid, daysInMonth, Bool.and_eq_true, decide_eq_true_eq, Int.reduceAdd,
        Int.reduceSub, Int.reduceMul, Int.reduceDiv, Int.reduceToNat]
      by_cases last : day = 365
      · simp only [leap last, if_true]
        omega
      · split <;> omega

lemma daysInMonth_le (year : Int) (month : Nat) : daysInMonth year month ≤ 31 := by
  unfold daysInMonth
  split
  · split <;> decide
  all_goals decide

lemma Date.month_day_le {d : Date} (h : d.isValid = true) : d.month ≤ 12 ∧ d.day ≤ 31 := by
  simp only [Date.isValid, Bool.and_eq_true, decide_eq_true_eq] at h
  exact ⟨h.1.1.2, Nat.le_trans h.2 (daysInMonth_le _ _)⟩

/-- The days of the years that have dates have dates in these years. -/
lemma year_ofDays {n : Int} (low : Date.toDays ⟨minYear, 1, 1⟩ ≤ n)
    (high : n < Date.toDays ⟨maxYear + 1, 1, 1⟩) :
    minYear ≤ (Date.ofDays n).year ∧ (Date.ofDays n).year ≤ maxYear := by
  have first : Date.toDays ⟨minYear, 1, 1⟩ = -96465292 := by decide
  have last : Date.toDays ⟨maxYear + 1, 1, 1⟩ = 95026237 := by decide
  rw [first] at low
  rw [last] at high
  obtain ⟨era, y, day, month, parts⟩ := exists_parts n
  have total := parts.total
  have year := parts.year
  have day_bounds := parts.day_bounds
  have month_eq := parts.month_eq
  unfold daysBefore at total
  unfold minYear maxYear
  rcases parts.date with ⟨hm, date⟩ | ⟨hm, date⟩
  · rw [date]
    constructor <;> simp only <;> omega
  · rw [date]
    refine ⟨by simp only; omega, ?_⟩
    -- only a day of the last era could belong to a later year
    by_contra late
    have era_eq : era = 655 := by simp only at late; omega
    simp only [era_eq] at late total
    omega

end CredentialOperator.Calendar
