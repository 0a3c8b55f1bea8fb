import Cadastre.Time.Calendar
import Mathlib.Tactic.Ring
import Mathlib.Tactic.IntervalCases

/-!
# Days and their numbers

Numbering the days and finding the day of a number undo each other: every number is the number of
the day that is found for it, and that day exists. The day is found by its place in an era of four
hundred years, in a year of it that begins in March, and in a month of that year.
-/

namespace Cadastre.Date

/-- The number of days in the first years of an era. -/
def daysBefore (y : Int) : Int := y * 365 + y / 4 - y / 100

/-- The place of a day in its era: the year, which begins in March, and the day in that year. The
last day of a year is there only before a leap year ends. -/
structure IsPlace (dayOfEra y dayOfYear : Int) : Prop where
  /-- An era has four hundred years. -/
  year : 0 ≤ y ∧ y ≤ 399
  /-- A year has at most 366 days. -/
  day : 0 ≤ dayOfYear ∧ dayOfYear ≤ 365
  /-- The days of the years before are those before the day. -/
  sum : dayOfEra = daysBefore y + dayOfYear
  /-- Only a leap year has 366 days. -/
  leap : dayOfYear = 365 → (y + 1) % 4 = 0 ∧ ((y + 1) % 100 ≠ 0 ∨ y = 399)

/-- The year of a day of an era is found from its number of days alone. -/
theorem isPlace_yearOfEra {d y : Int} (h0 : 0 ≤ d) (h1 : d < 146097)
    (hy : y = (d - d / 1460 + d / 36524 - d / 146096) / 365) :
    IsPlace d y (d - daysBefore y) := by
  have hdays : daysBefore y = y * 365 + y / 4 - y / 100 := rfl
  have he : d / 36524 = 0 ∨ d / 36524 = 1 ∨ d / 36524 = 2 ∨ d / 36524 = 3 ∨ d / 36524 = 4 := by
    omega
  have hf : d / 146096 = 0 ∨ d / 146096 = 1 := by omega
  -- within one century the years are found by fours, so the last day of the era is set apart
  have hcentury : y / 100 = d / 36524 ∧ d / 146096 = 0 ∨ y = 399 ∧ d = 146096 := by
    rcases he with he | he | he | he | he <;> rcases hf with hf | hf <;> rw [he, hf] at hy <;> omega
  rcases hcentury with ⟨hc, hf⟩ | ⟨rfl, rfl⟩
  · have hlate : d - daysBefore y = 365 → y % 4 = 3 := by omega
    refine ⟨by omega, by omega, by omega, fun h => ?_⟩
    have := hlate h
    omega
  · exact ⟨by omega, by omega, by omega, by omega⟩

/-- The month of a day of a year that begins in March, the first one being 0. -/
def monthFromMarch (dayOfYear : Int) : Int := (5 * dayOfYear + 2) / 153

/-- The day in its month, the first one being 1. -/
def dayOfMonth (dayOfYear : Int) : Int := dayOfYear - (153 * monthFromMarch dayOfYear + 2) / 5 + 1

/-- The day with a number, from its place in an era. -/
theorem ofNumber_place (n : Int) :
    ∃ era y dayOfYear, IsPlace (n + 719468 - era * 146097) y dayOfYear ∧
      ofNumber n =
        if monthFromMarch dayOfYear < 10 then
          ⟨y + era * 400, (monthFromMarch dayOfYear + 3).toNat, (dayOfMonth dayOfYear).toNat⟩
        else
          ⟨y + era * 400 + 1, (monthFromMarch dayOfYear - 9).toNat,
            (dayOfMonth dayOfYear).toNat⟩ := by
  set d := n + 719468 - (n + 719468) / 146097 * 146097 with hd
  have hplace := isPlace_yearOfEra (d := d) (by omega) (by omega) rfl
  refine ⟨(n + 719468) / 146097, _, _, hplace, ?_⟩
  have hsum : ∀ y : Int, d - (365 * y + y / 4 - y / 100) = d - daysBefore y := by
    intro y
    unfold daysBefore
    ring
  simp only [ofNumber, ← hd, hsum]
  rfl

/-- The number of a day that is given by its place. -/
theorem number_place {d y dayOfYear era : Int} (h : IsPlace d y dayOfYear) :
    number (if monthFromMarch dayOfYear < 10 then
        ⟨y + era * 400, (monthFromMarch dayOfYear + 3).toNat, (dayOfMonth dayOfYear).toNat⟩
      else
        ⟨y + era * 400 + 1, (monthFromMarch dayOfYear - 9).toNat,
          (dayOfMonth dayOfYear).toNat⟩) = era * 146097 + d - 719468 := by
  obtain ⟨hy, hday, hsum, -⟩ := h
  unfold daysBefore at hsum
  have hm : monthFromMarch dayOfYear = (5 * dayOfYear + 2) / 153 := rfl
  have hd : dayOfMonth dayOfYear =
      dayOfYear - (153 * monthFromMarch dayOfYear + 2) / 5 + 1 := rfl
  have hera : (y + era * 400) / 400 = era := by omega
  split
  · next hlt =>
    have hmonth : ¬ (monthFromMarch dayOfYear + 3).toNat ≤ 2 := by omega
    simp only [number, if_neg hmonth, hera]
    omega
  · next hge =>
    have hmonth : (monthFromMarch dayOfYear - 9).toNat ≤ 2 := by omega
    have hyear : y + era * 400 + 1 - 1 = y + era * 400 := by omega
    simp only [number, if_pos hmonth, hyear, hera]
    omega

/-- Every number is the number of the day that is found for it. -/
theorem number_ofNumber (n : Int) : (ofNumber n).number = n := by
  obtain ⟨era, y, dayOfYear, hplace, h⟩ := ofNumber_place n
  rw [h, number_place hplace]
  ring

/-- The year that follows a leap day of an era is a leap year. -/
theorem isLeap_of_place {y : Int} (era : Int) (h4 : (y + 1) % 4 = 0)
    (h100 : (y + 1) % 100 ≠ 0 ∨ y = 399) : isLeap (y + era * 400 + 1) = true := by
  simp only [isLeap, Bool.and_eq_true, Bool.or_eq_true, beq_iff_eq, bne_iff_ne]
  omega

/-- The day that is found for a number exists. -/
theorem exists?_ofNumber (n : Int) : (ofNumber n).exists? = true := by
  obtain ⟨era, y, dayOfYear, ⟨hy, hday, -, hleap⟩, h⟩ := ofNumber_place n
  have hm : monthFromMarch dayOfYear = (5 * dayOfYear + 2) / 153 := rfl
  have hd : dayOfMonth dayOfYear =
      dayOfYear - (153 * monthFromMarch dayOfYear + 2) / 5 + 1 := rfl
  rw [h]
  generalize monthFromMarch dayOfYear = m at *
  generalize dayOfMonth dayOfYear = day at *
  have hm0 : 0 ≤ m := by omega
  have hm11 : m ≤ 11 := by omega
  have hfirst : 1 ≤ day.toNat := by omega
  simp only [exists?, Bool.and_eq_true, decide_eq_true_eq]
  interval_cases m
  case «11» =>
    -- the last month of the year has its last day only in a leap year
    by_cases hlast : dayOfYear = 365
    · obtain ⟨h4, h100⟩ := hleap hlast
      have hl := isLeap_of_place era h4 h100
      simp [daysInMonth, hl]
      omega
    · have h28 : day.toNat ≤ 28 := by omega
      have hle : 28 ≤ if isLeap (y + era * 400 + 1) = true then 29 else 28 := by
        split <;> omega
      exact ⟨hfirst, h28.trans hle⟩
  all_goals
    refine ⟨hfirst, ?_⟩
    simp [daysInMonth]
    omega

theorem month_le_of_exists? {d : Date} (h : d.exists? = true) : d.month ≤ 12 := by
  simp only [exists?, Bool.and_eq_true, decide_eq_true_eq] at h
  by_contra hn
  have hzero : daysInMonth d.year d.month = 0 := by
    unfold daysInMonth
    split <;> omega
  omega

theorem day_le_of_exists? {d : Date} (h : d.exists? = true) : d.day ≤ 31 := by
  simp only [exists?, Bool.and_eq_true, decide_eq_true_eq] at h
  have hle : daysInMonth d.year d.month ≤ 31 := by
    unfold daysInMonth
    repeat' split
    all_goals omega
  omega

/-- The years of the days between the first and the last admitted one. -/
theorem year_ofNumber {n : Int} (hfirst : number ⟨-262143, 1, 1⟩ ≤ n)
    (hlast : n ≤ number ⟨262142, 12, 31⟩) :
    -262143 ≤ (ofNumber n).year ∧ (ofNumber n).year ≤ 262142 := by
  obtain ⟨era, y, dayOfYear, ⟨hy, hday, hsum, -⟩, h⟩ := ofNumber_place n
  have hm : monthFromMarch dayOfYear = (5 * dayOfYear + 2) / 153 := rfl
  have hnf : number ⟨-262143, 1, 1⟩ = -96465292 := by decide
  have hnl : number ⟨262142, 12, 31⟩ = 95026236 := by decide
  unfold daysBefore at hsum
  rw [h]
  split
  · next hlt =>
    show -262143 ≤ y + era * 400 ∧ y + era * 400 ≤ 262142
    omega
  · next hge =>
    show -262143 ≤ y + era * 400 + 1 ∧ y + era * 400 + 1 ≤ 262142
    refine ⟨by omega, ?_⟩
    by_contra hlate
    have hera : era = 655 := by omega
    subst hera
    omega

end Cadastre.Date
