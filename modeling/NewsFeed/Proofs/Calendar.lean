/-
The calendar against the count of days.

A period of 400 years is cut into centuries, those into spans of four years, and those into years.
The last part of each cut may be one day longer than the others, which is the leap day it ends with;
`YearDay` says which days there are.  From it the closed formula for the year of a day is right
(`YearDay.year_eq`), and all of the calendar follows by arithmetic.

* `Date.exists_ofDays` — the calendar has the date of every day;
* `Date.toDays_ofDays` — and that date is the date of no other day;
* `Date.natAbs_year_ofDays_le` — the years of the days in the range of instants.
-/
import Mathlib.Tactic.IntervalCases
import NewsFeed.Time.Instant

namespace NewsFeed.Time

theorem isLeapYear_iff {year : ℤ} :
    isLeapYear year = true ↔ year % 4 = 0 ∧ (year % 100 ≠ 0 ∨ year % 400 = 0) := by
  simp [isLeapYear]

theorem daysInMonth_le (year : ℤ) (month : ℕ) : daysInMonth year month ≤ 31 := by
  rw [daysInMonth]
  split_ifs <;> decide

/-- Day `day` of year `year` of span `span` of a century, with years that start in March.  Day 365
is a leap day; the last span of a century has none, unless the century is the last of a period. -/
structure YearDay where
  century : ℤ
  span : ℤ
  year : ℤ
  day : ℤ
  century_mem : 0 ≤ century ∧ century ≤ 3
  span_mem : 0 ≤ span ∧ span ≤ 24
  year_mem : 0 ≤ year ∧ year ≤ 3
  day_nonneg : 0 ≤ day
  day_le : day < 365 ∨ day = 365 ∧ year = 3 ∧ (span < 24 ∨ century = 3)

namespace YearDay

/-- The number of the day in its period. -/
def dayOfPeriod (d : YearDay) : ℤ :=
  36524 * d.century + 1461 * d.span + 365 * d.year + d.day

/-- The number of the year in its period. -/
def yearOfPeriod (d : YearDay) : ℤ :=
  100 * d.century + 4 * d.span + d.year

theorem yearOfPeriod_mem (d : YearDay) : 0 ≤ d.yearOfPeriod ∧ d.yearOfPeriod < 400 := by
  obtain ⟨c, q, k, d, hc, hq, hk, hd, hlast⟩ := d
  simp only [yearOfPeriod]
  omega

/-- Every day of a period is a day of a year. -/
theorem exists_dayOfPeriod (day : ℤ) (hday : 0 ≤ day ∧ day < 146097) :
    ∃ d : YearDay, d.dayOfPeriod = day := by
  -- the last century and the last year of a span may have a day more, which the minima keep in them
  obtain ⟨c, r, hc, hcentury, hr⟩ : ∃ c r, day = 36524 * c + r ∧ (0 ≤ c ∧ c ≤ 3) ∧
      0 ≤ r ∧ (r < 36524 ∨ c = 3 ∧ r = 36524) :=
    ⟨min (day / 36524) 3, day - 36524 * min (day / 36524) 3, by omega, by omega, by omega⟩
  obtain ⟨q, s, hq, hspan, hs⟩ : ∃ q s, r = 1461 * q + s ∧ (0 ≤ q ∧ q ≤ 24) ∧ 0 ≤ s ∧ s < 1461 :=
    ⟨r / 1461, r % 1461, by omega, by omega, by omega⟩
  obtain ⟨k, d, hk, hyear, hd⟩ : ∃ k d, s = 365 * k + d ∧ (0 ≤ k ∧ k ≤ 3) ∧
      0 ≤ d ∧ (d < 365 ∨ k = 3 ∧ d = 365) :=
    ⟨min (s / 365) 3, s - 365 * min (s / 365) 3, by omega, by omega, by omega⟩
  exact ⟨⟨c, q, k, d, hcentury, hspan, hyear, hd.1, by omega⟩, by
    show 36524 * c + 1461 * q + 365 * k + d = day
    omega⟩

/-- The year of a day of a period: taking off the leap days that have passed leaves 365 days for
each year. -/
theorem year_eq (d : YearDay) :
    (d.dayOfPeriod - d.dayOfPeriod / 1460 + d.dayOfPeriod / 36524 - d.dayOfPeriod / 146096) / 365 =
      d.yearOfPeriod := by
  obtain ⟨c, q, k, d, hc, hq, hk, hd, hlast⟩ := d
  simp only [dayOfPeriod, yearOfPeriod]
  generalize hday : 36524 * c + 1461 * q + 365 * k + d = day
  have hrest : 1461 * q + 365 * k + d < 36524 ∨ c = 3 ∧ 1461 * q + 365 * k + d = 36524 := by
    omega
  -- on the last day of a period both quotients are one ahead
  have hcenturies : day / 36524 - day / 146096 = c := by
    rcases hrest with hrest | ⟨rfl, hrest⟩ <;> omega
  -- a span is a day longer than the divisor, so on its last days the quotient may be one ahead
  have hspans : day / 1460 = 25 * c + q ∧ d < 365 ∨ day / 1460 = 25 * c + q + 1 ∧ 0 < d := by
    rcases hlast with hlast | ⟨rfl, rfl, -⟩ <;> omega
  omega

/-- The days of the years before that of a day. -/
theorem daysBefore_eq (d : YearDay) :
    365 * d.yearOfPeriod + d.yearOfPeriod / 4 - d.yearOfPeriod / 100 = d.dayOfPeriod - d.day := by
  obtain ⟨c, q, k, d, hc, hq, hk, hd, hlast⟩ := d
  simp only [dayOfPeriod, yearOfPeriod]
  omega

/-- The month of the day, counted from March. -/
def month (d : YearDay) : ℤ :=
  (5 * d.day + 2) / 153

/-- The date of a day in a period. -/
def date (d : YearDay) (period : ℤ) : Date where
  year := d.yearOfPeriod + period * 400 + if d.month < 10 then 0 else 1
  month := (if d.month < 10 then d.month + 3 else d.month - 9).toNat
  day := (d.day - (153 * d.month + 2) / 5 + 1).toNat

theorem month_mem (d : YearDay) : 0 ≤ d.month ∧ d.month ≤ 11 := by
  obtain ⟨c, q, k, d, hc, hq, hk, hd, hlast⟩ := d
  simp only [month]
  omega

/-- In a year that starts in March, January and February belong to the year before. -/
theorem year_date (d : YearDay) (period : ℤ) :
    (if (d.date period).month ≤ 2 then (d.date period).year - 1 else (d.date period).year) =
      d.yearOfPeriod + period * 400 := by
  have hmonth := d.month_mem
  simp only [date]
  split <;> split at * <;> omega

theorem month_date (d : YearDay) (period : ℤ) :
    ((((d.date period).month + 9) % 12 : ℕ) : ℤ) = d.month := by
  have hmonth := d.month_mem
  simp only [date]
  split <;> omega

theorem day_date (d : YearDay) (period : ℤ) :
    ((d.date period).day : ℤ) = d.day - (153 * d.month + 2) / 5 + 1 := by
  have hday := d.day_nonneg
  simp only [date, month]
  omega

/-- A leap day is the last day of February of a leap year. -/
theorem isLeapYear_of_day (d : YearDay) (period : ℤ) (hday : d.day = 365) :
    isLeapYear (d.yearOfPeriod + period * 400 + 1) = true := by
  obtain ⟨c, q, k, d, hc, hq, hk, hd, hlast⟩ := d
  obtain ⟨-, hyear, hspan⟩ : d = 365 ∧ k = 3 ∧ (q < 24 ∨ c = 3) := hlast.resolve_left hday.not_lt
  simp only [isLeapYear_iff, yearOfPeriod]
  omega

/-- A day is not later than the last day of its month. -/
theorem length_month (d : YearDay) (period : ℤ) :
    d.day - (153 * d.month + 2) / 5 + 1 ≤
      daysInMonth (d.date period).year (d.date period).month := by
  have hindex : d.month = (5 * d.day + 2) / 153 := rfl
  obtain ⟨hmonth, hmonth'⟩ := d.month_mem
  -- February is the last month here, and its length depends on the year
  by_cases hfebruary : d.month = 11
  · have hlast := d.day_le
    simp only [daysInMonth, date, hfebruary]
    norm_num
    by_cases hday : d.day = 365
    · rw [if_pos (d.isLeapYear_of_day period hday)]
      omega
    · split <;> omega
  · interval_cases hm : d.month
    all_goals
      simp [daysInMonth, date, hm]
      omega

end YearDay

/-- The date of a day, by its place in the period. -/
theorem Date.exists_ofDays_eq (days : ℤ) :
    ∃ (period : ℤ) (d : YearDay), days + 719468 = period * 146097 + d.dayOfPeriod ∧
      Date.ofDays days = d.date period := by
  obtain ⟨d, hd⟩ := YearDay.exists_dayOfPeriod ((days + 719468) % 146097) (by omega)
  refine ⟨(days + 719468) / 146097, d, by omega, ?_⟩
  have hday : d.dayOfPeriod -
      (365 * d.yearOfPeriod + d.yearOfPeriod / 4 - d.yearOfPeriod / 100) = d.day := by
    rw [d.daysBefore_eq]
    omega
  have hmonth := d.month_mem
  simp only [YearDay.month] at hmonth
  simp only [Date.ofDays, YearDay.date, YearDay.month, ← hd, d.year_eq, hday]
  congr 1
  split <;> split <;> omega

/-- The calendar has the date of every day. -/
theorem Date.exists_ofDays (days : ℤ) : (Date.ofDays days).Exists := by
  obtain ⟨period, d, -, hdate⟩ := Date.exists_ofDays_eq days
  have hmonth := d.month_mem
  have hday := d.day_date period
  have hnonneg := d.day_nonneg
  have hindex : d.month = (5 * d.day + 2) / 153 := rfl
  rw [hdate]
  refine ⟨?_, ?_, by omega, ?_⟩
  · simp only [YearDay.date]
    split <;> omega
  · simp only [YearDay.date]
    split <;> omega
  · have hlength := d.length_month period
    omega

/-- The date of a day is the date of no other day. -/
theorem Date.toDays_ofDays (days : ℤ) : (Date.ofDays days).toDays = days := by
  obtain ⟨period, d, hdays, hdate⟩ := Date.exists_ofDays_eq days
  have hbefore := d.daysBefore_eq
  have hyears := d.yearOfPeriod_mem
  have hperiod : (d.yearOfPeriod + period * 400) / 400 = period := by omega
  have hyear : (d.yearOfPeriod + period * 400) % 400 = d.yearOfPeriod := by omega
  rw [hdate]
  simp only [Date.toDays, d.year_date, d.day_date, hperiod, hyear]
  rw [d.month_date]
  omega

/-- The days in the range of instants have years of at most six digits. -/
theorem Date.natAbs_year_ofDays_le {days : ℤ} (hdays : firstDay ≤ days ∧ days ≤ lastDay) :
    (Date.ofDays days).year.natAbs ≤ 999999 := by
  obtain ⟨period, d, hperiod, hdate⟩ := Date.exists_ofDays_eq days
  have hbefore := d.daysBefore_eq
  have hyears := d.yearOfPeriod_mem
  have hnonneg := d.day_nonneg
  have hlast := d.day_le
  rw [firstDay, lastDay] at hdays
  rw [hdate]
  simp only [YearDay.date]
  split <;> omega

end NewsFeed.Time
