import FederatedSearch.Time.Instant
import Mathlib.Tactic.IntervalCases

/-!
Civil dates. The date that is found for a day has the number of the day, and a month and a day
that the calendar has.
-/

namespace FederatedSearch.Time

/-- A day of an era but the last one: its place in the centuries of 36524 days, in the cycles of
1461 days and in the years of 365 days. -/
theorem day_of_era_cases {day : Nat} (within : day < 146096) :
    ∃ century cycle year rest, century ≤ 3 ∧ cycle ≤ 24 ∧ year ≤ 3 ∧ rest ≤ 365 ∧
      day = 36524 * century + 1461 * cycle + 365 * year + rest ∧
      (rest = 365 → year = 3 ∧ cycle ≠ 24) ∧
      (day - day / 1460 + day / 36524 - day / 146096) / 365 =
        100 * century + 4 * cycle + year := by
  have parts : ∃ century cycle left, century ≤ 3 ∧ cycle ≤ 24 ∧ left ≤ 1460 ∧
      36524 * century + 1461 * cycle + left = day ∧ 1461 * cycle + left ≤ 36523 := by
    refine ⟨day / 36524, day % 36524 / 1461, day % 36524 % 1461, ?_⟩
    omega
  obtain ⟨century, cycle, left, few, few', few'', rfl, last⟩ := parts
  have third : (36524 * century + 1461 * cycle + left) / 36524 = century := by omega
  have fourth : (36524 * century + 1461 * cycle + left) / 146096 = 0 := by omega
  rw [third, fourth]
  rcases Nat.lt_or_ge (24 * century + cycle + left) 1460 with early | late
  · refine ⟨century, cycle, left / 365, left % 365, ?_⟩
    omega
  · refine ⟨century, cycle, 3, left - 1095, ?_⟩
    omega

/-- A year of an era, counted from March as the days of it, and how many days have passed in it. -/
structure IsDayOfEra (day year rest : Nat) : Prop where
  year_lt : year < 400
  rest_le : rest ≤ 365
  leap : rest = 365 → isLeapYear (year + 1) = true
  day_eq : day = 365 * year + year / 4 - year / 100 + rest

theorem day_of_era {day : Nat} (within : day < 146097) :
    ∃ rest, IsDayOfEra day ((day - day / 1460 + day / 36524 - day / 146096) / 365) rest := by
  rcases Nat.lt_or_ge day 146096 with earlier | last
  · obtain ⟨century, cycle, year, rest, few, few', few'', short, parts, leap, found⟩ :=
      day_of_era_cases earlier
    rw [found]
    clear found
    have quarter : (100 * century + 4 * cycle + year) / 4 = 25 * century + cycle := by omega
    have hundredth : (100 * century + 4 * cycle + year) / 100 = century := by omega
    refine ⟨rest, by omega, short, ?_, by omega⟩
    intro long
    obtain ⟨rfl, notLast⟩ := leap long
    have fourth : ((100 * century + 4 * cycle + 3 : ℕ) + 1 : ℤ) % 4 = 0 := by omega
    have uneven : ((100 * century + 4 * cycle + 3 : ℕ) + 1 : ℤ) % 100 ≠ 0 := by omega
    simp only [isLeapYear, fourth, beq_self_eq_true, Bool.true_and, Bool.or_eq_true, bne_iff_ne]
    exact .inl uneven
  · obtain rfl : day = 146096 := by omega
    exact ⟨365, by decide, by decide, by decide, by decide⟩

def monthFromMarch (rest : Nat) : Nat := (5 * rest + 2) / 153

theorem month_from_march_bounds {rest : Nat} (short : rest ≤ 365) :
    monthFromMarch rest ≤ 11 ∧ daysFromMarch (monthFromMarch rest) ≤ rest ∧
      rest < daysFromMarch (monthFromMarch rest + 1) := by
  unfold monthFromMarch daysFromMarch
  omega

/-- The date of a day that lies so far in a year of an era, which begins in March. -/
def dateInEra (era : Int) (year rest : Nat) : CivilDate :=
  let day := rest - daysFromMarch (monthFromMarch rest) + 1
  if monthFromMarch rest < 10 then ⟨era * 400 + year, monthFromMarch rest + 3, day⟩
  else ⟨era * 400 + year + 1, monthFromMarch rest - 9, day⟩

theorem of_day_number_eq (number : Int) :
    ∃ era day year rest, IsDayOfEra day year rest ∧ number = era * 146097 + day - 719468 ∧
      CivilDate.ofDayNumber number = dateInEra era year rest := by
  have within : ((number + 719468) % 146097).toNat < 146097 := by omega
  obtain ⟨rest, isDay⟩ := day_of_era within
  refine ⟨(number + 719468) / 146097, _, _, rest, isDay, by omega, ?_⟩
  have inMonths := (month_from_march_bounds isDay.rest_le).1
  have days := isDay.day_eq
  have gone (base : Nat) (same : ((number + 719468) % 146097).toNat = base + rest) :
      ((number + 719468) % 146097).toNat - base = rest := by omega
  have counted : (5 * rest + 2) / 153 = monthFromMarch rest := rfl
  simp only [CivilDate.ofDayNumber, dateInEra, gone _ days, counted]
  by_cases early : monthFromMarch rest < 10
  · have later : ¬ monthFromMarch rest + 3 ≤ 2 := by omega
    simp only [if_pos early, if_neg later]
  · have first : monthFromMarch rest - 9 ≤ 2 := by omega
    simp only [if_neg early, if_pos first]

section

variable {era : Int} {day year rest : Nat}

theorem day_number_in_era (isDay : IsDayOfEra day year rest) :
    (dateInEra era year rest).dayNumber = era * 146097 + day - 719468 := by
  obtain ⟨inMonths, begun, -⟩ := month_from_march_bounds isDay.rest_le
  have few := isDay.year_lt
  have days := isDay.day_eq
  unfold dateInEra
  generalize monthFromMarch rest = month at inMonths begun ⊢
  by_cases early : month < 10
  · have later : ¬ month + 3 ≤ 2 := by omega
    have fromMarch : (month + 3 + 9) % 12 = month := by omega
    simp only [if_pos early, CivilDate.dayNumber, daysToMarch, if_neg later, fromMarch]
    omega
  · have first : month - 9 ≤ 2 := by omega
    have fromMarch : (month - 9 + 9) % 12 = month := by omega
    simp only [if_neg early, CivilDate.dayNumber, daysToMarch, if_pos first, fromMarch]
    omega

theorem leap_in_era (era : Int) (year : Nat) :
    isLeapYear (era * 400 + year + 1) = isLeapYear (year + 1) := by
  have fourth : (era * 400 + year + 1) % 4 = (year + 1 : Int) % 4 := by omega
  have hundredth : (era * 400 + year + 1) % 100 = (year + 1 : Int) % 100 := by omega
  have last : (era * 400 + year + 1) % 400 = (year + 1 : Int) % 400 := by omega
  rw [isLeapYear, isLeapYear, fourth, hundredth, last]

theorem days_of_month {month : Nat} (inMonths : month ≤ 10) (year : Int) :
    daysFromMarch (month + 1) - daysFromMarch month =
      daysInMonth year (if month < 10 then month + 3 else month - 9) := by
  interval_cases month <;> rfl

theorem date_in_era_exists (isDay : IsDayOfEra day year rest)
    (kept : isYearInRange (dateInEra era year rest).year = true) :
    (dateInEra era year rest).exists = true := by
  obtain ⟨inMonths, begun, ends⟩ := month_from_march_bounds isDay.rest_le
  have short := isDay.rest_le
  have leap := isDay.leap
  simp only [CivilDate.exists, kept, Bool.true_and, Bool.and_eq_true, decide_eq_true_eq]
  unfold dateInEra at kept ⊢
  generalize monthFromMarch rest = month at inMonths begun ends kept ⊢
  rcases Nat.lt_or_ge month 11 with before | february
  · have length := days_of_month (Nat.le_of_lt_succ before)
    by_cases early : month < 10
    · simp only [if_pos early] at kept length ⊢
      have inDays := length (era * 400 + year)
      omega
    · simp only [if_neg early] at kept length ⊢
      have inDays := length (era * 400 + year + 1)
      omega
  · obtain rfl : month = 11 := by omega
    have begins : daysFromMarch 11 = 337 := rfl
    simp only [Nat.reduceLT, Nat.reduceSub, if_false, begins] at begun ⊢
    have days : rest - 337 + 1 ≤ daysInMonth (era * 400 + year + 1) 2 := by
      simp only [daysInMonth, if_true, leap_in_era]
      rcases Nat.lt_or_ge rest 365 with usual | last
      · split <;> omega
      · rw [if_pos (leap (le_antisymm short last))]
        omega
    omega

end

/-- The date of a day has the number of the day. -/
theorem day_number_of_day_number (number : Int) :
    (CivilDate.ofDayNumber number).dayNumber = number := by
  obtain ⟨era, day, year, rest, isDay, same, found⟩ := of_day_number_eq number
  rw [found, day_number_in_era isDay, same]

theorem exists_of_day_number {number : Int}
    (kept : isYearInRange (CivilDate.ofDayNumber number).year = true) :
    (CivilDate.ofDayNumber number).exists = true := by
  obtain ⟨era, day, year, rest, isDay, -, found⟩ := of_day_number_eq number
  rw [found] at kept ⊢
  exact date_in_era_exists isDay kept

end FederatedSearch.Time
