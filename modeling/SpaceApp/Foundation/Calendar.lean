import Mathlib.Data.Rat.Floor

/-! UTC dates of millisecond times, as `Date` computes them (the proleptic Gregorian
calendar).
-/

set_option autoImplicit false

namespace SpaceApp.Foundation

structure UtcDate where
  year : Int
  month : Int
  day : Int
  deriving DecidableEq, Repr

def msPerDay : ℚ := 86400000

/-- The date of a day, counted from 1970-01-01. Years are taken from March on, so that the
leap day ends them, in eras of 400 years. -/
def civilDate (days : Int) : UtcDate :=
  let shifted := days + 719468
  let era := shifted / 146097
  let dayOfEra := shifted % 146097
  let yearOfEra := (dayOfEra - dayOfEra / 1460 + dayOfEra / 36524 - dayOfEra / 146096) / 365
  let dayOfYear := dayOfEra - (365 * yearOfEra + yearOfEra / 4 - yearOfEra / 100)
  let fromMarch := (5 * dayOfYear + 2) / 153
  let month := if fromMarch < 10 then fromMarch + 3 else fromMarch - 9
  { year := yearOfEra + era * 400 + if month ≤ 2 then 1 else 0
    month
    day := dayOfYear - (153 * fromMarch + 2) / 5 + 1 }

def utcDate (ms : ℚ) : UtcDate := civilDate ⌊ms / msPerDay⌋

def leapYear (year : Int) : Bool := year % 4 = 0 ∧ (year % 100 ≠ 0 ∨ year % 400 = 0)

def daysInMonth (year month : Int) : Int :=
  if month = 2 then if leapYear year then 29 else 28
  else if month = 4 ∨ month = 6 ∨ month = 9 ∨ month = 11 then 30
  else 31

/-- The day of a date, counted from 1970-01-01. The day of the month may be any number. -/
def dayOfCivil (year month day : Int) : Int :=
  let fromMarchYear := if month ≤ 2 then year - 1 else year
  let era := fromMarchYear / 400
  let yearOfEra := fromMarchYear % 400
  let fromMarch := if month ≤ 2 then month + 9 else month - 3
  era * 146097 + (yearOfEra * 365 + yearOfEra / 4 - yearOfEra / 100) + (153 * fromMarch + 2) / 5 + day - 719469

/-- Months count from 0, and one above 11 is in a later year. -/
def makeDay (year month day : Int) : Int := dayOfCivil (year + month / 12) (month % 12 + 1) day

/-- The years 0 to 99 are taken as 1900 to 1999. -/
def fullYear (year : Int) : Int := if 0 ≤ year ∧ year ≤ 99 then 1900 + year else year

def dateUTC (year month day hour minute second : Int) : Int :=
  makeDay (fullYear year) month day * 86400000 + hour * 3600000 + minute * 60000 + second * 1000

theorem era_parts {dayOfEra : Int} (low : 0 ≤ dayOfEra) (high : dayOfEra < 146097) :
    ∃ century quad year rest : Int, 0 ≤ century ∧ century ≤ 3 ∧ 0 ≤ quad ∧ quad ≤ 24 ∧ 0 ≤ year ∧ year ≤ 3 ∧
      0 ≤ rest ∧ (rest ≤ 364 ∨ (rest = 365 ∧ year = 3 ∧ (quad < 24 ∨ century = 3))) ∧
      dayOfEra = 36524 * century + 1461 * quad + 365 * year + rest := by
  have centuries : ∃ century inCentury : Int, 0 ≤ century ∧ century ≤ 3 ∧ 0 ≤ inCentury ∧
      (inCentury ≤ 36523 ∨ (inCentury = 36524 ∧ century = 3)) ∧ dayOfEra = 36524 * century + inCentury := by
    by_cases last : dayOfEra = 146096
    · exact ⟨3, 36524, by omega, by omega, by omega, by omega, by omega⟩
    · exact ⟨dayOfEra / 36524, dayOfEra % 36524, by omega, by omega, by omega, by omega, by omega⟩
  obtain ⟨century, inCentury, hc0, hc3, hi0, hi, rfl⟩ := centuries
  have years : ∃ year rest : Int, 0 ≤ year ∧ year ≤ 3 ∧ 0 ≤ rest ∧ (rest ≤ 364 ∨ (rest = 365 ∧ year = 3)) ∧
      inCentury % 1461 = 365 * year + rest := by
    by_cases last : inCentury % 1461 = 1460
    · exact ⟨3, 365, by omega, by omega, by omega, by omega, by omega⟩
    · exact ⟨inCentury % 1461 / 365, inCentury % 1461 % 365, by omega, by omega, by omega, by omega, by omega⟩
  obtain ⟨year, rest, hy0, hy3, hr0, hr, parts⟩ := years
  refine ⟨century, inCentury / 1461, year, rest, hc0, hc3, by omega, by omega, hy0, hy3, hr0, ?_, by omega⟩
  rcases hr with short | ⟨long, third⟩
  · exact .inl short
  · exact .inr ⟨long, third, by omega⟩

theorem yearOfEra_parts {century quad year rest : Int} (hc0 : 0 ≤ century) (hc3 : century ≤ 3) (hq0 : 0 ≤ quad) (hq : quad ≤ 24)
    (hy0 : 0 ≤ year) (hy3 : year ≤ 3) (hr0 : 0 ≤ rest) (hr : rest ≤ 364 ∨ (rest = 365 ∧ year = 3 ∧ (quad < 24 ∨ century = 3)))
    {dayOfEra : Int} (parts : dayOfEra = 36524 * century + 1461 * quad + 365 * year + rest) :
    (dayOfEra - dayOfEra / 1460 + dayOfEra / 36524 - dayOfEra / 146096) / 365 = 100 * century + 4 * quad + year := by
  have hundreds : dayOfEra / 36524 - dayOfEra / 146096 = century := by
    have inside : dayOfEra ≤ 36524 * century + 36523 ∨ century = 3 := by omega
    have above : 36524 * century ≤ dayOfEra ∧ dayOfEra ≤ 146096 := by omega
    clear parts
    have centuries : century = 0 ∨ century = 1 ∨ century = 2 ∨ century = 3 := by omega
    rcases centuries with rfl | rfl | rfl | rfl
    · omega
    · omega
    · omega
    · omega
  have number : ∃ years, years = 100 * century + 4 * quad + year := ⟨_, rfl⟩
  obtain ⟨years, number⟩ := number
  rw [← number]
  -- a leap day is counted away by the division by 1460 when it is reached
  by_cases reached : 24 * century + quad + 365 * year + rest < 1460
  · have fourth : dayOfEra / 1460 = 25 * century + quad := by
      clear hundreds hr number
      omega
    have short : rest ≤ 364 := by omega
    have days : dayOfEra - dayOfEra / 1460 + dayOfEra / 36524 - dayOfEra / 146096 = 365 * years + rest := by
      rw [fourth]
      omega
    clear fourth hundreds parts number hr
    omega
  · have fourth : dayOfEra / 1460 = 25 * century + quad + 1 := by
      clear hundreds number
      omega
    have long : 1 ≤ rest ∧ rest ≤ 365 := by omega
    have days : dayOfEra - dayOfEra / 1460 + dayOfEra / 36524 - dayOfEra / 146096 = 365 * years + (rest - 1) := by
      rw [fourth]
      omega
    clear fourth hundreds parts number hr
    omega

theorem dayOfCivil_marched {era yearOfEra fromMarch : Int} (low : 0 ≤ fromMarch) (high : fromMarch ≤ 11)
    (year0 : 0 ≤ yearOfEra) (year : yearOfEra < 400) (day : Int) :
    let month := if fromMarch < 10 then fromMarch + 3 else fromMarch - 9
    dayOfCivil (yearOfEra + era * 400 + if month ≤ 2 then 1 else 0) month day =
      era * 146097 + (yearOfEra * 365 + yearOfEra / 4 - yearOfEra / 100) + (153 * fromMarch + 2) / 5 + day - 719469 := by
  dsimp only
  by_cases early : fromMarch < 10
  · have late : ¬ fromMarch + 3 ≤ 2 := by omega
    have years : (yearOfEra + era * 400) / 400 = era ∧ (yearOfEra + era * 400) % 400 = yearOfEra := by omega
    simp only [early, if_true, late, if_false, dayOfCivil, add_zero, years.1, years.2, add_sub_cancel_right]
  · have january : fromMarch - 9 ≤ 2 := by omega
    have years : (yearOfEra + era * 400) / 400 = era ∧ (yearOfEra + era * 400) % 400 = yearOfEra := by omega
    simp only [early, if_true, january, if_false, dayOfCivil, add_sub_cancel_right, years.1, years.2, sub_add_cancel]

theorem civilDate_marched (days : Int) :
    ∃ era yearOfEra fromMarch rest : Int, 0 ≤ yearOfEra ∧ yearOfEra < 400 ∧ 0 ≤ fromMarch ∧ fromMarch ≤ 11 ∧
      0 ≤ rest ∧ rest ≤ 365 ∧ days = era * 146097 + (yearOfEra * 365 + yearOfEra / 4 - yearOfEra / 100) + rest - 719468 ∧
      civilDate days =
        { year := yearOfEra + era * 400 + if (if fromMarch < 10 then fromMarch + 3 else fromMarch - 9) ≤ 2 then 1 else 0
          month := if fromMarch < 10 then fromMarch + 3 else fromMarch - 9
          day := rest - (153 * fromMarch + 2) / 5 + 1 } := by
  have low : 0 ≤ (days + 719468) % 146097 := by omega
  have high : (days + 719468) % 146097 < 146097 := by omega
  have whole : days + 719468 = 146097 * ((days + 719468) / 146097) + (days + 719468) % 146097 := by omega
  simp only [civilDate]
  generalize (days + 719468) / 146097 = era at whole
  generalize (days + 719468) % 146097 = dayOfEra at low high whole
  obtain ⟨century, quad, year, rest, hc0, hc3, hq0, hq, hy0, hy3, hr0, hr, parts⟩ := era_parts low high
  have yearOfEra := yearOfEra_parts hc0 hc3 hq0 hq hy0 hy3 hr0 hr parts
  have quads : (100 * century + 4 * quad + year) / 4 = 25 * century + quad := by omega
  have centuries : (100 * century + 4 * quad + year) / 100 = century := by omega
  have dayOfYear : dayOfEra - (365 * (100 * century + 4 * quad + year) + (25 * century + quad) - century) = rest := by
    omega
  have short : rest ≤ 365 := by omega
  have months : 0 ≤ (5 * rest + 2) / 153 ∧ (5 * rest + 2) / 153 ≤ 11 := by
    clear parts whole dayOfYear hr yearOfEra quads centuries low high
    omega
  rw [yearOfEra, quads, centuries, dayOfYear]
  refine ⟨era, 100 * century + 4 * quad + year, (5 * rest + 2) / 153, rest, ?_, ?_, months.1, months.2, hr0, short, ?_, rfl⟩
  · clear parts whole dayOfYear hr yearOfEra
    omega
  · clear parts whole dayOfYear hr yearOfEra
    omega
  · rw [quads, centuries]
    clear yearOfEra months hr
    omega

theorem dayOfCivil_civilDate (days : Int) :
    dayOfCivil (civilDate days).year (civilDate days).month (civilDate days).day = days := by
  obtain ⟨era, yearOfEra, fromMarch, rest, year0, year, low, high, rest0, short, whole, date⟩ := civilDate_marched days
  rw [date, dayOfCivil_marched low high year0 year]
  dsimp only
  omega

theorem civilDate_month (days : Int) : 1 ≤ (civilDate days).month ∧ (civilDate days).month ≤ 12 := by
  obtain ⟨era, yearOfEra, fromMarch, rest, year0, year, low, high, rest0, short, whole, date⟩ := civilDate_marched days
  rw [date]
  dsimp only
  split <;> omega

theorem civilDate_year {days : Int} (late : -682500 ≤ days) : 100 ≤ (civilDate days).year := by
  obtain ⟨era, yearOfEra, fromMarch, rest, year0, year, low, high, rest0, short, whole, date⟩ := civilDate_marched days
  have years : 100 ≤ yearOfEra + era * 400 := by
    by_cases early : era < 0
    · omega
    · omega
  rw [date]
  dsimp only
  split <;> omega

theorem makeDay_civilDate (days : Int) :
    makeDay (civilDate days).year ((civilDate days).month - 1) (civilDate days).day = days := by
  obtain ⟨low, high⟩ := civilDate_month days
  have month : ((civilDate days).month - 1) / 12 = 0 ∧ ((civilDate days).month - 1) % 12 = (civilDate days).month - 1 := by
    omega
  rw [makeDay, month.1, month.2, add_zero, sub_add_cancel, dayOfCivil_civilDate]

theorem makeDay_later (year month day later : Int) : makeDay year month (day + later) = makeDay year month day + later := by
  simp only [makeDay, dayOfCivil]
  omega

example : utcDate 0 = ⟨1970, 1, 1⟩ ∧ utcDate 951825600000 = ⟨2000, 2, 29⟩ ∧
    utcDate 1793059199999 = ⟨2026, 10, 26⟩ := by decide +kernel

end SpaceApp.Foundation
