/-
This file proves that the numbering of days and the dates of the calendar agree. An era
of 400 years falls into centuries, the centuries into runs of four years, and these into
years; only the last year of each of them may have a day more than the others. From these
parts every quotient in the two conversions can be read off.
-/

import PlaylistRules.Calendar.Date

namespace PlaylistRules.Calendar.Date

/-! ### The parts of an era -/

/-- The centuries, runs of four years, years and days before a day of an era. -/
structure EraParts (dayOfEra century four year day : Int) : Prop where
  sum : dayOfEra = 36524 * century + 1461 * four + 365 * year + day
  centuryBounds : 0 ≤ century ∧ century ≤ 3
  fourBounds : 0 ≤ four ∧ four ≤ 24
  yearBounds : 0 ≤ year ∧ year ≤ 3
  dayBounds : 0 ≤ day ∧ day ≤ 365
  /-- The 366th day ends a leap year. -/
  last : day = 365 → year = 3 ∧ (four = 24 → century = 3)

theorem exists_eraParts {dayOfEra : Int} (nonnegative : 0 ≤ dayOfEra) (small : dayOfEra < 146097) :
    ∃ century four year day, EraParts dayOfEra century four year day := by
  obtain ⟨century, centuryEq⟩ : ∃ century, century = min (dayOfEra / 36524) 3 := ⟨_, rfl⟩
  obtain ⟨dayOfCentury, dayOfCenturyEq⟩ : ∃ day, day = dayOfEra - 36524 * century := ⟨_, rfl⟩
  have centuryBounds : 0 ≤ century ∧ century ≤ 3 := by omega
  have inCentury : 0 ≤ dayOfCentury ∧ dayOfCentury ≤ 36524 ∧
      (dayOfCentury = 36524 → century = 3) := by omega
  obtain ⟨four, fourEq⟩ : ∃ four, four = dayOfCentury / 1461 := ⟨_, rfl⟩
  obtain ⟨dayOfFour, dayOfFourEq⟩ : ∃ day, day = dayOfCentury - 1461 * four := ⟨_, rfl⟩
  have fourBounds : 0 ≤ four ∧ four ≤ 24 := by omega
  have inFour : 0 ≤ dayOfFour ∧ dayOfFour ≤ 1460 := by omega
  obtain ⟨year, yearEq⟩ : ∃ year, year = min (dayOfFour / 365) 3 := ⟨_, rfl⟩
  exact ⟨century, four, year, dayOfFour - 365 * year, by omega, centuryBounds, fourBounds,
    by omega, by omega, by omega⟩

/-- The correction for leap days leads to the year of the era. -/
theorem EraParts.yearOfEra {dayOfEra century four year day : Int}
    (parts : EraParts dayOfEra century four year day) :
    (dayOfEra - dayOfEra / 1460 + dayOfEra / 36524 - dayOfEra / 146096) / 365 =
      100 * century + 4 * four + year := by
  obtain ⟨sum, centuryBounds, fourBounds, yearBounds, dayBounds, last⟩ := parts
  -- A year is late if more leap days are behind it than its place in an era lets expect.
  obtain ⟨late, lateEq⟩ : ∃ late, late = (24 * century + four + 365 * year + day) / 1460 := ⟨_, rfl⟩
  obtain ⟨full, fullEq⟩ : ∃ full, full = (1461 * four + 365 * year + day) / 36524 := ⟨_, rfl⟩
  have fours : dayOfEra / 1460 = 25 * century + four + late := by omega
  have centuries : dayOfEra / 36524 = century + full := by omega
  have eras : dayOfEra / 146096 = full := by omega
  have inYear : 0 ≤ day - late ∧ day - late ≤ 364 := by omega
  rw [fours, centuries, eras, sum]
  omega

/-- The days before a year of an era. -/
theorem EraParts.dayOfYear {dayOfEra century four year day : Int}
    (parts : EraParts dayOfEra century four year day) :
    let yearOfEra := 100 * century + 4 * four + year
    dayOfEra - (365 * yearOfEra + yearOfEra / 4 - yearOfEra / 100) = day := by
  obtain ⟨sum, centuryBounds, fourBounds, yearBounds, dayBounds, last⟩ := parts
  intro yearOfEra
  have quarters : yearOfEra / 4 = 25 * century + four := by omega
  have hundreds : yearOfEra / 100 = century := by omega
  omega

theorem EraParts.yearOfEra_bounds {dayOfEra century four year day : Int}
    (parts : EraParts dayOfEra century four year day) :
    0 ≤ 100 * century + 4 * four + year ∧ 100 * century + 4 * four + year ≤ 399 := by
  obtain ⟨_, centuryBounds, fourBounds, yearBounds, _, _⟩ := parts
  omega

/-- A year of 366 days ends in the February of a leap year. -/
theorem EraParts.isLeap {dayOfEra century four year : Int}
    (parts : EraParts dayOfEra century four year 365) (era : Int) :
    isLeap (100 * century + 4 * four + year + era * 400 + 1) = true := by
  obtain ⟨rfl, lastFour⟩ := parts.last rfl
  simp only [Date.isLeap, Bool.and_eq_true, Bool.or_eq_true, beq_iff_eq, bne_iff_ne]
  refine ⟨by omega, ?_⟩
  obtain ⟨_, centuryBounds, fourBounds, _, _, _⟩ := parts
  by_cases lastOfCentury : four = 24
  · rw [lastOfCentury, lastFour lastOfCentury]
    exact .inr (by omega)
  · exact .inl (by omega)

/-! ### The parts of a year -/

/-- The date in a year counted from March, from the month counted from March and the day
of the month counted from zero. -/
def ofYearParts (year month day : Int) : Date :=
  if month < 10 then ⟨year, (month + 3).toNat, (day + 1).toNat⟩
  else ⟨year + 1, (month - 9).toNat, (day + 1).toNat⟩

/-- A day number taken apart: the era, the year of the era, and the day of the year. -/
structure DayParts (number era yearOfEra dayOfYear : Int) : Prop where
  sum : number = era * 146097 +
    (yearOfEra * 365 + yearOfEra / 4 - yearOfEra / 100 + dayOfYear) - 719468
  yearBounds : 0 ≤ yearOfEra ∧ yearOfEra ≤ 399
  dayBounds : 0 ≤ dayOfYear ∧ dayOfYear ≤ 365
  last : dayOfYear = 365 → isLeap (yearOfEra + era * 400 + 1) = true
  date : ofDayNumber number = ofYearParts (yearOfEra + era * 400) ((5 * dayOfYear + 2) / 153)
    (dayOfYear - (153 * ((5 * dayOfYear + 2) / 153) + 2) / 5)

theorem exists_dayParts (number : Int) :
    ∃ era yearOfEra dayOfYear, DayParts number era yearOfEra dayOfYear := by
  obtain ⟨dayOfEra, dayOfEraEq⟩ : ∃ day, day = (number + 719468) % 146097 := ⟨_, rfl⟩
  obtain ⟨century, four, year, day, parts⟩ :=
    exists_eraParts (show 0 ≤ dayOfEra by omega) (by omega)
  have dayOfYearEq := parts.dayOfYear
  have yearOfEraEq := parts.yearOfEra
  have last (isLast : day = 365) := (isLast ▸ parts).isLeap ((number + 719468) / 146097)
  have bounds := parts.yearOfEra_bounds
  dsimp only at dayOfYearEq
  generalize 100 * century + 4 * four + year = yearOfEra at *
  refine ⟨(number + 719468) / 146097, yearOfEra, day, ?_, bounds, parts.dayBounds, last, ?_⟩
  · clear yearOfEraEq
    omega
  · rw [ofDayNumber, ← dayOfEraEq, yearOfEraEq, dayOfYearEq, ofYearParts]

/-! ### Dates of day numbers -/

/-- The date of a day number has that day number. -/
theorem dayNumber_ofDayNumber (number : Int) : (ofDayNumber number).dayNumber = number := by
  obtain ⟨era, yearOfEra, dayOfYear, parts⟩ := exists_dayParts number
  obtain ⟨sum, yearBounds, dayBounds, _, date⟩ := parts
  obtain ⟨month, monthEq⟩ : ∃ month, month = (5 * dayOfYear + 2) / 153 := ⟨_, rfl⟩
  have monthBounds : 0 ≤ month ∧ month ≤ 11 := by omega
  have firstBefore : 0 ≤ dayOfYear - (153 * month + 2) / 5 := by omega
  have sameEra : (yearOfEra + era * 400) / 400 = era := by omega
  have sameYear : (yearOfEra + era * 400) % 400 = yearOfEra := by omega
  rw [date, ← monthEq, ofYearParts]
  split
  case isTrue early =>
    have shown : ¬(month + 3).toNat ≤ 2 := by omega
    have months : (((month + 3).toNat : Int) + 9) % 12 = month := by omega
    rw [dayNumber, if_neg shown, sameEra, sameYear, months]
    dsimp only
    omega
  case isFalse late =>
    have shown : (month - 9).toNat ≤ 2 := by omega
    have months : (((month - 9).toNat : Int) + 9) % 12 = month := by omega
    rw [dayNumber, if_pos shown, Int.add_sub_cancel, sameEra, sameYear, months]
    dsimp only
    omega

/-- The date of a day number exists. -/
theorem isValid_ofDayNumber (number : Int) : (ofDayNumber number).isValid = true := by
  obtain ⟨era, yearOfEra, dayOfYear, parts⟩ := exists_dayParts number
  obtain ⟨_, _, dayBounds, leap, date⟩ := parts
  obtain ⟨month, monthEq⟩ : ∃ month, month = (5 * dayOfYear + 2) / 153 := ⟨_, rfl⟩
  rw [date, ← monthEq]
  by_cases february : month = 11
  · subst february
    have shape : ofYearParts (yearOfEra + era * 400) 11 (dayOfYear - (153 * 11 + 2) / 5) =
        ⟨yearOfEra + era * 400 + 1, 2, (dayOfYear - 337 + 1).toNat⟩ := rfl
    have fits : (dayOfYear - 337 + 1).toNat ≤ monthLength (yearOfEra + era * 400 + 1) 2 := by
      rw [monthLength, if_pos rfl]
      by_cases isLast : dayOfYear = 365
      · rw [if_pos (leap isLast), isLast]
        decide
      · split <;> omega
    rw [shape]
    simp only [isValid, Bool.and_eq_true, decide_eq_true_eq]
    exact ⟨⟨⟨by decide, by decide⟩, by omega⟩, fits⟩
  · have months : month = 0 ∨ month = 1 ∨ month = 2 ∨ month = 3 ∨ month = 4 ∨ month = 5 ∨
        month = 6 ∨ month = 7 ∨ month = 8 ∨ month = 9 ∨ month = 10 := by omega
    rcases months with rfl | rfl | rfl | rfl | rfl | rfl | rfl | rfl | rfl | rfl | rfl
    all_goals
      simp [ofYearParts, isValid, monthLength]
      omega

end PlaylistRules.Calendar.Date
