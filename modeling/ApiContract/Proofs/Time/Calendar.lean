import ApiContract.Time.Calendar
import Mathlib.Tactic.IntervalCases
import Mathlib.Tactic.Ring

/-!
# Days and dates

The date of a day exists in the calendar, and its day is that day.  An era of 400 years
falls into centuries, cycles of four years and years, each of which begins on the first of
March, so that a leap day comes last wherever there is one.
-/

namespace ApiContract.CalendarDate

/-- The date of a day of a year that begins on the first of March. -/
def inMarchYear (year day : Int) : CalendarDate :=
  let month := (5 * day + 2) / 153
  let calendarMonth := if month < 10 then month + 3 else month - 9
  { year := year + (if calendarMonth ≤ 2 then 1 else 0)
    month := calendarMonth.toNat
    day := (day - (153 * month + 2) / 5 + 1).toNat }

/-! ## Days of a year -/

variable {year day : Int}

/-- The number of the month, counted from March, in which a day of the year lies. -/
theorem marchMonth_bounds (lower : 0 ≤ day) (upper : day ≤ 365) :
    0 ≤ (5 * day + 2) / 153 ∧ (5 * day + 2) / 153 ≤ 11 := by
  omega

theorem toDays_inMarchYear (year : Int) (lower : 0 ≤ day) (upper : day ≤ 365) :
    (inMarchYear year day).toDays =
      year / 400 * 146097 +
        (year % 400 * 365 + year % 400 / 4 - year % 400 / 100 + day) - 719468 := by
  rcases marchMonth_bounds lower upper with ⟨first, last⟩
  obtain ⟨month, number⟩ : ∃ month, (5 * day + 2) / 153 = month := exists_eq'
  rw [number] at first last
  simp only [inMarchYear, toDays, number]
  interval_cases month <;> simp <;> omega

/-- A day of the year has a date, the last of 366 only where the year ends with a leap day. -/
theorem exists_inMarchYear (lower : 0 ≤ day) (upper : day ≤ 365)
    (leap : day = 365 → isLeapYear (year + 1)) : (inMarchYear year day).exists_ := by
  rcases marchMonth_bounds lower upper with ⟨first, last⟩
  obtain ⟨month, number⟩ : ∃ month, (5 * day + 2) / 153 = month := exists_eq'
  rw [number] at first last
  have short : isLeapYear (year + 1) = false → day ≠ 365 := by
    intro ordinary isLast
    rw [leap isLast] at ordinary
    cases ordinary
  simp only [inMarchYear, exists_, daysInMonth, number]
  interval_cases month <;> cases isLeap : isLeapYear (year + 1) <;>
    simp [isLeap] at short ⊢ <;> omega

/-! ## Days of an era -/

/-- The place of a day in an era: in a century, in a cycle of four years, in a year that
begins in March.  A century ends without a leap day unless the era ends with it. -/
structure EraParts (dayOfEra century cycle year day : Int) : Prop where
  whole : dayOfEra = 36524 * century + 1461 * cycle + 365 * year + day
  centuries : 0 ≤ century ∧ century ≤ 3
  cycles : 0 ≤ cycle ∧ cycle ≤ 24
  years : 0 ≤ year ∧ year ≤ 3
  days : 0 ≤ day ∧ day ≤ 365
  leap : day = 365 → year = 3 ∧ (cycle = 24 → century = 3)

variable {dayOfEra century cycle : Int}

theorem exists_eraParts (lower : 0 ≤ dayOfEra) (upper : dayOfEra < 146097) :
    ∃ century cycle year day, EraParts dayOfEra century cycle year day := by
  by_cases isLast : dayOfEra = 146096
  · exact ⟨3, 24, 3, 365, by omega, by omega, by omega, by omega, by omega, by omega⟩
  · have inCentury := Int.mul_ediv_add_emod dayOfEra 36524
    have inCycle := Int.mul_ediv_add_emod (dayOfEra % 36524) 1461
    by_cases isLeap : dayOfEra % 36524 % 1461 = 1460
    · exact ⟨dayOfEra / 36524, dayOfEra % 36524 / 1461, 3, 365, by omega, by omega, by omega,
        by omega, by omega, by omega⟩
    · exact ⟨dayOfEra / 36524, dayOfEra % 36524 / 1461, dayOfEra % 36524 % 1461 / 365,
        dayOfEra % 36524 % 1461 % 365, by omega, by omega, by omega, by omega, by omega,
        by omega⟩

theorem EraParts.bounds (parts : EraParts dayOfEra century cycle year day) :
    0 ≤ dayOfEra ∧ dayOfEra < 146097 := by
  rcases parts with ⟨rfl, centuries, cycles, years, days, leap⟩
  omega

/-- The corrections for leap days, taken from the day alone, lead to its year. -/
theorem EraParts.yearOfEra (parts : EraParts dayOfEra century cycle year day) :
    (dayOfEra - dayOfEra / 1460 + dayOfEra / 36524 - dayOfEra / 146096) / 365 =
      100 * century + 4 * cycle + year := by
  rcases parts with ⟨rfl, centuries, cycles, years, days, leap⟩
  by_cases isLast : century = 3 ∧ cycle = 24 ∧ year = 3 ∧ day = 365
  · rcases isLast with ⟨rfl, rfl, rfl, rfl⟩
    decide
  · -- A cycle is a day longer than four years of 365, which tells on its last days.
    let excess := 24 * century + cycle + 365 * year + day
    have noEra : (36524 * century + 1461 * cycle + 365 * year + day) / 146096 = 0 := by omega
    have isCentury : (36524 * century + 1461 * cycle + 365 * year + day) / 36524 = century := by
      omega
    have isCycle : (36524 * century + 1461 * cycle + 365 * year + day) / 1460 =
        25 * century + cycle + excess / 1460 := by omega
    have inYear : 0 ≤ day - excess / 1460 ∧ day - excess / 1460 < 365 := by omega
    rw [noEra, isCentury, isCycle]
    omega

/-- What is left of a day of an era after the years before its own is its day of the year. -/
theorem EraParts.dayOfYear (parts : EraParts dayOfEra century cycle year day) :
    dayOfEra - (365 * (100 * century + 4 * cycle + year) +
      (100 * century + 4 * cycle + year) / 4 - (100 * century + 4 * cycle + year) / 100) = day := by
  rcases parts with ⟨rfl, centuries, cycles, years, days, leap⟩
  omega

/-- Only a leap year has a last day of 366. -/
theorem isLeapYear_of_eraParts (era : Int) (parts : EraParts dayOfEra century cycle year day)
    (isLast : day = 365) :
    isLeapYear (400 * era + (100 * century + 4 * cycle + year) + 1) := by
  rcases parts.leap isLast with ⟨fourth, full⟩
  have inCentury := parts.centuries
  have inCycle := parts.cycles
  simp only [isLeapYear, Bool.and_eq_true, Bool.or_eq_true, beq_iff_eq, bne_iff_ne]
  omega

theorem ofDays_of_eraParts {days era : Int} (shifted : days + 719468 = 146097 * era + dayOfEra)
    (parts : EraParts dayOfEra century cycle year day) :
    ofDays days = inMarchYear (400 * era + (100 * century + 4 * cycle + year)) day := by
  have inEra := parts.bounds
  have isEra : (days + 719468) / 146097 = era := by omega
  have isDay : (days + 719468) % 146097 = dayOfEra := by omega
  simp only [ofDays, isEra, isDay, parts.yearOfEra, parts.dayOfYear, inMarchYear]
  congr 1
  ring

/-! ## All days -/

/-- Every day has its date in a year that begins in March. -/
theorem exists_ofDays_eq (days : Int) :
    ∃ year day, ofDays days = inMarchYear year day ∧ (0 ≤ day ∧ day ≤ 365) ∧
      (day = 365 → isLeapYear (year + 1)) ∧
      days = year / 400 * 146097 +
        (year % 400 * 365 + year % 400 / 4 - year % 400 / 100 + day) - 719468 := by
  have lower : 0 ≤ (days + 719468) % 146097 := Int.emod_nonneg _ (by decide)
  have upper : (days + 719468) % 146097 < 146097 := Int.emod_lt_of_pos _ (by decide)
  have shifted := (Int.mul_ediv_add_emod (days + 719468) 146097).symm
  rcases exists_eraParts lower upper with ⟨century, cycle, year, day, parts⟩
  refine ⟨_, day, ofDays_of_eraParts shifted parts, parts.days, ?_, ?_⟩
  · intro isLast
    exact isLeapYear_of_eraParts _ parts isLast
  · have inEra : 0 ≤ 100 * century + 4 * cycle + year ∧ 100 * century + 4 * cycle + year < 400 := by
      rcases parts with ⟨_, centuries, cycles, years, _, _⟩
      omega
    have counted := parts.dayOfYear
    generalize 100 * century + 4 * cycle + year = yearOfEra at inEra counted ⊢
    rw [Int.mul_add_ediv_left _ _ (by decide), Int.mul_add_emod_self_left,
      Int.ediv_eq_zero_of_lt inEra.1 inEra.2, Int.emod_eq_of_lt inEra.1 inEra.2]
    omega

theorem toDays_ofDays (days : Int) : (ofDays days).toDays = days := by
  rcases exists_ofDays_eq days with ⟨year, day, dated, ⟨lower, upper⟩, _, counted⟩
  rw [dated, toDays_inMarchYear year lower upper, ← counted]

theorem exists_ofDays (days : Int) : (ofDays days).exists_ := by
  rcases exists_ofDays_eq days with ⟨year, day, dated, ⟨lower, upper⟩, leap, _⟩
  rw [dated]
  exact exists_inMarchYear lower upper leap

end ApiContract.CalendarDate
