/-!
The Gregorian calendar from year 1 to year 9999. Days are numbered from 0001-01-01, which is day 0
and a Monday. `ofDay` undoes `Date.day`, and ISO weeks are turned into the same day numbers.
-/
namespace Rollup.Calendar

/-- Every fourth year has a leap day, but of the full centuries only every fourth. -/
def isLeap (year : Nat) : Bool :=
  year % 4 == 0 && (year % 100 != 0 || year % 400 == 0)

/-- The lengths of a year's months. -/
def monthLengths (year : Nat) : List Nat :=
  [31, if isLeap year then 29 else 28, 31, 30, 31, 30, 31, 31, 30, 31, 30, 31]

/-- The days before a year begins. -/
def daysBefore (year : Nat) : Nat :=
  let past := year - 1
  365 * past + past / 4 - past / 100 + past / 400

/-- How many days the years 1 to 9999 have. -/
def dayCount : Nat := 3652059

/-- A date by year, month and day of the month. -/
structure Date where
  year : Nat
  month : Nat
  day : Nat
deriving DecidableEq, Repr

/-- Whether the calendar has that date. -/
def Date.isValid (d : Date) : Bool :=
  decide (1 ≤ d.year ∧ d.year ≤ 9999 ∧ 1 ≤ d.month ∧ 1 ≤ d.day) &&
    match (monthLengths d.year)[d.month - 1]? with
    | some length => decide (d.day ≤ length)
    | none => false

/-- The number of a date's day. -/
def Date.dayNumber (d : Date) : Nat :=
  daysBefore d.year + ((monthLengths d.year).take (d.month - 1)).foldl (· + ·) 0 + (d.day - 1)

/-- Splits a day of the year into the month's place and the day's place in it, both from 0. -/
def splitMonths : List Nat → Nat → Nat × Nat
  | [], day => (0, day)
  | length :: rest, day =>
    if day < length then (0, day)
    else
      let inner := splitMonths rest (day - length)
      (inner.1 + 1, inner.2)

/-- The year that a day lies in, and the day's place in that year from 0. -/
def splitYears (day : Nat) : Nat × Nat :=
  let eras := day / 146097
  let inEra := day % 146097
  let centuries := min (inEra / 36524) 3
  let inCentury := inEra - 36524 * centuries
  let cycles := inCentury / 1461
  let inCycle := inCentury % 1461
  let years := min (inCycle / 365) 3
  (400 * eras + 100 * centuries + 4 * cycles + years + 1, inCycle - 365 * years)

/-- The date of a day. -/
def ofDay (day : Nat) : Date :=
  let year := splitYears day
  let place := splitMonths (monthLengths year.1) year.2
  ⟨year.1, place.1 + 1, place.2 + 1⟩

/-- The days before a year, by the parts of the year's place in its 400-year era. -/
theorem daysBefore_parts {eras centuries cycles years : Nat} (hc : centuries ≤ 3) (hq : cycles ≤ 24)
    (hy : years ≤ 3) :
    daysBefore (400 * eras + 100 * centuries + 4 * cycles + years + 1) =
      146097 * eras + 36524 * centuries + 1461 * cycles + 365 * years := by
  have quarter : (400 * eras + 100 * centuries + 4 * cycles + years) / 4 =
      100 * eras + 25 * centuries + cycles := by omega
  have century : (400 * eras + 100 * centuries + 4 * cycles + years) / 100 =
      4 * eras + centuries := by omega
  have era : (400 * eras + 100 * centuries + 4 * cycles + years) / 400 = eras := by omega
  simp only [daysBefore, Nat.add_sub_cancel, quarter, century, era]
  omega

/-- A day is the start of its year and its place in the year. -/
theorem daysBefore_splitYears (day : Nat) :
    daysBefore (splitYears day).1 + (splitYears day).2 = day := by
  have centuries := Nat.min_le_right (day % 146097 / 36524) 3
  have years := Nat.min_le_right ((day % 146097 - 36524 * min (day % 146097 / 36524) 3) % 1461 / 365) 3
  have cycles : (day % 146097 - 36524 * min (day % 146097 / 36524) 3) / 1461 ≤ 24 := by omega
  simp only [splitYears]
  rw [daysBefore_parts centuries cycles years]
  omega

/-- The weekday of a day, Monday being 0. -/
def weekday (day : Nat) : Nat := day % 7

/-- How many ISO weeks a year has: 53 if it starts on a Thursday, or on the Wednesday of a leap
year. -/
def weekCount (year : Nat) : Nat :=
  let start := weekday (daysBefore year)
  if start = 3 || (start == 2 && isLeap year) then 53 else 52

/-- The Monday of a year's first ISO week, the one that holds the year's first Thursday. It may lie
before the first day of the calendar's count, so it is an integer. -/
def firstMonday (year : Nat) : Int :=
  let start := daysBefore year
  let shift := weekday start
  (start : Int) - shift + (if 3 < shift then 7 else 0)

/-- The date of a day of an ISO week, if the year has that week and the calendar that day. -/
def ofWeek? (year week weekdayNumber : Nat) : Option Date :=
  if 1 ≤ year ∧ year ≤ 9999 ∧ 1 ≤ week ∧ week ≤ weekCount year ∧ 1 ≤ weekdayNumber ∧
      weekdayNumber ≤ 7 then
    let day := firstMonday year + 7 * ((week : Int) - 1) + ((weekdayNumber : Int) - 1)
    if 0 ≤ day ∧ day < dayCount then some (ofDay day.toNat) else none
  else none

end Rollup.Calendar
