import Crontab.Calendar.Month

/-!
# Dates

The Gregorian calendar, extended backwards to the year 1.  Days are counted from 1 January of the
year 1, which is day 0 and a Monday.  `Date.toDay` and `Date.ofDay` go between a date and its day
number, and `weekday` is read off the day number.

The year of a day is found from the mean length of a year, which misses by at most one
(`daysBeforeYear_yearOfDay_le`, `lt_daysBeforeYear_succ_yearOfDay`); the month by taking off the
lengths of the months before.
-/

namespace Crontab

/-! ## Years -/

/-- Whether a year has a 29 February. -/
def isLeap (year : Nat) : Bool :=
  decide (year % 4 = 0) && (decide (year % 100 ≠ 0) || decide (year % 400 = 0))

/-- The number of days before 1 January of a year, counted from the year 1. -/
def daysBeforeYear (year : Nat) : Nat :=
  365 * (year - 1) + (year - 1) / 4 - (year - 1) / 100 + (year - 1) / 400

/-- The year that a day lies in. -/
def yearOfDay (day : Nat) : Nat :=
  let guess := 400 * day / 146097 + 1
  if day < daysBeforeYear guess then guess - 1
  else if daysBeforeYear (guess + 1) ≤ day then guess + 1
  else guess

theorem daysBeforeYear_yearOfDay_le (day : Nat) : daysBeforeYear (yearOfDay day) ≤ day := by
  unfold yearOfDay
  generalize hg : 400 * day / 146097 = g
  dsimp only
  split
  · next h => unfold daysBeforeYear at *; omega
  · split
    · next h => exact h
    · next h _ => exact Nat.le_of_not_lt h

theorem lt_daysBeforeYear_succ_yearOfDay (day : Nat) :
    day < daysBeforeYear (yearOfDay day + 1) := by
  unfold yearOfDay
  generalize hg : 400 * day / 146097 = g
  dsimp only
  split
  · next h => simpa using h
  · split
    · next h => unfold daysBeforeYear at *; omega
    · next _ h => exact Nat.lt_of_not_le h

/-! ## Months -/

/-- The month that the `day`-th day from the start of a list of months lies in, and how many days of
that month are before it; the first of the listed months has the number `month`. -/
def monthOfDay : List Nat → Nat → Nat → Nat × Nat
  | [], month, day => (month, day)
  | length :: lengths, month, day =>
    if day < length then (month, day) else monthOfDay lengths (month + 1) (day - length)

/-- The number of days in the first `count` of a list of months. -/
def daysOfMonths : List Nat → (count : Nat) → Nat
  | [], _ => 0
  | _ :: _, 0 => 0
  | length :: lengths, count + 1 => length + daysOfMonths lengths count

/-! ## Dates -/

/-- A date of the calendar. -/
structure Date where
  year : Nat
  month : Nat
  day : Nat
  deriving DecidableEq, Repr

namespace Date

/-- Whether the calendar has this date: the month is one of twelve, the month has the day, and the
year is at least 1. -/
def isValid (d : Date) : Bool :=
  decide (1 ≤ d.year) && decide (1 ≤ d.day) && decide (d.day ≤ daysInMonth (isLeap d.year) d.month)

/-- The number of a date's day. -/
def toDay (d : Date) : Nat :=
  daysBeforeYear d.year + daysOfMonths (monthLengths (isLeap d.year)) (d.month - 1) + (d.day - 1)

/-- The date of a day number. -/
def ofDay (day : Nat) : Date :=
  let year := yearOfDay day
  let place := monthOfDay (monthLengths (isLeap year)) 1 (day - daysBeforeYear year)
  ⟨year, place.1, place.2 + 1⟩

end Date

/-- The weekday of a day number, counted from Sunday as 0. -/
def weekday (day : Nat) : Nat := (day + 1) % 7

theorem weekday_lt (day : Nat) : weekday day < 7 := Nat.mod_lt _ (by decide)

/-! ## Weeks of the year -/

/-- The number of the Monday that the first week of a year starts on: the week of 4 January. -/
def firstMonday (year : Nat) : Int :=
  let newYear : Int := daysBeforeYear year
  newYear + 3 - (newYear + 3) % 7

/-- The number of weeks of a year: 53 if it starts on a Thursday, or in a leap year on a Wednesday,
and 52 otherwise. -/
def weeksInYear (year : Nat) : Nat :=
  let first := weekday (daysBeforeYear year)
  if first = 4 ∨ (first = 3 ∧ isLeap year = true) then 53 else 52

/-- The day number of a weekday, counted from Monday as 1, in a numbered week of a year. -/
def dayOfWeekDate? (year week day : Nat) : Option Int :=
  if 1 ≤ week ∧ week ≤ weeksInYear year ∧ 1 ≤ day ∧ day ≤ 7 then
    some (firstMonday year + 7 * ((week : Int) - 1) + ((day : Int) - 1))
  else none

end Crontab
