import Crontab.Text.Basic

/-!
# Months and weekdays

Lengths and English names of the months of the Gregorian calendar, counted from 1, and the names of
the weekdays, counted from Sunday as 0.
-/

namespace Crontab

/-- The lengths of the months in a common or a leap year. -/
def monthLengths (leap : Bool) : List Nat :=
  [31, if leap then 29 else 28, 31, 30, 31, 30, 31, 31, 30, 31, 30, 31]

/-- The number of days of a month, counted from 1; there are none outside the twelve months. -/
def daysInMonth (leap : Bool) (month : Nat) : Nat :=
  match month with
  | 0 => 0
  | m + 1 => (monthLengths leap).getD m 0

theorem daysInMonth_le (leap : Bool) (month : Nat) : daysInMonth leap month ≤ 31 := by
  unfold daysInMonth
  split
  · omega
  · next m =>
    by_cases h : m < 12
    · have : ∀ b : Bool, ∀ i < 12, (monthLengths b).getD i 0 ≤ 31 := by decide
      exact this leap m h
    · have hlen : (monthLengths leap).length ≤ m := by simp [monthLengths]; omega
      simp [List.getElem?_eq_none hlen]

/-- The English names of the months, January first. -/
def monthNames : List Text :=
  ["January", "February", "March", "April", "May", "June", "July", "August", "September",
    "October", "November", "December"]

/-- The English name of a month, counted from 1. -/
def monthName (month : Nat) : Text := monthNames.getD (month - 1) []

/-- The English names of the weekdays, Sunday first. -/
def dayNames : List Text :=
  ["Sunday", "Monday", "Tuesday", "Wednesday", "Thursday", "Friday", "Saturday"]

/-- The English name of a weekday, counted from Sunday as 0. -/
def dayName (weekday : Nat) : Text := dayNames.getD weekday []

/-- The usual abbreviation of the name of a month or a weekday. -/
def shortName (name : Text) : Text := name.take 3

end Crontab
