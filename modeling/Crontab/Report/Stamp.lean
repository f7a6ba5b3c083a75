import Crontab.Calendar.Month
import Crontab.Numeral.Basic
import Crontab.Time.Moment

/-!
# Stamps

How reports tell times: a date alone, a date with the time of day to the second, a date in words,
and the distance of a time from now.

Years stand in reports without leading zeros, in contrast to ISO 8601.
-/

namespace Crontab

namespace Civil

/-- The date as `Y-MM-DD`. -/
def dateStamp (c : Civil) : Text :=
  natText c.date.year ++ "-" ++ paddedText 2 c.date.month ++ "-" ++ paddedText 2 c.date.day

/-- The time of day as `HH:MM`. -/
def timeStamp (c : Civil) : Text := paddedText 2 c.hour ++ ":" ++ paddedText 2 c.minute

/-- Date and time of day to the second. -/
def secondStamp (c : Civil) : Text :=
  c.dateStamp ++ " " ++ c.timeStamp ++ ":" ++ paddedText 2 c.second

/-- Weekday, date and time of day, with the names of weekday and month abbreviated. -/
def wordStamp (c : Civil) : Text :=
  shortName (dayName c.weekday) ++ ", " ++ shortName (monthName c.date.month) ++ " " ++
    paddedText 2 c.date.day ++ " " ++ natText c.date.year ++ " " ++ c.timeStamp

end Civil

/-! ## Distances -/

/-- How far a number of minutes, which is at least one, lies ahead: in minutes within an hour, in
hours and minutes within two days, and in full days beyond. -/
def minutesAhead (minutes : Nat) : Text :=
  if minutes < 60 then "in " ++ natText minutes ++ " min"
  else if minutes < 48 * 60 then
    "in " ++ natText (minutes / 60) ++ "h " ++ natText (minutes % 60) ++ "m"
  else "in " ++ natText (minutes / (24 * 60)) ++ " days"

/-- How far an instant lies ahead of another one; what is past lies ahead by less than a minute. -/
def aheadText (now instant : Int) : Text :=
  if instant - now < oneMinute then "in less than a minute"
  else minutesAhead ((instant - now) / oneMinute).toNat

end Crontab
