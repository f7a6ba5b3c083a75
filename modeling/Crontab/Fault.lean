import Crontab.Numeral.Basic
import Crontab.Text.Quoted

/-!
# Faults

Malformed schedules are ordinary results: they are reported by the value that reading returns.  A
`Fault` is what stops a computation altogether.  Each constructor names a cause with the data that
its message needs; the wording of all of them is `Fault.message`.
-/

namespace Crontab

/-- The causes for which a computation gives no result. -/
inductive Fault where
  /-- Something of another kind was given where a text is needed. -/
  | notText (kind : Text)
  /-- A run of digits too long to be read as a number. -/
  | numeralTooLong (digits : Nat)
  /-- A date or time outside the years 1 to 9999 came up. -/
  | dateOutOfRange
  /-- The year of a local time is not one of 1 to 9999. -/
  | yearOutOfRange (year : Int)
  /-- No time zone has this name. -/
  | unknownZone (name : Text)
  /-- The settings cannot be used, for these reasons. -/
  | badSettings (reasons : List Text)
  /-- The name stands for something that is no level of severity. -/
  | notALevel (shown : Text)
  /-- The name stands for the table of all layouts of journal entries, which is no level either. -/
  | layoutTable
  deriving DecidableEq, Repr

/-- The largest number of digits that is read as a number. -/
def digitLimit : Nat := 4300

namespace Fault

/-- The wording of a fault. -/
def message : Fault → Text
  | notText kind => "expression must be a string, got " ++ kind
  | numeralTooLong digits =>
    "Exceeds the limit (" ++ natText digitLimit ++
      " digits) for integer string conversion: value has " ++ natText digits ++
      " digits; use sys.set_int_max_str_digits() to increase the limit"
  | dateOutOfRange => "date value out of range"
  | yearOutOfRange year => "year " ++ intText year ++ " is out of range"
  | unknownZone name => "Unknown timezone: " ++ Text.quoted name
  | badSettings reasons => "Invalid configuration: " ++ Text.join "; " reasons
  | notALevel shown => "Unknown level: " ++ Text.quoted shown
  | layoutTable => "Level not an integer or a valid string"

end Fault

end Crontab
