import Crontab.Fault
import Crontab.Text.Blank

/-!
# Reading numbers

A field of an expression reads its numbers with `readNat?`: ASCII digits, with blanks around them
allowed.  What is not of this form is no number; a run of more than `digitLimit` digits is of the
form, but stops the computation.
-/

namespace Crontab

/-- The number that a run of ASCII digits denotes, if the run is not too long. -/
def readDigits (s : Text) : Except Fault Nat :=
  if s.length ≤ digitLimit then .ok (digitsValue s) else .error (.numeralTooLong s.length)

/-- The number written in a text, blanks around it aside; `none` if it is not a run of digits. -/
def readNat? (s : Text) : Except Fault (Option Nat) :=
  if Text.isDigits (Text.trim s) then return some (← readDigits (Text.trim s)) else return none

theorem readDigits_of_length_le {s : Text} (h : s.length ≤ digitLimit) :
    readDigits s = .ok (digitsValue s) := by
  simp [readDigits, h]

@[simp] theorem readNat?_nil : readNat? [] = .ok none := rfl

end Crontab
