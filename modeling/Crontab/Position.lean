import Crontab.Text.Lower

/-!
# The five positions

An expression has five fields, told apart by their position: minute, hour, day of the month, month
and day of the week.  A position fixes the bounds of its numbers and the names that may stand for
them.  Weekdays count from Sunday, which is both 0 and 7.
-/

namespace Crontab

/-- The positions of an expression, in the order in which they are written. -/
inductive Position where
  | minute
  | hour
  | dayOfMonth
  | month
  | dayOfWeek
  deriving DecidableEq, Repr

namespace Position

/-- All positions, in order. -/
def all : List Position := [minute, hour, dayOfMonth, month, dayOfWeek]

/-- The name that records use for a position. -/
def key : Position → Text
  | minute => "minute"
  | hour => "hour"
  | dayOfMonth => "dayOfMonth"
  | month => "month"
  | dayOfWeek => "dayOfWeek"

/-- The name that messages use for a position. -/
def label : Position → Text
  | minute => "minute"
  | hour => "hour"
  | dayOfMonth => "day of month"
  | month => "month"
  | dayOfWeek => "day of week"

/-- The position that records call by this name. -/
def ofKey? (k : Text) : Option Position := all.find? fun p => p.key == k

@[simp] theorem ofKey?_key (p : Position) : ofKey? p.key = some p := by
  cases p <;> decide

/-! ## Bounds -/

/-- The least number of a position. -/
def least : Position → Nat
  | minute => 0
  | hour => 0
  | dayOfMonth => 1
  | month => 1
  | dayOfWeek => 0

/-- The greatest number of a position. -/
def greatest : Position → Nat
  | minute => 59
  | hour => 23
  | dayOfMonth => 31
  | month => 12
  | dayOfWeek => 7

/-- Whether a number is within the bounds of a position. -/
def inBounds (p : Position) (v : Nat) : Bool := decide (p.least ≤ v) && decide (v ≤ p.greatest)

theorem inBounds_iff {p : Position} {v : Nat} :
    p.inBounds v = true ↔ p.least ≤ v ∧ v ≤ p.greatest := by
  simp [inBounds]

/-- The number that is stored for a number of a position: Sunday is always 0. -/
def stored (p : Position) (v : Nat) : Nat := if p = dayOfWeek ∧ v = 7 then 0 else v

/-! ## Names -/

/-- The names that may stand for numbers at a position, in lower case. -/
def names : Position → List (Text × Nat)
  | month =>
    [("jan", 1), ("feb", 2), ("mar", 3), ("apr", 4), ("may", 5), ("jun", 6), ("jul", 7),
      ("aug", 8), ("sep", 9), ("oct", 10), ("nov", 11), ("dec", 12)]
  | dayOfWeek =>
    [("sun", 0), ("mon", 1), ("tue", 2), ("wed", 3), ("thu", 4), ("fri", 5), ("sat", 6)]
  | _ => []

end Position

end Crontab
