import Crontab.Text.Lower
import Crontab.Text.Scan

/-!
# Times of day

A time of day as it stands in a phrase: one or two digits for the hour, two for the minutes behind a
colon if they are given, and `am` or `pm` if it is told on the twelve-hour clock, with blanks in
front of it or not.
-/

namespace Crontab

/-- A time of day. -/
structure TimeOfDay where
  hour : Nat
  minute : Nat
  deriving DecidableEq, Repr

/-- The halves of the day on the twelve-hour clock. -/
inductive HalfDay where
  | am
  | pm
  deriving DecidableEq, Repr

/-- A time of day as it is written, which need not be one that exists. -/
structure WrittenTime where
  hour : Nat
  minute : Nat
  half : Option HalfDay
  deriving DecidableEq, Repr

namespace WrittenTime

/-- Read the half of the day, if it is given. -/
def readHalf (s : Text) : Option HalfDay × Text :=
  match Text.skip? "am" s, Text.skip? "pm" s with
  | some r, _ => (some .am, r)
  | none, some r => (some .pm, r)
  | none, none => (none, s)

/-- Read the minutes, if they are given: a colon and two digits. -/
def readMinute (s : Text) : Nat × Text :=
  match s with
  | ':' :: a :: b :: r =>
    if Text.isDecimal a && Text.isDecimal b then (Text.decimalsValue [a, b], r) else (0, s)
  | _ => (0, s)

/-- Read a time in front of a text. -/
def read? (s : Text) : Option (WrittenTime × Text) :=
  match Text.upToTwoDecimals? s with
  | none => none
  | some (hour, s) =>
    let (minute, s) := readMinute s
    let (half, s) := readHalf (Text.trimLeft s)
    some (⟨Text.decimalsValue hour, minute, half⟩, s)

/-- The time that is meant, if there is one: on the twelve-hour clock hours go up to twelve, twelve
itself comes first in its half of the day, and the other hours of the second half count from
twelve. -/
def toTime? (t : WrittenTime) : Option TimeOfDay :=
  let hour :=
    match t.half with
    | some .pm => if t.hour < 12 then t.hour + 12 else t.hour
    | some .am => if t.hour = 12 then 0 else t.hour
    | none => t.hour
  if t.half.isSome ∧ 12 < t.hour then none
  else if hour ≤ 23 ∧ t.minute ≤ 59 then some ⟨hour, t.minute⟩
  else none

end WrittenTime

namespace TimeOfDay

/-- Read a text that is a time of day and nothing else, blanks around it aside. -/
def read? (s : Text) : Option TimeOfDay :=
  match WrittenTime.read? (Text.trim (Text.lower s)) with
  | some (t, []) => t.toTime?
  | _ => none

/-- The time that a phrase gives behind the first `at` that a number follows. -/
def atClause? (s : Text) : Option TimeOfDay :=
  (Text.find?
    (fun before s => do
      let s ← Text.wordStart? "at" before s
      let s ← Text.skipBlanks? s
      let (t, _) ← WrittenTime.read? s
      return t) s).bind WrittenTime.toTime?

end TimeOfDay

end Crontab
