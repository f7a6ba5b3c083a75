import Crontab.Text.Lower
import Crontab.Text.Scan
import Crontab.Time.Iso
import Crontab.Zone.History

/-!
# Dates as users write them

A date that is given to be tested may be written in several ways, which are tried one after the
other:

1. six numeric layouts, year first with hyphens or slashes or month first with slashes, each with
   or without hour and minute (`Layout`),
2. the notation of ISO 8601,
3. the words `today`, `tomorrow`, `yesterday` and `now`,
4. the name of a month with a day and perhaps a year.

Numbers of layouts and of the last form may be written in the digits of any script.
-/

namespace Crontab

namespace DateText

/-! ## Numbers of a layout -/

/-- Read a digit of ASCII between two others, ends included. -/
def digitFrom? (low high : Char) : Text → Option (Nat × Text)
  | c :: s => if low ≤ c ∧ c ≤ high then some (c.toNat - '0'.toNat, s) else none
  | [] => none

/-- Read one decimal digit. -/
def decimalDigit? : Text → Option (Nat × Text)
  | c :: s => (Text.decimal? c).map fun n => (n, s)
  | [] => none

/-- Read a digit between two ASCII digits and a second digit. -/
def twoDigits? (low high : Char) (second : Text → Option (Nat × Text)) (s : Text) :
    Option (Nat × Text) := do
  let (a, s) ← digitFrom? low high s
  let (b, s) ← second s
  return (10 * a + b, s)

/-- Read exactly `n` decimal digits. -/
def decimalNumber? (n : Nat) (s : Text) : Option (Nat × Text) :=
  if s.length < n then none
  else if (s.take n).all Text.isDecimal then some (Text.decimalsValue (s.take n), s.drop n)
  else none

/-- Read a year: four digits. -/
def year? (s : Text) : Option (Nat × Text) := decimalNumber? 4 s

/-- Read a month: as many digits of `10` to `12`, `01` to `09` or `1` to `9` as possible. -/
def month? (s : Text) : Option (Nat × Text) :=
  (twoDigits? '1' '1' (digitFrom? '0' '2') s).or <|
  (twoDigits? '0' '0' (digitFrom? '1' '9') s).or <|
  digitFrom? '1' '9' s

/-- Read a day of the month: as many digits of `30`, `31`, `10` to `29`, `01` to `09` or `1` to `9`
as possible, or a blank and one digit. -/
def day? (s : Text) : Option (Nat × Text) :=
  (twoDigits? '3' '3' (digitFrom? '0' '1') s).or <|
  (twoDigits? '1' '2' decimalDigit? s).or <|
  (twoDigits? '0' '0' (digitFrom? '1' '9') s).or <|
  (digitFrom? '1' '9' s).or <|
  (Text.skip? " " s).bind (digitFrom? '1' '9')

/-- Read an hour: as many digits of `20` to `23`, `00` to `19` or one digit as possible. -/
def hour? (s : Text) : Option (Nat × Text) :=
  (twoDigits? '2' '2' (digitFrom? '0' '3') s).or <|
  (twoDigits? '0' '1' decimalDigit? s).or <|
  decimalDigit? s

/-- Read a minute: as many digits of `00` to `59` or one digit as possible. -/
def minute? (s : Text) : Option (Nat × Text) :=
  (twoDigits? '0' '5' decimalDigit? s).or (decimalDigit? s)

/-! ## Layouts -/

/-- The order of the numbers of a date, and what stands between them. -/
inductive DateOrder where
  | yearMonthDay (sep : Char)
  | monthDayYear (sep : Char)
  deriving DecidableEq, Repr

/-- A layout: a date, with a time of day behind it or not. -/
structure Layout where
  date : DateOrder
  withTime : Bool
  deriving DecidableEq, Repr

/-- The layouts in the order in which they are tried. -/
def layouts : List Layout :=
  [⟨.yearMonthDay '-', true⟩, ⟨.yearMonthDay '-', false⟩,
    ⟨.monthDayYear '/', true⟩, ⟨.monthDayYear '/', false⟩,
    ⟨.yearMonthDay '/', true⟩, ⟨.yearMonthDay '/', false⟩]

/-- Read the numbers of a date. -/
def DateOrder.read? (o : DateOrder) (s : Text) : Option (Date × Text) :=
  match o with
  | .yearMonthDay sep => do
    let (y, s) ← year? s
    let s ← Text.skip? [sep] s
    let (m, s) ← month? s
    let s ← Text.skip? [sep] s
    let (d, s) ← day? s
    return (⟨y, m, d⟩, s)
  | .monthDayYear sep => do
    let (m, s) ← month? s
    let s ← Text.skip? [sep] s
    let (d, s) ← day? s
    let s ← Text.skip? [sep] s
    let (y, s) ← year? s
    return (⟨y, m, d⟩, s)

/-- The reading at a time of day on a date of the calendar. -/
def wallOf? (d : Date) (h m : Nat) : Option Int :=
  if d.isValid then some (wallAt d.toDay h m 0 0) else none

/-- Read a text in a layout; nothing may be left over. -/
def Layout.read? (l : Layout) (s : Text) : Option Int := do
  let (date, s) ← l.date.read? s
  if l.withTime then
    let s ← Text.skipBlanks? s
    let (h, s) ← hour? s
    let s ← Text.skip? ":" s
    let (m, s) ← minute? s
    if s.isEmpty then wallOf? date h m else none
  else if s.isEmpty then wallOf? date 0 0
  else none

/-! ## Words and month names -/

/-- The number of the month whose name a text starts with, and the text behind that word. -/
def monthWord? (s : Text) : Option (Nat × Text) :=
  (monthNames.findIdx? fun n => Text.lower (shortName n) == s.take 3).map fun i =>
    (i + 1, (s.drop 3).dropWhile Text.isWord)

/-- Read a year that ends a text, behind a comma or not, and behind blanks or not. -/
def finalYear? (s : Text) : Option Nat :=
  match year? (Text.trimLeft (Text.skipOptional "," s)) with
  | some (y, []) => some y
  | _ => none

/-- The rest of a month-and-day text when `n` digits are read for the day: nothing, or a year. -/
def dayAndYear? (n : Nat) (s : Text) : Option (Nat × Option Nat) := do
  let (d, s) ← decimalNumber? n s
  if s.isEmpty then some (d, none)
  else (finalYear? s).map fun y => (d, some y)

/-- Read a month by its name, a day and perhaps a year; without one it is the given year. -/
def monthDay? (thisYear : Nat) (s : Text) : Option Date := do
  let (month, s) ← monthWord? s
  let s ← Text.skipBlanks? s
  let (day, year?) ← (dayAndYear? 2 s).or (dayAndYear? 1 s)
  return ⟨year?.getD thisYear, month, day⟩

/-- The reading that the clocks show now, cut to the minute. -/
def nowReading (place : History) (now : Int) : DateTime :=
  let w := now + place.offsetAt now
  .reading (minuteOf w * oneMinute)
    (match place.offsetOfHere w false with
      | .ok offset => decide (offset ≠ place.offsetAt now)
      | .error _ => false)

/-- The reading that a word stands for; the neighbouring days have to exist, whichever is meant. -/
def wordReading? (place : History) (now : Int) (s : Text) : Except Fault (Option DateTime) := do
  let today := startOfDay (now + place.offsetAt now)
  let tomorrow ← onLine (today + oneDay)
  let yesterday ← onLine (today - oneDay)
  return ([("today".toList, DateTime.reading today false), ("tomorrow".toList, .reading tomorrow false),
    ("yesterday".toList, .reading yesterday false), ("now".toList, nowReading place now)] :
      List (Text × DateTime)).lookup s

end DateText

/-- Read a date as a user writes it, at a place and an instant. -/
def DateTime.ofText? (place : History) (now : Int) (text : Text) :
    Except Fault (Option DateTime) := do
  let s := Text.trim text
  match DateText.layouts.findSome? fun l => l.read? s with
  | some w => return some (.reading w false)
  | none =>
    match DateTime.ofIso? s with
    | some t => return some t
    | none =>
      match ← DateText.wordReading? place now (Text.lower s) with
      | some t => return some t
      | none =>
        let thisYear := (Civil.ofWall (now + place.offsetAt now)).date.year
        return (DateText.monthDay? thisYear (Text.lower s)).bind fun d =>
          (DateText.wallOf? d 0 0).map fun w => .reading w false

end Crontab
