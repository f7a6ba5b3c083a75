import Crontab.Ascending
import Crontab.Calendar.Month
import Crontab.Dialect.Format

/-!
# Calendar events

The calendar events of systemd timers: an optional list of weekdays, a date and a time, as in
`Mon,Wed *-*-1 9:30:00`.

Writing takes the fields as they are: weekdays by name, the date as `*` when it puts no condition,
hour and minute with their steps.  Reading is lenient.  Every word is taken for a list of weekdays,
a date or a time by the characters that it holds; a word that is none of these is passed over, and
so is a weekday that cannot be read.  Ranges of weekdays run forward through the week and may go
past Saturday (`weekdaysBetween`).
-/

namespace Crontab.OnCalendar

/-- The names of the weekdays in calendar events. -/
def weekdayNames : List Text := dayNames.map shortName

/-! ## Writing -/

/-- The numbers of a field, or `*`. -/
def values (f : Field) : Text :=
  if f.isAny then "*" else Text.join "," (f.values.map natText)

/-- The numbers of a field, or `*`, or the field as it is written when it has a step. -/
def valuesOrStep (f : Field) : Text :=
  if !f.isAny && f.hasStep then f.raw else values f

/-- The list of weekdays, if they put a condition. -/
def weekdayPart (f : Fields) : List Text :=
  if f.dayOfWeek.isAny then []
  else [Text.join "," (f.dayOfWeek.values.map fun d => shortName (dayName d))]

/-- The date. -/
def datePart (f : Fields) : Text :=
  if f.month.isAny && f.dayOfMonth.isAny then "*"
  else "*-" ++ values f.month ++ "-" ++ values f.dayOfMonth

/-- The time of day. -/
def timePart (f : Fields) : Text := valuesOrStep f.hour ++ ":" ++ valuesOrStep f.minute ++ ":00"

/-- The calendar event. -/
def write (f : Fields) : Text := Text.join " " (weekdayPart f ++ [datePart f, timePart f])

/-- Write an expression as a calendar event. -/
def ofCron (s : Text) : Except Fault Conversion :=
  Conversion.fromText .systemd s (.done ⟨.systemd, "@reboot", none, none, some .onBoot, false⟩)
    fun e f => ⟨.systemd, write f, none, some e.sentence, some .onCalendar, true⟩

/-! ## Weekdays -/

/-- The weekday whose name a text starts with, in any case of its letters. -/
def weekday? (s : Text) : Option Nat :=
  weekdayNames.findIdx? fun n => Text.lower n == Text.lower (s.take 3)

/-- The weekdays from one to another, walking forward through the week. -/
def weekdaysBetween (first last : Nat) : List Nat :=
  (List.range ((last + 7 - first) % 7 + 1)).map fun i => (first + i) % 7

/-- The weekdays of one part of a list: a name, or two names with two dots between them.  A part
that does not start with names gives none. -/
def weekdaysOfPart (part : Text) : List Nat :=
  match Text.cut ".." part with
  | (first, none) => (weekday? first).toList
  | (first, some last) =>
    match weekday? first, weekday? last with
    | some a, some b => weekdaysBetween a b
    | _, _ => []

/-- The weekdays of a list with commas, in ascending order. -/
def weekdays (s : Text) : List Nat := ascending ((Text.pieces ',' s).flatMap weekdaysOfPart)

/-! ## Reading -/

/-- The calendar events that have a name, and the fields that they stand for. -/
def presets : List (Text × List Text) :=
  [("minutely", ["*", "*", "*", "*", "*"]), ("hourly", ["0", "*", "*", "*", "*"]),
    ("daily", ["0", "0", "*", "*", "*"]), ("weekly", ["0", "0", "*", "*", "0"]),
    ("monthly", ["0", "0", "1", "*", "*"]), ("yearly", ["0", "0", "1", "1", "*"]),
    ("annually", ["0", "0", "1", "1", "*"])]

/-- The texts of five fields, as far as they have been read. -/
structure Parts where
  minute : Text
  hour : Text
  dayOfMonth : Text
  month : Text
  dayOfWeek : Text
  deriving DecidableEq, Repr

namespace Parts

/-- Before anything is read, no field puts a condition. -/
def free : Parts := ⟨"*", "*", "*", "*", "*"⟩

/-- The texts in the order of the fields. -/
def toList (p : Parts) : List Text := [p.minute, p.hour, p.dayOfMonth, p.month, p.dayOfWeek]

/-- A text that puts a condition, or else the one from before. -/
def orBefore (s before : Text) : Text := if s = "*" then before else s

/-- Take in a list of weekdays. -/
def readWeekdays (p : Parts) (word : Text) : Parts :=
  match weekdays word with
  | [] => p
  | ds => { p with dayOfWeek := Text.join "," (ds.map natText) }

/-- Take in a date: month and day are its last two parts. -/
def readDate (p : Parts) (word : Text) : Parts :=
  match (Text.pieces '-' word).reverse with
  | day :: month :: _ =>
    { p with month := orBefore month p.month, dayOfMonth := orBefore day p.dayOfMonth }
  | _ => p

/-- Take in a time: hour and minute are its first two parts. -/
def readTime (p : Parts) (word : Text) : Parts :=
  match Text.pieces ':' word with
  | hour :: minute :: _ =>
    { p with hour := orBefore hour p.hour, minute := orBefore minute p.minute }
  | _ => p

/-- Take in one word: a list of weekdays if the name of a weekday is in it, a date if it has a
hyphen and no colon, and a time if it has a colon. -/
def readWord (p : Parts) (word : Text) : Parts :=
  if weekdayNames.any fun n => Text.occursIn n word then p.readWeekdays word
  else if word.contains '-' && !word.contains ':' then p.readDate word
  else if word.contains ':' then p.readTime word
  else p

end Parts

/-- The text of a calendar event without the name of the setting in front of it. -/
def eventText (s : Text) : Text :=
  let s := Text.trim s
  if (Text.skip? "oncalendar=" (Text.lower s)).isSome then
    Text.trim (((Text.cut "=" s).2).getD [])
  else s

/-- Read a calendar event. -/
def toCron (s : Text) : Except Fault Conversion :=
  let event := eventText s
  match presets.lookup (Text.lower event) with
  | some fields => Conversion.ofFieldTexts fields none true
  | none =>
    Conversion.ofFieldTexts ((Text.words event).foldl Parts.readWord .free).toList
      (some .bestEffort) false

end Crontab.OnCalendar
