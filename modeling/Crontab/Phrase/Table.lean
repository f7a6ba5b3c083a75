import Crontab.Numeral.Basic
import Crontab.Phrase.TimeOfDay

/-!
# Set phrases

Some phrases have a fixed meaning, wherever in a text they stand.  They are tried in the order of
the table, and the first one that occurs decides; an `at` clause beside it changes the time of day
of its template.
-/

namespace Crontab

/-- Five field texts, not yet read as fields. -/
structure Template where
  minute : Text
  hour : Text
  dayOfMonth : Text
  month : Text
  dayOfWeek : Text
  deriving DecidableEq, Repr

namespace Template

/-- The template as one text. -/
def text (t : Template) : Text :=
  Text.join " " [t.minute, t.hour, t.dayOfMonth, t.month, t.dayOfWeek]

/-- The template at another time of day. -/
def atTime (t : Template) (time : TimeOfDay) : Template :=
  { t with minute := natText time.minute, hour := natText time.hour }

/-- Every minute. -/
def everyMinute : Template := ⟨"*", "*", "*", "*", "*"⟩

end Template

/-- The set phrases with their templates. -/
def setPhrases : List (Text × Template) :=
  [("every minute", ⟨"*", "*", "*", "*", "*"⟩),
    ("every hour", ⟨"0", "*", "*", "*", "*"⟩),
    ("hourly", ⟨"0", "*", "*", "*", "*"⟩),
    ("every day", ⟨"0", "0", "*", "*", "*"⟩),
    ("daily", ⟨"0", "0", "*", "*", "*"⟩),
    ("every week", ⟨"0", "0", "*", "*", "0"⟩),
    ("weekly", ⟨"0", "0", "*", "*", "0"⟩),
    ("every month", ⟨"0", "0", "1", "*", "*"⟩),
    ("monthly", ⟨"0", "0", "1", "*", "*"⟩),
    ("every year", ⟨"0", "0", "1", "1", "*"⟩),
    ("yearly", ⟨"0", "0", "1", "1", "*"⟩),
    ("annually", ⟨"0", "0", "1", "1", "*"⟩),
    ("at midnight", ⟨"0", "0", "*", "*", "*"⟩),
    ("midnight", ⟨"0", "0", "*", "*", "*"⟩),
    ("at noon", ⟨"0", "12", "*", "*", "*"⟩),
    ("noon", ⟨"0", "12", "*", "*", "*"⟩),
    ("weekdays", ⟨"0", "9", "*", "*", "1-5"⟩),
    ("weekends", ⟨"0", "9", "*", "*", "0,6"⟩),
    ("every weekday", ⟨"0", "9", "*", "*", "1-5"⟩),
    ("every weekend", ⟨"0", "9", "*", "*", "0,6"⟩),
    ("business hours", ⟨"0", "9-17", "*", "*", "1-5"⟩),
    ("work hours", ⟨"0", "9-17", "*", "*", "1-5"⟩)]

/-- The template of the first set phrase in a text, at the time of its `at` clause. -/
def setPhrase? (s : Text) : Option Template :=
  (setPhrases.find? fun p => Text.occursIn p.1 s).map fun p =>
    match TimeOfDay.atClause? s with
    | none => p.2
    | some time => p.2.atTime time

end Crontab
