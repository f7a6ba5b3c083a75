import Crontab.Calendar.Month
import Crontab.Expression

/-!
# Sentences

An expression in English: one clause for each field that says something, in the order of the
fields.  A field that is `*` says nothing, except that the sentence always opens with the minutes.
Hours are told on the twelve-hour clock when there is one of them, the five working days and the
two days of the weekend have their names, and a field written with a step tells its step.
-/

namespace Crontab

/-- An hour on the twelve-hour clock. -/
def hourText (hour : Nat) : Text :=
  natText (if hour = 0 then 12 else if 12 < hour then hour - 12 else hour) ++
    if 12 ≤ hour then "PM" else "AM"

/-- The step of a field, as it is written behind the first `/`. -/
def Field.stepText (f : Field) : Text := ((Text.cut "/" f.raw).2).getD []

namespace Fields

/-- What the sentence says about the minutes. -/
def minuteClause (f : Fields) : Text :=
  if f.minute.isAny then "Every minute"
  else
    match f.minute.values with
    | [m] => "At minute " ++ natText m
    | ms =>
      if f.minute.hasStep then "Every " ++ f.minute.stepText ++ " minutes"
      else "At minutes " ++ natsText ms

/-- What the sentence says about the hours. -/
def hourClause? (f : Fields) : Option Text :=
  if f.hour.isAny then none
  else
    match f.hour.values with
    | [h] => some ("at " ++ hourText h)
    | hs =>
      if f.hour.hasStep then some ("every " ++ f.hour.stepText ++ " hours")
      else some ("during hours " ++ natsText hs)

/-- What the sentence says about the days of the month. -/
def dayOfMonthClause? (f : Fields) : Option Text :=
  if f.dayOfMonth.isAny then none
  else
    match f.dayOfMonth.values with
    | [d] => some ("on day " ++ natText d)
    | ds => some ("on days " ++ natsText ds)

/-- What the sentence says about the months. -/
def monthClause? (f : Fields) : Option Text :=
  if f.month.isAny then none
  else some ("in " ++ Text.join ", " (f.month.values.map monthName))

/-- What the sentence says about the weekdays. -/
def dayOfWeekClause? (f : Fields) : Option Text :=
  if f.dayOfWeek.isAny then none
  else if f.dayOfWeek.values = [1, 2, 3, 4, 5] then some "on weekdays"
  else if f.dayOfWeek.values = [0, 6] then some "on weekends"
  else some ("on " ++ Text.join ", " (f.dayOfWeek.values.map dayName))

/-- The clauses of the sentence. -/
def clauses (f : Fields) : List Text :=
  f.minuteClause ::
    [f.hourClause?, f.dayOfMonthClause?, f.monthClause?, f.dayOfWeekClause?].filterMap id

/-- The sentence that tells when the fields select. -/
def sentence (f : Fields) : Text := Text.join " " f.clauses

end Fields

/-- The sentence for an expression, or what is wrong with it. -/
def Expression.sentence (e : Expression) : Text :=
  if e.isValid then
    match e.fields? with
    | some f => f.sentence
    | none => "Run once at system startup"
  else "Invalid: " ++ e.errorLine

/-- A text that is meant as an expression, in English. -/
def describe (s : Text) : Except Fault Text := return (← Expression.read s).sentence

end Crontab
