import Crontab.Dialect.Format
import Crontab.Dialect.Weekday
import Crontab.Text.Scan

/-!
# AWS and Quartz

The schedule expressions of AWS EventBridge, `cron(minute hour day month weekday year)`, and those
of Quartz and Jenkins, `second minute hour day month weekday [year]`, have two things in common:
weekdays count from Sunday as 1, and one of the two day fields has to be `?`, for "no condition".

Neither seconds nor years have a place in five fields.  Where they are more than `0`, `*` or `?`
they are dropped, and the result is not exact.
-/

namespace Crontab

/-! ## Writing -/

/-- The two day fields, with `?` for the one that puts no condition. -/
def Fields.questionMarkDays (f : Fields) : Text × Text :=
  if f.dayOfWeek.isAny then (f.dayOfMonth.raw, "?")
  else if f.dayOfMonth.isAny then ("?", f.dayOfWeek.weekdaysFromOne)
  else (f.dayOfMonth.raw, f.dayOfWeek.weekdaysFromOne)

/-- The five fields as both notations write them. -/
def Fields.questionMarkTexts (f : Fields) : List Text :=
  [f.minute.raw, f.hour.raw, f.questionMarkDays.1, f.month.raw, f.questionMarkDays.2]

namespace Aws

/-- The fields inside `cron(...)`, for every year. -/
def write (f : Fields) : Text :=
  "cron(" ++ Text.join " " (f.questionMarkTexts ++ ["*".toList]) ++ ")"

/-- Write an expression for AWS. -/
def ofCron (s : Text) : Except Fault Conversion :=
  Conversion.fromText .aws s (.refused (some .aws) (.noReboot .aws)) fun e f =>
    ⟨.aws, write f, none, some e.sentence, some .eventBridge, true⟩

end Aws

namespace Quartz

/-- The fields behind a zero for the seconds. -/
def write (f : Fields) : Text := Text.join " " ("0".toList :: f.questionMarkTexts)

/-- Write an expression for Quartz or Jenkins. -/
def ofCron (d : Dialect) (s : Text) : Except Fault Conversion :=
  Conversion.fromText d s (.refused (some d) (.noReboot d)) fun e f =>
    ⟨d, write f, none, some e.sentence, some .secondsFirst, true⟩

end Quartz

/-! ## Reading -/

/-- A day field, where `?` puts no condition. -/
def withoutQuestionMark (s : Text) : Text := if s = "?" then "*" else s

/-- The weekday field, counted from 0. -/
def weekdayField (s : Text) : Except Fault Text :=
  if withoutQuestionMark s = "*" then .ok "*" else weekdaysFromZero (withoutQuestionMark s)

/-- The conversion of five fields in which `?` may stand and weekdays count from 1. -/
def ofQuestionMarkTexts (minute hour dayOfMonth month dayOfWeek : Text) (note? : Option Note)
    (exact : Bool) : Except Fault Conversion := do
  Conversion.ofFieldTexts
    [withoutQuestionMark minute, withoutQuestionMark hour, withoutQuestionMark dayOfMonth,
      withoutQuestionMark month, ← weekdayField dayOfWeek]
    note? exact

namespace Aws

/-- Read `cron`, in any case of its letters, and the bracket behind it. -/
def openCall? (s : Text) : Option Text :=
  match s with
  | c :: r :: o :: n :: rest =>
    if [c, r, o, n].map Char.toLower = "cron" then Text.skip? "(" (Text.trimLeft rest) else none
  | _ => none

/-- The text up to the first closing bracket that is not at its start, if it is all in one line;
blanks in front of the bracket do not belong to it. -/
def untilClosed? : Text → Option Text
  | [] => none
  | c :: s =>
    if c = '\n' then none
    else
      match Text.skip? ")" (Text.trimLeft s) with
      | some _ => some [c]
      | none => (untilClosed? s).map (c :: ·)

/-- What stands between the brackets.  Nothing but blanks is enough, if they are not all line
feeds. -/
def callBody? (s : Text) : Option Text :=
  match untilClosed? (Text.trimLeft s) with
  | some body => some body
  | none =>
    if (Text.skip? ")" (Text.trimLeft s)).isSome && (s.takeWhile Text.isBlank).any (· != '\n') then
      some []
    else none

/-- The words inside the first `cron(...)` of a text. -/
def callWords? (s : Text) : Option (List Text) :=
  (Text.find? (fun _ s => (openCall? s).bind callBody?) s).map Text.words

/-- Read an expression of AWS. -/
def toCron (s : Text) : Except Fault Conversion :=
  match callWords? s with
  | none => return .refused (some .cron) .noCronCall
  | some [minute, hour, dayOfMonth, month, dayOfWeek, year] =>
    let exact := year = "*" ∨ year = "?"
    ofQuestionMarkTexts minute hour dayOfMonth month dayOfWeek
      (if exact then none else some (.yearDropped year)) exact
  | some ws => return .refused (some .cron) (.awsFieldCount ws.length)

end Aws

namespace Quartz

/-- What is dropped from a schedule with seconds, and perhaps a year. -/
def dropped (second : Text) (year? : Option Text) : List Dropped :=
  (if second = "0" ∨ second = "*" then [] else [.seconds second]) ++
    match year? with
    | none => []
    | some year => if year = "*" ∨ year = "?" then [] else [.year year]

/-- The note on what is dropped. -/
def note? : List Dropped → Option Note
  | [] => none
  | d :: ds => some (.dropped d ds)

/-- Read an expression of Quartz or Jenkins. -/
def toCron (s : Text) : Except Fault Conversion :=
  match Text.words s with
  | [second, minute, hour, dayOfMonth, month, dayOfWeek] =>
    let lost := dropped second none
    ofQuestionMarkTexts minute hour dayOfMonth month dayOfWeek (note? lost) lost.isEmpty
  | [second, minute, hour, dayOfMonth, month, dayOfWeek, year] =>
    let lost := dropped second (some year)
    ofQuestionMarkTexts minute hour dayOfMonth month dayOfWeek (note? lost) lost.isEmpty
  | _ => return .refused (some .cron) .quartzFieldCount

end Quartz

end Crontab
