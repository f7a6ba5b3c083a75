import Crontab.Dialect.OnCalendar
import Crontab.Dialect.QuestionMark

/-!
# Conversions

`fromCron` writes an expression in another notation, `toCron` reads one from another notation, both
by the name of the notation.  Some notations exist in one direction only.  `detect` guesses the
notation of a text from its shape.
-/

namespace Crontab

/-- The workflow that runs on a schedule. -/
def workflowText (cron : Text) : Text :=
  "on:\n  schedule:\n    - cron: '" ++ cron ++ "'"

/-- Write an expression for GitHub Actions. -/
def Workflow.ofCron (s : Text) : Except Fault Conversion :=
  Conversion.fromText .github s (.refused (some .github) (.noReboot .github)) fun e _ =>
    ⟨.github, workflowText e.canonical, some e.canonical, some e.sentence, some .actionsUtc, true⟩

/-- Write an expression in the notation of a name.  An unknown name is refused before the expression
is looked at. -/
def fromCron (s : Except Fault Text) (target : Text) : Except Fault Conversion :=
  match Dialect.ofName? target with
  | some .systemd => do OnCalendar.ofCron (← s)
  | some .aws => do Aws.ofCron (← s)
  | some .github => do Workflow.ofCron (← s)
  | some .quartz => do Quartz.ofCron .quartz (← s)
  | some .jenkins => do Quartz.ofCron .jenkins (← s)
  | _ => return .refused none (.unknownDialect target)

/-- Read an expression from the notation of a name. -/
def toCron (s source : Text) : Except Fault Conversion :=
  match Dialect.ofName? source with
  | some .cron => Conversion.ofFieldTexts (Text.words s) none true
  | some .aws => Aws.toCron s
  | some .systemd => OnCalendar.toCron s
  | some .quartz => Quartz.toCron s
  | some .jenkins => Quartz.toCron s
  | _ => return .refused none (.unknownDialect source)

/-! ## Detection -/

/-- Read a run of word characters and a mark behind it. -/
def wordThen? (mark s : Text) : Option Text := do
  let (_, s) ← Text.word? s
  Text.skip? mark s

/-- Whether a text starts with a date, three words with hyphens between them, and a blank. -/
def startsWithDate (s : Text) : Bool :=
  match ((wordThen? "-" s).bind (wordThen? "-")).bind Text.word? with
  | some (_, c :: _) => Text.isBlank c
  | _ => false

/-- The notation that a text seems to be in. -/
def detect (s : Text) : Option Dialect :=
  let s := Text.trim s
  if (Aws.openCall? s).isSome then some .aws
  else if Text.occursIn "OnCalendar" s || startsWithDate s then some .systemd
  else
    match (Text.words s).length with
    | 5 => some .cron
    | 6 => some .quartz
    | 7 => some .quartz
    | _ => none

end Crontab
