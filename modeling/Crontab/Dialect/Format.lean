import Crontab.Sentence

/-!
# Dialects

Other schedulers write schedules in notations of their own.  The five-field expression is the hub:
every other notation is written from it and read into it.

This module names the notations and says what a conversion gives: a result with the caveats that
belong to it, or the reason why there is none.
-/

namespace Crontab

/-- The notations of schedules. -/
inductive Dialect where
  | cron
  | systemd
  | aws
  | github
  | quartz
  | jenkins
  deriving DecidableEq, Repr

namespace Dialect

/-- All notations. -/
def all : List Dialect := [cron, systemd, aws, github, quartz, jenkins]

/-- The name by which a notation is asked for. -/
def name : Dialect → Text
  | cron => "cron"
  | systemd => "systemd"
  | aws => "aws"
  | github => "github"
  | quartz => "quartz"
  | jenkins => "jenkins"

/-- What a notation is, in a few words. -/
def label : Dialect → Text
  | cron => "Standard cron (5 fields)"
  | systemd => "systemd OnCalendar format"
  | aws => "AWS CloudWatch Events / EventBridge"
  | github => "GitHub Actions schedule"
  | quartz => "Quartz scheduler (Java)"
  | jenkins => "Jenkins cron syntax"

/-- The notation of a name, in any case of its letters. -/
def ofName? (s : Text) : Option Dialect := all.find? fun d => d.name == Text.lower s

/-- The notation of a name, in lower case. -/
def ofExactName? (s : Text) : Option Dialect := all.find? fun d => d.name == s

end Dialect

/-! ## Conversions -/

/-- A condition of the source that a five-field expression cannot hold. -/
inductive Dropped where
  | seconds (field : Text)
  | year (field : Text)
  deriving DecidableEq, Repr

/-- What has to be known about the result of a conversion. -/
inductive Note where
  | onCalendar
  | onBoot
  | eventBridge
  | actionsUtc
  | secondsFirst
  | bestEffort
  | yearDropped (field : Text)
  | dropped (first : Dropped) (rest : List Dropped)
  deriving DecidableEq, Repr

/-- Why there is no result. -/
inductive Refusal where
  /-- The expression is not valid. -/
  | invalid (errorLine : Text)
  /-- The notation has nothing for the start of the machine. -/
  | noReboot (dialect : Dialect)
  /-- There is no such notation, or not in this direction. -/
  | unknownDialect (name : Text)
  /-- The text has no `cron(...)` in it. -/
  | noCronCall
  /-- There are not six fields inside `cron(...)`. -/
  | awsFieldCount (found : Nat)
  /-- There are neither six nor seven fields. -/
  | quartzFieldCount
  /-- What was read is no valid expression. -/
  | invalidResult (result errorLine : Text)
  deriving DecidableEq, Repr

/-- The result of a conversion. -/
structure Converted where
  dialect : Dialect
  result : Text
  /-- The expression inside the result, where the result is more than that. -/
  expression? : Option Text
  sentence? : Option Text
  note? : Option Note
  /-- Whether the result means the same as the source. -/
  exact : Bool
  deriving DecidableEq, Repr

/-- What a conversion gives. -/
inductive Conversion where
  | done (c : Converted)
  /-- No result; `dialect` is the notation that was aimed at, if it is known. -/
  | refused (dialect : Option Dialect) (why : Refusal)
  deriving DecidableEq, Repr

/-- The wording of a dropped condition. -/
def Dropped.message : Dropped → Text
  | seconds s => "seconds " ++ Text.quoted s
  | year s => "year " ++ Text.quoted s

/-- The wording of a note. -/
def Note.message : Note → Text
  | onCalendar => "Use with OnCalendar= in systemd timer units"
  | onBoot => "Closest systemd equivalent is OnBootSec= in a timer unit"
  | eventBridge => "AWS CloudWatch Events / EventBridge format (times in UTC)"
  | actionsUtc => "GitHub Actions uses UTC timezone"
  | secondsFirst => "Quartz Scheduler format (Java). First field is seconds."
  | bestEffort => "Conversion is best-effort. Some systemd features may not translate."
  | yearDropped s => "Year restriction " ++ Text.quoted s ++ " dropped"
  | dropped d ds => "Dropped " ++ Text.join " and " ((d :: ds).map Dropped.message)

/-- The wording of a refusal. -/
def Refusal.message : Refusal → Text
  | invalid line => line
  | noReboot .jenkins => "Jenkins does not support @reboot"
  | noReboot .aws => "AWS does not support @reboot"
  | noReboot .github => "GitHub Actions does not support @reboot"
  | noReboot _ => "Quartz does not support @reboot"
  | unknownDialect name => "Unknown format: " ++ name
  | noCronCall => "Invalid AWS cron format. Expected: cron(...)"
  | awsFieldCount n => "Invalid AWS cron: expected 6 fields, got " ++ natText n
  | quartzFieldCount => "Invalid Quartz/Jenkins format"
  | invalidResult result line =>
    "Converted expression " ++ Text.quoted result ++ " is invalid: " ++ line

namespace Conversion

/-- A conversion into five fields: the texts of the fields are read again, and their expression is
given only if it is valid. -/
def ofFieldTexts (parts : List Text) (note? : Option Note) (exact : Bool) :
    Except Fault Conversion := do
  let e ← Expression.read (Text.join " " parts)
  if e.isValid then
    return .done ⟨.cron, Text.join " " parts, none, some e.sentence, note?, exact⟩
  else return .refused (some .cron) (.invalidResult (Text.join " " parts) e.errorLine)

/-- A conversion from five fields: the text is read, and `write` is given the fields of a valid
expression. -/
def fromText (d : Dialect) (s : Text) (reboot : Conversion) (write : Expression → Fields → Converted) :
    Except Fault Conversion := do
  let e ← Expression.read s
  if !e.isValid then return .refused (some d) (.invalid e.errorLine)
  else
    match e.fields? with
    | none => return reboot
    | some f => return .done (write e f)

end Conversion

end Crontab
