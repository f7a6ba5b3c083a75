import Crontab.Command.Request
import Crontab.DateText
import Crontab.Journal.Session
import Crontab.Report.Document
import Crontab.Report.Plain
import Crontab.Settings
import Crontab.Zone.Atlas

/-!
# Outcomes

What the program prints for a request, and the exit code that it ends with: 0 if all went well, 1
if the request could not be met, and 2 for a usage error, which prints nothing.

All that a request depends on beside its arguments is in `Surroundings`: the time, the place, and
where settings come from.  `Outcome.ofArguments` is the whole program as a function of these.
-/

namespace Crontab

/-- What the program finds around it. -/
structure Surroundings where
  now : Int
  place : History
  environment : List (Text × Text)
  settingsFile : Text
  deriving Repr

/-- How the program ends. -/
structure Outcome where
  exit : Nat
  output : Text
  deriving DecidableEq, Repr

namespace Outcome

/-- The end of a request that was met. -/
def met (output : Text) : Outcome := ⟨0, output⟩

/-- The end of a request that was not met. -/
def unmet (output : Text) : Outcome := ⟨1, output⟩

/-- The end of a request that was not understood. -/
def usage : Outcome := ⟨2, []⟩

/-- The end with an error message. -/
def failed (message : Text) : Outcome := unmet (Plain.error message)

/-- The output of a document. -/
def written (e : Json.Escaping) (j : Json) : Text := j.text e ++ "\n"

/-! ## Zones -/

/-- What a request gives that needs a zone: the one that was asked for, or the one of the
settings. -/
def inZone (s : Surroundings) (settings : Settings) (zone? : Option Text)
    (use : Text → Zone → Except Fault Outcome) : Except Fault Outcome :=
  let name :=
    match zone? with
    | some (c :: t) => c :: t
    | _ => settings.defaultTimezone
  match Zone.find s.place name with
  | .ok z => use name z
  | .error _ => .ok (failed ("unknown timezone: " ++ name))

/-! ## Tasks -/

/-- Explain an expression. -/
def ofExplain (s : Surroundings) (settings : Settings) (asDocument : Bool) (expression : Text)
    (zone? : Option Text) (count : Int) : Except Fault Outcome := do
  let e ← Expression.read expression
  if !e.isValid then
    return unmet (Plain.invalidExpression e ++ (e.suggestion?.map Layout.print).getD [])
  else
    inZone s settings zone? fun name z => do
      let runs ← e.runsAfter (.ok z) count (DateTime.moment (.utc s.now))
      return met
        (if asDocument then written .ascii (explanationDocument e name runs)
        else Plain.explanation s.now e name runs)

/-- Judge a text. -/
def ofValidate (asDocument : Bool) (expression : Text) (strict : Bool) : Except Fault Outcome := do
  let v ← validate expression
  let output :=
    if asDocument then written .minimal v.document else Plain.verdict expression v
  return if v.valid && !(strict && !v.warnings.isEmpty) then met output else unmet output

/-- Tell the next occurrences. -/
def ofNext (s : Surroundings) (settings : Settings) (asDocument : Bool) (expression : Text)
    (count? : Option Int) (zone? : Option Text) : Except Fault Outcome := do
  let e ← Expression.read expression
  if !e.isValid then return unmet (Plain.invalidExpression e)
  else if e.isReboot then
    return met (Layout.print "@reboot runs once at system startup - no scheduled times.")
  else
    inZone s settings zone? fun name z => do
      let count := max 1 (min (count?.getD settings.defaultCount) settings.maxCount)
      let runs ← e.runsAfter (.ok z) count (DateTime.moment (.utc s.now))
      return met
        (if asDocument then written .ascii (runsDocument expression name [] runs)
        else if runs.isEmpty then
          Layout.print "No upcoming runs found within the next year."
        else Plain.runs s.now name runs)

/-- Compare two expressions. -/
def ofDiff (s : Surroundings) (settings : Settings) (asDocument : Bool) (first second : Text)
    (zone? : Option Text) : Except Fault Outcome :=
  inZone s settings zone? fun _ z => do
    match ← compare first second (.ok z) (DateTime.moment (.utc s.now)) with
    | .error why => return failed why.message
    | .ok c =>
      return met
        (if asDocument then written .minimal (comparisonDocument (.ok c))
        else Plain.comparison first second c)

/-- Generate an expression from words. -/
def ofGenerate (asDocument : Bool) (words : List Text) : Except Fault Outcome := do
  let phrase := Text.join " " words
  let g ← generate phrase
  match g with
  | .success e sentence =>
    return met (if asDocument then written .minimal g.document
      else Plain.generated phrase e sentence)
  | _ =>
    return unmet (if asDocument then written .minimal g.document
      else Plain.error (g.error?.getD []) ++ Layout.print Generation.hint)

/-- What is told of a conversion. -/
def ofConversion (asDocument : Bool) : Conversion → Outcome
  | .refused _ why => failed why.message
  | .done c =>
    met (if asDocument then written .minimal (Conversion.done c).document else Plain.converted c)

/-- Convert an expression.  Where no notation is named the one of the text is guessed. -/
def ofConvert (asDocument : Bool) (expression? : Option Text) (target? source? : Option Dialect) :
    Except Fault Outcome :=
  match expression? with
  | none => .ok (failed "no expression provided")
  | some [] => .ok (failed "no expression provided")
  | some (c :: t) =>
    let expression := c :: t
    match source?, target? with
    | some d, _ => do return ofConversion asDocument (← toCron expression d.name)
    | none, some d => do return ofConversion asDocument (← fromCron (.ok expression) d.name)
    | none, none =>
      match detect expression with
      | none => .ok (failed "could not detect format. use --from <format> to specify.")
      | some .cron =>
        .ok (failed "already standard cron format. use --to <format> to convert elsewhere.")
      | some d => do return ofConversion asDocument (← toCron expression d.name)

/-! ## Tests of dates -/

/-- The last minute of the day that a time lies on, as a reading. -/
def lastMinute (t : DateTime) : DateTime :=
  .reading (startOfDay t.wall + 23 * oneHour + 59 * oneMinute) false

/-- Test the dates of a range, which is written with two dots between its ends. -/
def ofRange (s : Surroundings) (settings : Settings) (asDocument : Bool) (e : Expression) (z : Zone)
    (range : Text) : Except Fault Outcome := do
  let (first, last?) := Text.cut ".." range
  let start? ← DateTime.ofText? s.place s.now first
  let stop? ← DateTime.ofText? s.place s.now (last?.getD [])
  match start?, stop? with
  | some start, some stop => do
    let stop := lastMinute stop
    let runs ← e.runsBetween (.ok z) settings.rangeLimit start stop
    return met (if asDocument then written .ascii (rangeDocument e start stop runs)
      else Plain.range e start stop runs)
  | _, _ =>
    return failed ("could not parse range: \x22" ++ range ++
      "\x22. Use format: 2024-01-01..2024-01-07")

/-- Test dates one by one, up to the first that cannot be read; that one is the error. -/
def testDates (s : Surroundings) (e : Expression) (z : Zone) :
    List Text → Except Fault (Except Text (List (DateTime × Bool)))
  | [] => .ok (.ok [])
  | date :: dates => do
    match ← DateTime.ofText? s.place s.now date with
    | none => return .error date
    | some t =>
      let fires ← e.firesAt (.ok z) t
      match ← testDates s e z dates with
      | .error date => return .error date
      | .ok results => return .ok ((t, fires) :: results)

/-- The dates that are given singly or in a list with commas. -/
def datesGiven (date? dates? : Option Text) : List Text :=
  (date?.toList.filter fun d => !d.isEmpty) ++
    ((Text.pieces ',' (dates?.getD [])).map Text.trim).filter fun d => !d.isEmpty

/-- Test an expression against dates. -/
def ofTest (s : Surroundings) (settings : Settings) (asDocument : Bool) (expression : Text)
    (date? dates? range? zone? : Option Text) : Except Fault Outcome := do
  let e ← Expression.read expression
  if !e.isValid then return unmet (Plain.invalidExpression e)
  else if e.isReboot then
    return met (Layout.print "@reboot runs at system startup, not at specific times.")
  else
    inZone s settings zone? fun _ z =>
      match range?, datesGiven date? dates? with
      | some (c :: t), _ => ofRange s settings asDocument e z (c :: t)
      | _, [] => .ok (failed "specify a date to test with --date, --dates, or --range")
      | _, dates => do
        match ← testDates s e z dates with
        | .error date => return failed ("could not parse date: \x22" ++ date ++ "\x22")
        | .ok results =>
          return met (if asDocument then written .ascii (testsDocument e results)
            else Plain.tests e results)

/-! ## The program -/

/-- The outcome of a request. -/
def ofRequest (s : Surroundings) (settings : Settings) (r : Request) : Except Fault Outcome :=
  match r.task with
  | .explain e zone? runs => ofExplain s settings r.asDocument e zone? runs
  | .validate e strict => ofValidate r.asDocument e strict
  | .next e count? zone? => ofNext s settings r.asDocument e count? zone?
  | .diff first second zone? => ofDiff s settings r.asDocument first second zone?
  | .generate words => ofGenerate r.asDocument words
  | .convert e? target? source? => ofConvert r.asDocument e? target? source?
  | .dialects =>
    .ok (met (if r.asDocument then written .ascii dialectsDocument else Plain.dialects))
  | .test e date? dates? range? zone? =>
    ofTest s settings r.asDocument e date? dates? range? zone?
  | .examples =>
    .ok (met (if r.asDocument then written .ascii examplesDocument else Plain.examples))

/-- The options in front of the command. -/
def programOptions : List CommandOption := [.flag "verbose" (some 'v'), .flag "version" none]

/-- The outcome of a command with its arguments.  Settings are read and the journal is set up before
the arguments are looked at. -/
def ofCommand (s : Surroundings) (verbose : Bool) (name : CommandName) (args : List Text) :
    Outcome :=
  match Settings.ofSources (.of s.environment s.settingsFile) with
  | .error why => failed why.message
  | .ok settings =>
    let level : Text := if verbose then "DEBUG" else settings.logLevel
    match Session.start.setup level settings.logFormat with
    | .error _ => unmet []
    | .ok _ =>
      match Request.read? name args with
      | none => usage
      | some r =>
        match ofRequest s settings r with
        | .ok outcome => outcome
        | .error _ => unmet []

/-- The outcome of the program for its arguments. -/
def ofArguments (s : Surroundings) (args : List Text) : Outcome :=
  match Arguments.read programOptions false args with
  | none => usage
  | some a =>
    if a.has "version" then met ("cronlens " ++ Plain.version ++ "\n")
    else
      match a.operands with
      | [] => usage
      | name :: rest =>
        match CommandName.ofText? name with
        | none => usage
        | some c => ofCommand s (a.has "verbose") c rest

end Outcome

end Crontab
