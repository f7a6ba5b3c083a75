import Crontab.Command.Arguments
import Crontab.Dialect.Format

/-!
# Requests

What a user can ask for on the command line.  A request is the name of a command with its arguments
in typed form: counts are whole numbers and notations are known ones.  Arguments that do not make a
request are a usage error, which `Request.read?` reports by giving nothing.
-/

namespace Crontab

/-- What is asked for. -/
inductive Task where
  | explain (expression : Text) (zone? : Option Text) (runs : Int)
  | validate (expression : Text) (strict : Bool)
  | next (expression : Text) (count? : Option Int) (zone? : Option Text)
  | diff (first second : Text) (zone? : Option Text)
  | generate (words : List Text)
  | convert (expression? : Option Text) (target? source? : Option Dialect)
  | dialects
  | test (expression : Text) (date? dates? range? zone? : Option Text)
  | examples
  deriving DecidableEq, Repr

/-- A task, and whether its result is wanted as a document. -/
structure Request where
  task : Task
  asDocument : Bool
  deriving DecidableEq, Repr

/-- The names of the tasks on the command line. -/
inductive CommandName where
  | explain
  | validate
  | next
  | diff
  | generate
  | convert
  | test
  | examples
  deriving DecidableEq, Repr

namespace CommandName

/-- The command of a name. -/
def ofText? (s : Text) : Option CommandName :=
  ([("explain".toList, explain), ("validate".toList, validate), ("next".toList, next),
    ("diff".toList, diff), ("generate".toList, generate), ("convert".toList, convert),
    ("test".toList, test), ("examples".toList, examples)] : List (Text × CommandName)).lookup s

/-- The option that names a zone. -/
def zoneOption : CommandOption := .value "timezone" (some 't')

/-- The option that asks for a document. -/
def documentOption : CommandOption := .flag "json" none

/-- The options of a command. -/
def options : CommandName → List CommandOption
  | explain => [zoneOption, .value "runs" (some 'r'), documentOption]
  | validate => [.flag "strict" none, documentOption]
  | next => [.value "count" (some 'c'), zoneOption, documentOption]
  | diff => [zoneOption, documentOption]
  | generate => [documentOption]
  | convert => [.value "to" none, .value "from" none, .flag "formats" none, documentOption]
  | test => [.value "date" none, .value "dates" none, .value "range" none, zoneOption, documentOption]
  | examples => [documentOption]

end CommandName

namespace Request

/-- The number that an option gives; nothing at all if its value is no number. -/
def number? (a : Arguments) (name : Text) : Option (Option Int) :=
  match a.value? name with
  | none => some none
  | some v => (Arguments.integer? v).map some

/-- The notation that an option gives; nothing at all if its value names none. -/
def dialect? (a : Arguments) (name : Text) : Option (Option Dialect) :=
  match a.value? name with
  | none => some none
  | some v => (Dialect.ofExactName? v).map some

/-- The task of converting, unless the notations are to be listed. -/
def convertTask? (a : Arguments) (expression? : Option Text) : Option Task := do
  let target? ← dialect? a "to"
  let source? ← dialect? a "from"
  return if a.has "formats" then .dialects else .convert expression? target? source?

/-- The task that a command is given by its arguments. -/
def task? (name : CommandName) (a : Arguments) : Option Task :=
  match name, a.operands with
  | .explain, [e] => do
    return .explain e (a.value? "timezone") ((← number? a "runs").getD 3)
  | .validate, [e] => some (.validate e (a.has "strict"))
  | .next, [e] => do return .next e (← number? a "count") (a.value? "timezone")
  | .diff, [first, second] => some (.diff first second (a.value? "timezone"))
  | .generate, w :: ws => some (.generate (w :: ws))
  | .convert, [] => convertTask? a none
  | .convert, [e] => convertTask? a (some e)
  | .test, [e] =>
    some (.test e (a.value? "date") (a.value? "dates") (a.value? "range") (a.value? "timezone"))
  | .examples, [] => some .examples
  | _, _ => none

/-- The request that a command is given by its arguments. -/
def read? (name : CommandName) (args : List Text) : Option Request := do
  let a ← Arguments.read name.options true args
  return ⟨← task? name a, a.has "json"⟩

end Request

end Crontab
