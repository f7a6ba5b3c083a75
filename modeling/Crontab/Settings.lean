import Crontab.Fault
import Crontab.Settings.File
import Crontab.Settings.NameTable
import Crontab.Settings.Reference
import Crontab.Settings.Whole
import Crontab.Text.Lower

/-!
# Settings

Settings have defaults, and may be given by variables of the environment and by a settings file in
the working directory; the environment wins.  The name of a setting is `CRONLENS_` and its key, in
any case of the letters.  An empty value counts as none, and so does a name without a value, but
such a name takes the place of an earlier value.

Unknown names in the environment are other programs' business, but the file is for this program
alone, so an unknown name in it is an error.  All errors are found before any is reported.
-/

namespace Crontab

/-- The settings of the program. -/
structure Settings where
  defaultTimezone : Text
  defaultCount : Nat
  maxCount : Nat
  rangeLimit : Nat
  logLevel : Text
  logFormat : Text
  deriving DecidableEq, Repr

namespace Settings

/-! ## Where values come from -/

/-- The values that were given, by their names in lower case.  In the file a name may stand without
a value. -/
structure Sources where
  environment : NameTable Text
  file : NameTable (Option Text)
  deriving DecidableEq, Repr

/-- The values by their names in lower case, where empty values are left out first: of two names
that differ in case only, the last one that is not empty counts. -/
def caseless {α : Type} (isEmpty : α → Bool) (values : List (Text × α)) : NameTable α :=
  .ofList ((values.filter fun v => !isEmpty v.2).map fun v => (Text.lower v.1, v.2))

/-- The values of a settings file by their names as written.  A value may refer to a variable of the
file in front of it, or else to one of the environment; a name without a value has an empty one. -/
def fileTable (environment : NameTable Text) (file : Text) : NameTable (Option Text) :=
  (SettingsFile.entries file).foldl
    (fun table e =>
      let valueOf := fun name =>
        ((table.get? name).map fun value => value.getD []).or (environment.get? name)
      table.put e.name (e.value.map (Reference.resolve valueOf)))
    []

/-- The values of an environment and a settings file. -/
def Sources.of (environment : List (Text × Text)) (file : Text) : Sources :=
  ⟨caseless List.isEmpty environment,
    caseless (· == some []) (fileTable (.ofList environment) file)⟩

/-- The full name of a setting. -/
def fullName (key : Text) : Text := "cronlens_" ++ key

/-- The value of a setting. -/
def Sources.value? (s : Sources) (key : Text) : Option Text :=
  (s.environment.get? (fullName key)).or (s.file.get? (fullName key)).join

/-! ## Problems -/

/-- What can be wrong with a value. -/
inductive Problem where
  | notWhole (key : Text)
  | tooLong (key : Text)
  | belowOne (key : Text)
  | unknownName (name : Text)
  deriving DecidableEq, Repr

/-- The wording of a problem. -/
def Problem.message : Problem → Text
  | notWhole key => key ++ ": Input should be a valid integer, unable to parse string as an integer"
  | tooLong key =>
    key ++ ": Unable to parse input string as an integer, exceeded maximum size"
  | belowOne key => key ++ ": Value error, must be at least 1"
  | unknownName name => name ++ ": Extra inputs are not permitted"

/-- A number of at least one, or its default. -/
def Sources.positive (s : Sources) (key : Text) (default : Nat) : Except Problem Nat :=
  match s.value? key with
  | none => .ok default
  | some v =>
    match Whole.ofText v with
    | .notANumber => .error (.notWhole key)
    | .tooLong => .error (.tooLong key)
    | .number n => if n < 1 then .error (.belowOne key) else .ok n.toNat

/-! ## All settings -/

/-- The keys of the settings. -/
def keys : List Text :=
  ["default_timezone", "default_count", "max_count", "range_limit", "log_level", "log_format"]

/-- The unknown names of a settings file that have a value; a bare key is no name but does no
harm. -/
def Sources.unknownNames (s : Sources) : List Text :=
  (NameTable.names (s.file.filter fun v => v.2.isSome)).filter fun n =>
    !(keys.contains n) && !((keys.map fullName).contains n)

/-- The zone that a value names: a blank one names the zone that the program runs in. -/
def zoneName (v : Text) : Text := if Text.trim v = [] then "local" else Text.trim v

/-- The problem of a value, if there is one. -/
def problem? {α : Type} : Except Problem α → List Problem
  | .ok _ => []
  | .error p => [p]

/-- The settings that the sources give. -/
def ofSources (s : Sources) : Except Fault Settings :=
  let count := s.positive "default_count" 5
  let most := s.positive "max_count" 100
  let range := s.positive "range_limit" 100
  match count, most, range, s.unknownNames with
  | .ok count, .ok most, .ok range, [] =>
    .ok {
      defaultTimezone := zoneName ((s.value? "default_timezone").getD "local")
      defaultCount := count
      maxCount := most
      rangeLimit := range
      logLevel := (s.value? "log_level").getD "WARNING"
      logFormat := (s.value? "log_format").getD "text"
    }
  | _, _, _, unknown =>
    .error (.badSettings
      ((problem? count ++ problem? most ++ problem? range ++ unknown.map Problem.unknownName).map
        Problem.message))

end Settings

end Crontab
