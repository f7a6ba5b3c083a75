import Crontab.Command.Outcome
import Std.Time.DateTime.Timestamp

/-!
# The program

The command line.  It looks at the clock, the environment and the settings file, hands them to
`Crontab.Outcome.ofArguments`, and prints what comes back.

The place is the one that the variable `TZ` names, and UTC if it names none that is known.
-/

namespace Crontab

/-- The time on the clock. -/
def clockTime : IO Int := do
  let t ← Std.Time.Timestamp.now
  return epoch + t.toNanosecondsSinceUnixEpoch.val / 1000

/-- The settings file of the working directory; one that cannot be read counts as empty. -/
def settingsFileText : IO Text := do
  try return (← IO.FS.readFile ".env").toList
  catch _ => return []

/-- The variables of the environment that may hold settings, their names in capitals or in small
letters, and those that a settings file refers to. -/
def settingVariables (file : Text) : IO (List (Text × Text)) := do
  let names := Settings.keys.map fun key => String.ofList (Settings.fullName key)
  let references := (Reference.namesIn file).map String.ofList
  let found ← (names ++ names.map String.toUpper ++ references).eraseDups.mapM fun name => do
    return (← IO.getEnv name).map fun value => (name.toList, value.toList)
  return found.filterMap id

/-- What the program finds around it. -/
def surroundings : IO Surroundings := do
  let place := ((← IO.getEnv "TZ").bind fun name => Atlas.find? name.toList).getD ⟨0, []⟩
  let file ← settingsFileText
  return ⟨← clockTime, place, ← settingVariables file, file⟩

end Crontab

open Crontab in
/-- Run the program. -/
def main (args : List String) : IO UInt32 := do
  let outcome := Outcome.ofArguments (← surroundings) (args.map String.toList)
  IO.print (String.ofList outcome.output)
  return outcome.exit.toUInt32
