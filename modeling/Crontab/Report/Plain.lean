import Crontab.Advice
import Crontab.Comparison
import Crontab.Dialect.Conversion
import Crontab.Phrase.Generation
import Crontab.Report.Stamp
import Crontab.Report.Table

/-!
# Reports for readers

What the commands print when nobody asks for documents.  Every function of this module gives whole
lines.  A text of the user stands among the words of a report as `Layout.literal` shows it; only
where nothing follows in the same style is it shown bare.
-/

namespace Crontab.Plain

open Layout (literal)

/-- The version of the program. -/
def version : Text := "0.1.0"

/-- The line that the program introduces itself with, and an empty one. -/
def header : Text :=
  Layout.print ("cronlens v" ++ version ++ " - cron expressions, explained") ++ Layout.print []

/-- An error. -/
def error (message : Text) : Text := Layout.print ("error: " ++ literal message)

/-- The error that an expression is not valid. -/
def invalidExpression (e : Expression) : Text := error ("invalid expression: " ++ e.errorLine)

/-! ## Expressions -/

/-- The table of the next occurrences in a zone. -/
def runs (now : Int) (zone : Text) (found : List Moment) : Text :=
  Layout.Table.text {
    title := "Next " ++ natText found.length ++ " runs (" ++ zone ++ ")"
    columns := [.right "#", .left "When", .left "Relative"]
    rows := found.zipIdx.map fun x =>
      [natText (x.2 + 1), (Civil.ofWall x.1.wall).wordStamp, aheadText now x.1.instant] }

/-- An explanation. -/
def explanation (now : Int) (e : Expression) (zone : Text) (found : List Moment) : Text :=
  header ++ Layout.panel (literal e.source) e.sentence ++
    if found.isEmpty then [] else runs now zone found

/-- A verdict on a text. -/
def verdict (s : Text) (v : Verdict) : Text :=
  (if v.valid then Layout.print ("valid  " ++ literal s)
  else
    Layout.print ("invalid  " ++ literal s) ++
      (v.errors.flatMap fun e => Layout.print ("  - " ++ literal e)) ++
      (v.suggestion.map fun t => Layout.print ("  " ++ literal t)).getD []) ++
    v.warnings.flatMap fun w => Layout.print ("  warning: " ++ literal w.message)

/-! ## Comparisons -/

/-- A comparison of two texts. -/
def comparison (first second : Text) (c : Comparison) : Text :=
  let table : Layout.Table := {
    title := "Field comparison"
    columns := [.left "Field", .left (literal first), .left (literal second), .left []]
    rows :=
      (c.differences.map fun d => [d.label, literal d.first, literal d.second, "differs".toList]) ++
        c.similarities.map fun label => [label, [], [], "same".toList] }
  table.text ++
    Layout.print ("  first:  " ++ literal c.firstSentence) ++
    Layout.print ("  second: " ++ literal c.secondSentence) ++
    if c.same then Layout.print "  These expressions are identical."
    else
      Layout.print ("  " ++ natText c.differences.length ++ " field(s) differ; " ++
        natText c.overlap ++ " of the next " ++ natText overlapSample ++ " runs overlap.")

/-! ## Phrases -/

/-- An expression generated from a phrase. -/
def generated (phrase expression sentence : Text) : Text :=
  Layout.print ("  input:      " ++ literal phrase) ++
    Layout.print ("  expression: " ++ expression) ++
    Layout.print ("  meaning:    " ++ literal sentence)

/-- The table of common schedules. -/
def examples : Text :=
  Layout.Table.text {
    title := "Common schedules"
    columns := [.left "Expression", .left "Meaning"]
    rows := Crontab.examples.map fun x => [x.2, x.1] }

/-! ## Dialects -/

/-- The result of a conversion. -/
def converted (c : Converted) : Text :=
  Layout.print c.dialect.name ++
    Layout.print (literal c.result) ++
    (c.sentence?.map fun s => Layout.print ("meaning: " ++ literal s)).getD [] ++
    (c.note?.map fun n => Layout.print ("note: " ++ literal n.message)).getD []

/-- The table of notations. -/
def dialects : Text :=
  Layout.Table.text {
    title := "Supported formats"
    columns := [.left "Format", .left "Description"]
    rows := Dialect.all.map fun d => [d.name, d.label] }

/-! ## Dates -/

/-- The lines above the dates of a test. -/
def testHeading (e : Expression) : Text :=
  Layout.print ("Testing: " ++ literal e.source) ++
    Layout.print ("Meaning: " ++ literal e.sentence)

/-- Dates that were tested. -/
def tests (e : Expression) (results : List (DateTime × Bool)) : Text :=
  testHeading e ++ Layout.print [] ++
    results.flatMap fun t =>
      Layout.print ("  " ++ (Civil.ofWall t.1.wall).wordStamp ++ " - " ++
        (if t.2 then "RUNS" else "does not run" : Text))

/-- How many occurrences of a range are listed. -/
abbrev rangeSample : Nat := 20

/-- The occurrences of a range, the first ones line by line. -/
def rangeRuns (found : List Moment) : Text :=
  if found.isEmpty then Layout.print "No runs found in this range."
  else
    Layout.print (natText found.length ++ " runs in this range:") ++
      ((found.take rangeSample).zipIdx.flatMap fun x =>
        Layout.print ("  " ++ Text.padLeft 3 ' ' (natText (x.2 + 1)) ++ ". " ++
          (Civil.ofWall x.1.wall).wordStamp)) ++
      if found.length ≤ rangeSample then []
      else Layout.print ("  ... and " ++ natText (found.length - rangeSample) ++ " more")

/-- The occurrences between two times. -/
def range (e : Expression) (start stop : DateTime) (found : List Moment) : Text :=
  testHeading e ++
    Layout.print ("Range: " ++ (Civil.ofWall start.wall).dateStamp ++ " to " ++
      (Civil.ofWall stop.wall).dateStamp) ++
    Layout.print [] ++ rangeRuns found

end Crontab.Plain
