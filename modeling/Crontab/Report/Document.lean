import Crontab.Advice
import Crontab.Comparison
import Crontab.Dialect.Conversion
import Crontab.Json
import Crontab.Phrase.Generation
import Crontab.Report.Stamp
import Crontab.Time.Iso

/-!
# Documents

Every result has a form for programs beside the one for readers: a JSON document.  The members of a
document are always the same ones in the same order; what a result does not have is `null`, or the
empty list.
-/

namespace Crontab

/-- The members with one more, which takes the place of one under the same name. -/
def Json.withMember (members : List (Text × Json)) (name : Text) (x : Json) : List (Text × Json) :=
  if members.any fun m => m.1 == name then
    members.map fun m => if m.1 == name then (name, x) else m
  else members ++ [(name, x)]

/-! ## Times -/

/-- The start of the year 1970. -/
abbrev epoch : Int := 719162 * oneDay

namespace Moment

/-- An occurrence: in UTC, on the clocks of its zone, and in seconds from the start of 1970. -/
def document (m : Moment) : Json :=
  .obj [("iso", .str ((Civil.ofWall m.instant).isoText ++ "Z")),
    ("local", .str (Civil.ofWall m.wall).secondStamp),
    ("unix", .int ((m.instant - epoch).tdiv oneSecond))]

end Moment

/-- Occurrences of an expression in a zone, with further members in front of them. -/
def runsDocument (expression zone : Text) (further : List (Text × Json)) (runs : List Moment) :
    Json :=
  let opening : List (Text × Json) := [("expression", .str expression), ("timezone", .str zone)]
  let described := further.foldl (fun ms m => Json.withMember ms m.1 m.2) opening
  .obj (Json.withMember (Json.withMember described "count" (.nat runs.length)) "next_runs"
    (.arr (runs.map Moment.document)))

/-! ## Expressions -/

/-- One field. -/
def Field.document (f : Field) : Json :=
  .obj [("values", .nats f.values), ("raw", .str f.raw), ("out_of_range", .nats f.outOfRange),
    ("invalid", .strs f.invalid)]

/-- The five fields under their names. -/
def Fields.document (f : Fields) : Json :=
  .obj (f.toList.map fun x => (x.1.key, x.2.document))

namespace Status

/-- The word for a status. -/
def word : Status → Text
  | ok => "ok"
  | reboot => "reboot"
  | fieldError => "field_error"
  | structuralError => "structural_error"

end Status

/-- An expression with everything that was read from it. -/
def Expression.document (e : Expression) : Json :=
  .obj [("status", .str e.status.word), ("original", .str e.source),
    ("fields", (e.fields?.map Fields.document).getD .null), ("errors", .strs e.errors),
    ("suggestion", .strOrNull e.suggestion?), ("seconds_ignored", .bool e.secondsIgnored),
    ("valid", .bool e.isValid), ("is_reboot", .bool e.isReboot), ("canonical", .str e.canonical)]

/-- A verdict. -/
def Verdict.document (v : Verdict) : Json :=
  .obj [("valid", .bool v.valid), ("errors", .strs v.errors),
    ("warnings", .strs (v.warnings.map Warning.message)), ("suggestion", .strOrNull v.suggestion)]

/-- An explanation: the expression, its sentence and its next occurrences in a zone. -/
def explanationDocument (e : Expression) (zone : Text) (runs : List Moment) : Json :=
  .obj [("expression", .str e.source), ("description", .str e.sentence), ("valid", .bool true),
    ("is_reboot", .bool e.isReboot), ("fields", (e.fields?.map Fields.document).getD .null),
    ("timezone", .str zone), ("next_runs", .arr (runs.map Moment.document))]

/-! ## Comparisons -/

/-- Two fields that differ. -/
def Difference.document (d : Difference) : Json :=
  .obj [("field", .str d.label), ("first", .str d.first), ("second", .str d.second)]

/-- A comparison, or the reason why there is none. -/
def comparisonDocument : Except Incomparable Comparison → Json
  | .error why =>
    .obj [("valid", .bool false), ("error", .str why.message), ("same", .bool false),
      ("differences", .arr []), ("similarities", .arr []), ("overlap", .nat 0),
      ("descriptions", .null)]
  | .ok c =>
    .obj [("valid", .bool true), ("error", .null), ("same", .bool c.same),
      ("differences", .arr (c.differences.map Difference.document)),
      ("similarities", .strs c.similarities), ("overlap", .nat c.overlap),
      ("descriptions",
        .obj [("first", .str c.firstSentence), ("second", .str c.secondSentence)])]

/-! ## Phrases -/

/-- What a phrase gave. -/
def Generation.document (g : Generation) : Json :=
  .obj [("success", .bool g.expression?.isSome), ("expression", .strOrNull g.expression?),
    ("description", .strOrNull g.sentence?), ("error", .strOrNull g.error?),
    ("suggestion", .strOrNull g.suggestion?)]

/-- The common schedules. -/
def examplesDocument : Json :=
  .arr (examples.map fun x => .obj [("description", .str x.1), ("expression", .str x.2)])

/-! ## Dialects -/

/-- What a conversion gave.  A refusal restricts nothing, so it counts as exact. -/
def Conversion.document : Conversion → Json
  | .done c =>
    .obj [("success", .bool true), ("format", .str c.dialect.name), ("result", .str c.result),
      ("expression", .strOrNull c.expression?), ("error", .null),
      ("note", .strOrNull (c.note?.map Note.message)), ("description", .strOrNull c.sentence?),
      ("exact", .bool c.exact)]
  | .refused dialect? why =>
    .obj [("success", .bool false), ("format", .strOrNull (dialect?.map Dialect.name)),
      ("result", .null), ("expression", .null), ("error", .str why.message), ("note", .null),
      ("description", .null), ("exact", .bool true)]

/-- The notations and what they are. -/
def dialectsDocument : Json := .obj (Dialect.all.map fun d => (d.name, .str d.label))

/-! ## Dates -/

/-- An offset as `+HH:MM`, cut to the minute, or `Z` if it is zero when rounded to the second. -/
def shortOffsetText (offset : Int) : Text :=
  let seconds := (2 * offset.natAbs + 1000000) / 2000000
  if seconds = 0 then "Z"
  else
    (if offset < 0 then '-' else '+') :: paddedText 2 (seconds / 3600) ++ ":" ++
      paddedText 2 (seconds / 60 % 60)

/-- A date and time to be tested. -/
def DateTime.testedText : DateTime → Text
  | .reading w _ => (Civil.ofWall w).isoText
  | .moment m => (Civil.ofWall m.wall).isoText ++ shortOffsetText m.offset

/-- Dates that were tested, each with whether the expression fires then. -/
def testsDocument (e : Expression) (tests : List (DateTime × Bool)) : Json :=
  .obj [("expression", .str e.source), ("description", .str e.sentence),
    ("tests", .arr (tests.map fun t =>
      .obj [("instant", .str t.1.testedText), ("matches", .bool t.2)]))]

/-- The occurrences between two times. -/
def rangeDocument (e : Expression) (start stop : DateTime) (runs : List Moment) : Json :=
  .obj [("expression", .str e.source), ("description", .str e.sentence),
    ("range", .obj [("start", .str start.isoText), ("end", .str stop.isoText)]),
    ("match_count", .nat runs.length), ("matches", .strs (runs.map Moment.isoText))]

end Crontab
