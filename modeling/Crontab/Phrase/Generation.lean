import Crontab.Phrase.Clause
import Crontab.Sentence

/-!
# Generation

From a phrase in restricted English to an expression.  A set phrase decides if there is one,
otherwise the clauses do.  What they give is read as an expression again: only a valid one is handed
out, together with the sentence that tells it.
-/

namespace Crontab

/-- What a phrase gives. -/
inductive Generation where
  /-- An expression, and the sentence that tells it. -/
  | success (expression sentence : Text)
  /-- Nothing in the phrase was understood. -/
  | notUnderstood
  /-- The phrase was understood as something that is no valid expression. -/
  | invalid (drafted errorLine : Text)
  deriving DecidableEq, Repr

namespace Generation

/-- What to try when nothing was generated. -/
def hint : Text :=
  "Try patterns like: \"every 5 minutes\", \"at 3pm on weekdays\", \"every monday at 9am\""

/-- The wording of a failure. -/
def error? : Generation → Option Text
  | success _ _ => none
  | notUnderstood => some "Could not parse the description"
  | invalid _ line => some ("Generated an invalid expression: " ++ line)

/-- The generated expression. -/
def expression? : Generation → Option Text
  | success e _ => some e
  | _ => none

/-- The sentence for the generated expression. -/
def sentence? : Generation → Option Text
  | success _ t => some t
  | _ => none

/-- What to try instead. -/
def suggestion? : Generation → Option Text
  | success _ _ => none
  | _ => some hint

end Generation

/-- The template that a phrase stands for. -/
def Template.ofPhrase? (phrase : Text) : Option Template :=
  let s := Text.trim (Text.lower phrase)
  (setPhrase? s).or (Draft.compose s).template?

/-- Generate an expression from a phrase. -/
def generate (phrase : Text) : Except Fault Generation :=
  match Template.ofPhrase? phrase with
  | none => return .notUnderstood
  | some t => do
    let e ← Expression.read t.text
    if e.isValid then return .success t.text e.sentence
    else return .invalid t.text e.errorLine

/-! ## Examples -/

/-- Common schedules, described in words. -/
def examples : List (Text × Text) :=
  [("Every minute", "* * * * *"),
    ("Every 5 minutes", "*/5 * * * *"),
    ("Every hour", "0 * * * *"),
    ("Every day at midnight", "0 0 * * *"),
    ("Every day at 9am", "0 9 * * *"),
    ("Every Monday at 9am", "0 9 * * 1"),
    ("Weekdays at 9am", "0 9 * * 1-5"),
    ("First day of month at midnight", "0 0 1 * *"),
    ("Every 15th at noon", "0 12 15 * *"),
    ("Every Sunday at 6pm", "0 18 * * 0"),
    ("Twice daily (9am and 5pm)", "0 9,17 * * *"),
    ("Every quarter (Jan, Apr, Jul, Oct)", "0 0 1 1,4,7,10 *")]

end Crontab
