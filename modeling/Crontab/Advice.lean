import Crontab.Calendar.Month
import Crontab.Expression

/-!
# Advice

Beside its errors, an expression may deserve a warning: it is valid, but may not mean what its
author thinks.  `Expression.warnings` lists them in a fixed order, `Expression.validate` gives the
whole verdict.
-/

namespace Crontab

/-- What may be other than intended in an expression. -/
inductive Warning where
  /-- The field in front, for the seconds, has no effect. -/
  | secondsIgnored
  /-- With both day fields set, either of them is enough. -/
  | eitherDay
  /-- No selected month has any of the selected days. -/
  | neverRuns
  deriving DecidableEq, Repr

namespace Warning

/-- The wording of a warning. -/
def message : Warning → Text
  | secondsIgnored => "6 fields given: the leading seconds field is ignored"
  | eitherDay =>
    "Both day of month and day of week are set: the job runs when either one matches, " ++
      "not only when both do"
  | neverRuns => "Day of month never occurs in the selected months: this may never run"

end Warning

/-- Whether some selected day occurs in some selected month of a leap year. -/
def Fields.dayOccurs (f : Fields) : Bool :=
  f.dayOfMonth.values.any fun d => f.month.values.any fun m => decide (d ≤ daysInMonth true m)

/-- The warnings about the day fields. -/
def Fields.dayWarnings (f : Fields) : List Warning :=
  if f.dayOfMonth.isAny then []
  else if !f.dayOfWeek.isAny then [.eitherDay]
  else if !f.dayOfMonth.values.isEmpty && !f.month.values.isEmpty && !f.dayOccurs then [.neverRuns]
  else []

namespace Expression

/-- What may be other than intended. -/
def warnings (e : Expression) : List Warning :=
  match e.content with
  | .timed f ignored => (if ignored then [.secondsIgnored] else []) ++ f.dayWarnings
  | _ => []

end Expression

/-- The verdict on a text that is meant as an expression. -/
structure Verdict where
  valid : Bool
  errors : List Text
  warnings : List Warning
  suggestion : Option Text
  deriving DecidableEq, Repr

/-- Judge a text that is meant as an expression. -/
def validate (s : Text) : Except Fault Verdict := do
  let e ← Expression.read s
  return ⟨e.isValid, e.errors, e.warnings, e.suggestion?⟩

end Crontab
