import Crontab.Occurrence
import Crontab.Sentence

/-!
# Comparison

Two expressions are compared field by field, by the numbers that the fields select and not by the
way they are written.  Beside that the comparison tells how many of the next ten occurrences of the
first expression coincide with one of the second.

Two occurrences coincide when they are less than a minute apart.  Moments that a named zone tells
are compared on the face of its clocks, those of the zone that the program runs in on the line of
UTC (`Zone.apart`).
-/

namespace Crontab

/-! ## Coincidence -/

/-- How far apart two moments of a zone are. -/
def Zone.apart (z : Zone) (a b : Moment) : Nat :=
  match z.name? with
  | some _ => (a.wall - b.wall).natAbs
  | none => (a.instant - b.instant).natAbs

/-- Whether two moments of a zone coincide. -/
def Zone.coincide (z : Zone) (a b : Moment) : Bool := decide (z.apart a b < 60000000)

/-- How many moments of a list coincide with one of another list. -/
def overlap (z : Zone) (first second : List Moment) : Nat :=
  first.countP fun a => second.any (z.coincide a)

/-- How many occurrences are compared. -/
abbrev overlapSample : Nat := 10

/-! ## Comparison -/

/-- Two fields that select different numbers. -/
structure Difference where
  label : Text
  first : Text
  second : Text
  deriving DecidableEq, Repr

/-- What a comparison of two valid expressions finds. -/
structure Comparison where
  differences : List Difference
  /-- The labels of the fields that select the same numbers. -/
  similarities : List Text
  overlap : Nat
  firstSentence : Text
  secondSentence : Text
  deriving DecidableEq, Repr

/-- Which of two expressions cannot be compared, and what is wrong with it. -/
inductive Incomparable where
  | first (errorLine : Text)
  | second (errorLine : Text)
  deriving DecidableEq, Repr

/-- The wording of a refusal. -/
def Incomparable.message : Incomparable → Text
  | first line => "First expression invalid: " ++ line
  | second line => "Second expression invalid: " ++ line

namespace Comparison

/-- Whether no difference was found. -/
def same (c : Comparison) : Bool := c.differences.isEmpty

end Comparison

namespace Fields

/-- Whether two expressions select the same numbers at a position. -/
def agreeAt (f g : Fields) (p : Position) : Bool := (f.get p).values == (g.get p).values

/-- The fields that select different numbers. -/
def differences (f g : Fields) : List Difference :=
  (Position.all.filter fun p => !f.agreeAt g p).map fun p =>
    ⟨p.label, (f.get p).raw, (g.get p).raw⟩

/-- The labels of the fields that select the same numbers. -/
def similarities (f g : Fields) : List Text :=
  (Position.all.filter fun p => f.agreeAt g p).map Position.label

end Fields

/-- Compare two expressions by their fields and by their occurrences from a time on.  `@reboot` has
no fields: it is the same as itself only, and then the whole schedules are the difference. -/
def Expression.compare (e₁ e₂ : Expression) (zone : Except Fault Zone) (start : AskedTime) :
    Except Fault (Except Incomparable Comparison) :=
  if !e₁.isValid then .ok (.error (.first e₁.errorLine))
  else if !e₂.isValid then .ok (.error (.second e₂.errorLine))
  else
    match e₁.schedule?, e₂.schedule? with
    | some f, some g => do
      let runs₁ ← e₁.runsAfter zone overlapSample start
      let runs₂ ← e₂.runsAfter zone overlapSample start
      let z ← zone
      return .ok
        ⟨f.differences g, f.similarities g, overlap z runs₁ runs₂, e₁.sentence, e₂.sentence⟩
    | none, none => .ok (.ok ⟨[], [], 0, e₁.sentence, e₂.sentence⟩)
    | _, _ =>
      .ok (.ok
        ⟨[⟨"schedule", e₁.canonical, e₂.canonical⟩], [], 0, e₁.sentence, e₂.sentence⟩)

/-- Compare two texts that are meant as expressions. -/
def compare (first second : Text) (zone : Except Fault Zone) (start : AskedTime) :
    Except Fault (Except Incomparable Comparison) := do
  let e₁ ← Expression.read first
  let e₂ ← Expression.read second
  e₁.compare e₂ zone start

end Crontab
