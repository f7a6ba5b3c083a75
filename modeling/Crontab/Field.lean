import Crontab.Ascending
import Crontab.Numeral.Reader
import Crontab.Position

/-!
# Fields

A field is the text at one position, reduced to the set of numbers that it selects.  After names
have been replaced by their numbers, a field is a list of *segments* with commas between them:

* `*` selects every number within the bounds,
* `N` selects one number,
* `A-B` selects the numbers from `A` to `B`,
* and each of these may be followed by `/S`, which keeps every `S`-th number from the first one on;
  `N/S` runs from `N` to the greatest number.

A segment that cannot be read, and a number outside the bounds, do not spoil the rest of the field:
they are recorded beside the numbers that the other segments select.

`Segment.read?` reads one segment, `Segment.values` says what it selects, and `Field.read` reads a
whole field.
-/

namespace Crontab

/-! ## Segments -/

/-- The part of a segment before its step. -/
inductive Span where
  /-- Every number within the bounds. -/
  | all
  /-- The numbers from `first` to `last`, none if they are reversed. -/
  | range (first last : Nat)
  /-- One number. -/
  | single (value : Nat)
  deriving DecidableEq, Repr

/-- One segment of a field: a span, and its step if one is written. -/
structure Segment where
  span : Span
  step : Option Nat
  deriving DecidableEq, Repr

/-- The numbers from `first` to `last`, every `step`-th of them. -/
def stepped (first last step : Nat) : List Nat :=
  List.range' first ((last + 1 - first + (step - 1)) / step) step

/-- The first number at or above `least` that is reached from `first` in steps. -/
def aligned (least first step : Nat) : Nat :=
  if first < least then first + (least - first + (step - 1)) / step * step else first

namespace Segment

/-- Read the span of a segment whose step is known; `none` if it is no span. -/
def readSpan? (step : Option Nat) (body : Text) : Except Fault (Option Segment) :=
  if body = "*" then return some ⟨.all, step⟩
  else
    match Text.cut "-" body with
    | (_, none) => return (← readNat? body).map fun v => ⟨.single v, step⟩
    | (first, some last) => do
      let first ← readNat? first
      let last ← readNat? last
      match first, last with
      | some a, some b => return some ⟨.range a b, step⟩
      | _, _ => return none

/-- Read a segment; `none` if it cannot be read.  A step of zero would not advance, so it counts as
one, and a step that is left empty counts as absent. -/
def read? (s : Text) : Except Fault (Option Segment) :=
  match Text.cut "/" s with
  | (body, none) => readSpan? none body
  | (body, some []) => readSpan? none body
  | (body, some (c :: t)) => do
    match ← readNat? (c :: t) with
    | none => return none
    | some k => readSpan? (some (max k 1)) body

/-- The numbers that a segment selects at a position. -/
def values (p : Position) (s : Segment) : List Nat :=
  match s.span with
  | .all => (stepped p.least p.greatest (s.step.getD 1)).map p.stored
  | .range a b =>
    (stepped (aligned p.least a (s.step.getD 1)) (min b p.greatest) (s.step.getD 1)).map p.stored
  | .single v =>
    if p.inBounds v then
      match s.step with
      | none => [p.stored v]
      | some k => (stepped v p.greatest k).map p.stored
    else []

/-- The numbers of a segment that are outside the bounds of a position. -/
def outOfRange (p : Position) (s : Segment) : List Nat :=
  match s.span with
  | .all => []
  | .range a b => [a, b].filter fun v => !p.inBounds v
  | .single v => [v].filter fun v => !p.inBounds v

end Segment

/-! ## Fields -/

/-- One field of an expression. -/
structure Field where
  /-- The text of the field, in lower case and with names replaced by numbers. -/
  raw : Text
  /-- The selected numbers, strictly ascending. -/
  values : List Nat
  /-- The numbers outside the bounds, in order of appearance. -/
  outOfRange : List Nat
  /-- The segments that cannot be read, in order of appearance. -/
  invalid : List Text
  deriving DecidableEq, Repr

namespace Field

/-- Whether the field is literally `*`, so that it puts no condition on its position. -/
def isAny (f : Field) : Bool := f.raw == "*"

/-- Whether the field is written with a step. -/
def hasStep (f : Field) : Bool := f.raw.contains '/'

/-- Replace the names of a position by their numbers, one name after the other. -/
def replaceNames (p : Position) (s : Text) : Text :=
  p.names.foldl (fun t n => Text.replaceAll n.1 (natText n.2) t) s

/-- The text of a field as it is stored. -/
def normalize (p : Position) (s : Text) : Text := replaceNames p (Text.lower s)

/-- Read the field at a position. -/
def read (p : Position) (s : Text) : Except Fault Field := do
  let parts := Text.pieces ',' (normalize p s)
  let segments ← parts.mapM Segment.read?
  return {
    raw := normalize p s
    values := ascending ((segments.filterMap id).flatMap (Segment.values p))
    outOfRange := (segments.filterMap id).flatMap (Segment.outOfRange p)
    invalid := (parts.zip segments).filterMap fun x => if x.2.isNone then some x.1 else none
  }

/-- Whether every number of the field is within the bounds and every segment could be read. -/
def isSound (f : Field) : Bool := f.outOfRange.isEmpty && f.invalid.isEmpty

end Field

end Crontab
