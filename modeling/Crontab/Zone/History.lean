import Crontab.Zone.Basic

/-!
# Offset histories

The clocks of a place have an offset at first, and change it at certain instants.  A `History` lists
these changes in ascending order.  It gives a time zone in two ways, which differ only in readings
that the clocks never show because they were set forward:

* `History.named` is the zone under a name.  A skipped reading is taken with the offset from before
  the change.
* `History.here` is the zone that the program runs in.  It looks for an instant at which the clocks
  show the reading, trying the offsets that rule nearby; a skipped reading is taken with the offset
  from after the change.

In both, a reading that is shown twice is taken with the earlier offset unless the later time is
asked for.
-/

namespace Crontab

/-- From the instant `since` on, the clocks are `offset` ahead of UTC. -/
structure Change where
  since : Int
  offset : Int
  deriving DecidableEq, Repr

/-- The offsets of the clocks of a place. -/
structure History where
  initial : Int
  changes : List Change
  deriving DecidableEq, Repr

namespace History

/-- The offset after all leading changes that have come into force: those whose threshold, which may
depend on the offset before, is reached. -/
def ruling (threshold : Int → Change → Int) (t : Int) : Int → List Change → Int
  | offset, [] => offset
  | offset, c :: cs => if threshold offset c ≤ t then ruling threshold t c.offset cs else offset

/-- The offset at an instant. -/
def offsetAt (h : History) (t : Int) : Int := ruling (fun _ c => c.since) t h.initial h.changes

/-! ## Under a name -/

/-- The offset that a reading is taken with, when a skipped reading keeps the offset before. -/
def offsetOf (h : History) (w : Int) (later : Bool) : Int :=
  ruling (fun before c => c.since + if later then min before c.offset else max before c.offset) w
    h.initial h.changes

/-- The zone of a history under its name. -/
def named (name : Text) (h : History) : Zone :=
  ⟨some name, h.offsetAt, fun w later => .ok (h.offsetOf w later)⟩

/-! ## Where the program runs -/

/-- The reading of the clocks at an instant, which has to be in the years 1 to 9999. -/
def readingAt (h : History) (t : Int) : Except Fault Int :=
  let w := t + h.offsetAt t
  if w < 0 then .error (.yearOutOfRange 0)
  else if lineEnd ≤ w then .error (.yearOutOfRange 10000)
  else .ok w

/-- An instant at which the clocks show a reading: the reading is tried with the offset that rules
at its own number, and with the one that rules a day earlier or later than the instant found so. -/
def solve (h : History) (w : Int) (later : Bool) : Except Fault Int := do
  let a := (← h.readingAt w) - w
  let u := w - a
  let shown ← h.readingAt u
  let b ←
    if shown = w then do
      let near := if later then u + oneDay else u - oneDay
      pure ((← h.readingAt near) - near)
    else pure (shown - u)
  if shown = w ∧ a = b then return u
  else
    let v := w - b
    if (← h.readingAt v) = w then return v
    else if shown = w then return u
    else return if later then min u v else max u v

/-- The offset that rules at the instant found for a reading, if that instant and the reading of the
clocks at it are on the line. -/
def offsetOfHere (h : History) (w : Int) (later : Bool) : Except Fault Int := do
  let offset := h.offsetAt (← h.solve w later)
  let t ← onLine (w - offset)
  let _ ← onLine (t + h.offsetAt t)
  return offset

/-- The zone of a history for a program that runs there. -/
def here (h : History) : Zone := ⟨none, h.offsetAt, h.offsetOfHere⟩

end History

end Crontab
