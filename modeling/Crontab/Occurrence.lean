import Crontab.Expression
import Crontab.Zone.Basic

/-!
# Occurrences

An expression *fires* in the minutes whose reading on the clocks of a zone satisfies four
conditions: minute, hour and month are selected, and so is the day.  The day is selected by either
of the two day fields when both put a condition on it, and by the other one when one of them is `*`
(`Fields.firesOn`).

Occurrences are found by walking along the line of UTC, minute by minute, and looking at the clocks
of the zone (`Fields.walk`).  When the hour or the day that the clocks show is not selected, the
rest of that hour is passed over.  A walk covers at most 366 days, so an expression that never fires
has no occurrences.  Since the walk goes along the line of UTC, a reading that the clocks skip is
never met and one that they repeat is met twice.

`Expression.runsAfter` and `Expression.runsBetween` are the two windows in which occurrences are
asked for, and `Expression.firesAt` asks about one time.
-/

namespace Crontab

/-! ## The condition -/

namespace Fields

/-- Whether the day of a reading is selected. -/
def firesOn (f : Fields) (c : Civil) : Bool :=
  if f.dayOfMonth.isAny && f.dayOfWeek.isAny then true
  else if f.dayOfMonth.isAny then f.dayOfWeek.values.contains c.weekday
  else if f.dayOfWeek.isAny then f.dayOfMonth.values.contains c.date.day
  else f.dayOfMonth.values.contains c.date.day || f.dayOfWeek.values.contains c.weekday

/-- Whether the month, the hour and the day of a reading are selected. -/
def firesInHour (f : Fields) (c : Civil) : Bool :=
  f.month.values.contains c.date.month && f.hour.values.contains c.hour && f.firesOn c

/-- Whether the minute of a reading is selected. -/
def fires (f : Fields) (c : Civil) : Bool :=
  f.minute.values.contains c.minute && f.firesInHour c

/-! ## The walk -/

/-- Walk over the next `left` minutes from the minute with the number `k` on, and give the numbers
of the first `limit` of them in which the fields fire.  The next `skip` minutes are passed over
without being looked at. -/
def walk (f : Fields) (z : Zone) : (left skip limit : Nat) → (k : Int) → Except Fault (List Int)
  | 0, _, _, _ => .ok []
  | left + 1, skip + 1, limit, k => walk f z left skip limit (k + 1)
  | _ + 1, 0, 0, _ => .ok []
  | left + 1, 0, limit + 1, k => do
    let shown := Civil.ofWall (← z.tell (k * oneMinute)).wall
    if f.firesInHour shown then
      let _ ← onLine ((k + 1) * oneMinute)
      if f.minute.values.contains shown.minute then
        return k :: (← walk f z left 0 limit (k + 1))
      else walk f z left 0 (limit + 1) (k + 1)
    else
      let _ ← onLine ((k + (60 - shown.minute)) * oneMinute)
      walk f z left (59 - shown.minute) (limit + 1) (k + 1)

/-- The occurrences in the next `left` minutes, at most `limit` of them, told by the clocks of the
zone. -/
def occurrences (f : Fields) (z : Zone) (left limit : Nat) (k : Int) :
    Except Fault (List Moment) :=
  return (← f.walk z left 0 limit k).map fun k => z.momentAt (k * oneMinute)

end Fields

/-! ## Windows -/

/-- The length of the longest window, in minutes: 366 days. -/
abbrev windowLength : Nat := 366 * 24 * 60

/-- The end of the longest window that starts with a minute. -/
def windowEnd (k : Int) : Except Fault Int := onLine ((k + windowLength) * oneMinute)

/-- The number of minutes that start at or after the minute `k` and before a time. -/
def minutesBefore (t k : Int) : Nat := ((t + (oneMinute - 1)) / oneMinute - k).toNat

namespace Fields

/-- The first occurrences after the minute of a time. -/
def runsAfter (f : Fields) (z : Zone) (count : Nat) (start : AskedTime) :
    Except Fault (List Moment) := do
  let first := minuteOf (← start.instant z) + 1
  let _ ← onLine (first * oneMinute)
  let _ ← windowEnd first
  f.occurrences z windowLength count first

/-- The first occurrences from the minute of one time to another time. -/
def runsBetween (f : Fields) (z : Zone) (limit : Nat) (start stop : AskedTime) :
    Except Fault (List Moment) := do
  let first := minuteOf (← start.instant z)
  let close ← onLine ((← stop.instant z) + oneMinute)
  let far ← windowEnd first
  f.occurrences z (minutesBefore (min close far) first) limit first

end Fields

/-! ## Questions -/

/-- The reading that is looked at when an expression is asked about a time.  One without an offset is
taken as it stands, whichever zone is asked about, and so is a reading of the clocks of this very zone.
Any other time is told by the clocks of the zone. -/
def AskedTime.face (zone : Except Fault Zone) : AskedTime → Except Fault Int
  | plain (.reading w _) => .ok w
  | plain (.moment m) => do return (← (← zone).tell (← onLine m.instant)).wall
  | zoned home w later => do
    let z ← zone
    if z.isSame home then return w
    else return (← z.tell (← (DateTime.reading w later).instant home)).wall

namespace Expression

/-- The first `count` occurrences after the minute of a time.  An expression without times has none,
and then, as when none are asked for, it does not matter whether the zone exists. -/
def runsAfter (e : Expression) (zone : Except Fault Zone) (count : Int) (start : AskedTime) :
    Except Fault (List Moment) :=
  match e.schedule? with
  | none => .ok []
  | some f =>
    if count ≤ 0 then .ok []
    else do f.runsAfter (← zone) count.toNat start

/-- The first `limit` occurrences from the minute of one time to another time. -/
def runsBetween (e : Expression) (zone : Except Fault Zone) (limit : Int)
    (start stop : AskedTime) : Except Fault (List Moment) :=
  match e.schedule? with
  | none => .ok []
  | some f =>
    if limit ≤ 0 then .ok []
    else do f.runsBetween (← zone) limit.toNat start stop

/-- Whether the expression fires in the minute of a time. -/
def firesAt (e : Expression) (zone : Except Fault Zone) (t : AskedTime) : Except Fault Bool :=
  match e.schedule? with
  | none => .ok false
  | some f => do return f.fires (Civil.ofWall (← t.face zone))

/-- Page through the occurrences: each page starts where the one before ended, and the first empty
page is the last. -/
def pages (e : Expression) (zone : Except Fault Zone) (count : Int) :
    Nat → AskedTime → Except Fault (List (List Moment))
  | 0, _ => .ok []
  | n + 1, start => do
    let page ← e.runsAfter zone count start
    match page.getLast? with
    | none => return [page]
    | some last => return page :: (← pages e zone count n (DateTime.moment last))

end Expression

end Crontab
