import Crontab.Calendar.Date
import Crontab.Fault

/-!
# Moments

Time is counted in microseconds from the start of the year 1, on the line of UTC or on the face of a
clock.  Both lines end with the year 9999; `onLine` lets through what lies on them.

A `Moment` is an instant on the line of UTC together with the offset of the clock that tells it.  A
`DateTime` is what a user writes or a computation returns: a moment, or the reading of a clock
without any offset.  A reading that a clock shows twice carries which of the two times is meant.
Neither of them knows a time zone.

`Civil` takes a reading apart into date, weekday and time of day.
-/

namespace Crontab

/-! ## The line -/

/-- Microseconds of a second. -/
abbrev oneSecond : Int := 1000000

/-- Microseconds of a minute. -/
abbrev oneMinute : Int := 60000000

/-- Microseconds of an hour. -/
abbrev oneHour : Int := 3600000000

/-- Microseconds of a day. -/
abbrev oneDay : Int := 86400000000

/-- The end of the line: the year 10000 starts with day 3652059. -/
abbrev lineEnd : Int := 3652059 * oneDay

/-- A time, if it lies in the years 1 to 9999. -/
def onLine (t : Int) : Except Fault Int :=
  if 0 ≤ t ∧ t < lineEnd then .ok t else .error .dateOutOfRange

theorem onLine_eq_ok_iff {t u : Int} : onLine t = .ok u ↔ (0 ≤ t ∧ t < lineEnd) ∧ t = u := by
  unfold onLine
  split
  · next h => simp [h]
  · next h => simp [h]

/-- The number of the minute that a time lies in. -/
def minuteOf (t : Int) : Int := t / oneMinute

/-! ## Moments -/

/-- An instant, told by a clock that is `offset` ahead of UTC. -/
structure Moment where
  instant : Int
  offset : Int
  deriving DecidableEq, Repr

namespace Moment

/-- What the clock shows. -/
def wall (m : Moment) : Int := m.instant + m.offset

/-- A moment told in UTC. -/
def utc (instant : Int) : Moment := ⟨instant, 0⟩

/-- The moment at which a clock with this offset shows a reading. -/
def ofWall (wall offset : Int) : Moment := ⟨wall - offset, offset⟩

@[simp] theorem wall_ofWall (w o : Int) : (ofWall w o).wall = w := by
  simp [ofWall, wall]

@[simp] theorem wall_utc (t : Int) : (utc t).wall = t := by
  simp [utc, wall]

end Moment

/-- A date with a time of day. -/
inductive DateTime where
  /-- The reading of a clock; `later` tells the second of two times with this reading. -/
  | reading (wall : Int) (later : Bool)
  /-- A moment. -/
  | moment (m : Moment)
  deriving DecidableEq, Repr

/-- What the clock shows. -/
def DateTime.wall : DateTime → Int
  | .reading w _ => w
  | .moment m => m.wall

/-! ## Readings taken apart -/

/-- The reading of a clock, taken apart. -/
structure Civil where
  date : Date
  weekday : Nat
  hour : Nat
  minute : Nat
  second : Nat
  micro : Nat
  deriving DecidableEq, Repr

namespace Civil

/-- Take a reading apart. -/
def ofWall (w : Int) : Civil :=
  let n := (w / oneDay).toNat
  { date := Date.ofDay n
    weekday := Crontab.weekday n
    hour := (w / oneHour % 24).toNat
    minute := (w / oneMinute % 60).toNat
    second := (w / oneSecond % 60).toNat
    micro := (w % oneSecond).toNat }

theorem minute_ofWall_lt (w : Int) : (ofWall w).minute < 60 := by
  simp only [ofWall]; omega

theorem hour_ofWall_lt (w : Int) : (ofWall w).hour < 24 := by
  simp only [ofWall]; omega

theorem weekday_ofWall_lt (w : Int) : (ofWall w).weekday < 7 := Crontab.weekday_lt _

end Civil

/-- The reading at a time of day on a day. -/
def wallAt (dayNumber : Int) (h m s μ : Nat) : Int :=
  dayNumber * oneDay + h * oneHour + m * oneMinute + s * oneSecond + μ

/-- The reading at the start of the day that a reading lies in. -/
def startOfDay (w : Int) : Int := w / oneDay * oneDay

end Crontab
