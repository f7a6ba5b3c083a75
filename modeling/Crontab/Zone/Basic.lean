import Crontab.Time.Moment

/-!
# Time zones

All that the search for occurrences asks of a time zone is `offsetAt`: how far its clocks are ahead
of UTC at an instant.  No assumption is made about this function.  The other direction, from the
reading of a clock to an instant, is not determined by it where clocks are set back or forward, so a
zone brings its own answer, `offsetOf`.

A zone with a name tells moments by its clocks.  The zone without a name is the one that the program
runs in.

A time that a question is asked about may carry a zone along (`AskedTime`).  Its instant is then found
with that zone and with no other.
-/

namespace Crontab

/-- A time zone. -/
structure Zone where
  /-- The name of the zone, none for the zone that the program runs in. -/
  name? : Option Text
  /-- The offset of the clocks at an instant. -/
  offsetAt : Int → Int
  /-- The offset that a reading of the clocks is taken with; the second argument asks for the later
  of two times with this reading. -/
  offsetOf : Int → Bool → Except Fault Int

namespace Zone

/-- The moment that the clocks of the zone show at an instant. -/
def momentAt (z : Zone) (t : Int) : Moment := ⟨t, z.offsetAt t⟩

/-- The moment that the clocks of the zone show at an instant, if the reading is on the line. -/
def tell (z : Zone) (t : Int) : Except Fault Moment := do
  let _ ← onLine (z.momentAt t).wall
  return z.momentAt t

@[simp] theorem instant_momentAt (z : Zone) (t : Int) : (z.momentAt t).instant = t := rfl

/-- Whether a zone is the same as another one: zones are told apart by their names, and one without a
name is the same as none. -/
def isSame (z y : Zone) : Bool := z.name?.isSome && z.name? == y.name?

@[simp] theorem isSame_self (z : Zone) : z.isSame z = z.name?.isSome := by
  simp [isSame]

/-- The zone whose clocks are always the same amount ahead of UTC. -/
def fixed (name? : Option Text) (offset : Int) : Zone :=
  ⟨name?, fun _ => offset, fun _ _ => .ok offset⟩

end Zone

/-- The instant of a date and time; a reading is one of the clocks of the zone. -/
def DateTime.instant (z : Zone) : DateTime → Except Fault Int
  | .moment m => onLine m.instant
  | .reading w later => do
    let offset ← z.offsetOf w later
    onLine (w - offset)

@[simp] theorem DateTime.instant_moment (z : Zone) (m : Moment) :
    (moment m).instant z = onLine m.instant := rfl

/-! ## Times that are asked about -/

/-- A time that is asked about. -/
inductive AskedTime where
  /-- A date and time with an offset or without one. -/
  | plain (t : DateTime)
  /-- What the clocks of a zone show, together with this zone; `later` tells the second of two times
  with this reading. -/
  | zoned (home : Zone) (wall : Int) (later : Bool)

/-- A date and time may be written where a time is asked about. -/
instance : Coe DateTime AskedTime := ⟨AskedTime.plain⟩

namespace AskedTime

/-- The instant of a time: a reading is one of the clocks of the zone that it carries, and otherwise of
the zone that is asked about. -/
def instant (z : Zone) : AskedTime → Except Fault Int
  | plain t => t.instant z
  | zoned home w later => (DateTime.reading w later).instant home

@[simp] theorem instant_plain (z : Zone) (t : DateTime) : (plain t).instant z = t.instant z := rfl

@[simp] theorem instant_zoned (z home : Zone) (w : Int) (later : Bool) :
    (zoned home w later).instant z = (DateTime.reading w later).instant home := rfl

end AskedTime

end Crontab
