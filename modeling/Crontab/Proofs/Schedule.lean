import Crontab.Proofs.Walk.Window

/-!
# What a schedule depends on

Of its five fields a schedule uses the selected numbers and, for the two day fields, whether the field
is `*`.  Two expressions that agree in these fire alike at every reading of a clock
(`Fields.firesInHour_of_alike`), however they are written.

Two expressions that fire alike give the same answers: `Expression.firesAt_congr` for the question
about one time, and `Expression.runsAfter_congr` for the question for the next runs.  The second needs
more than the first.  A walk jumps where the month, the hour or the day is not selected, whatever the
minute, so it is asked that the expressions agree in these and in the selected minutes; then the two
walks make the same steps, and when one of them stops with a fault, so does the other.  An expression
that fires at no reading (`Fields.NeverFires`) has no runs in any window.
-/

namespace Crontab

namespace Fields

variable {f g : Fields}

/-- Two expressions select the same numbers at every position. -/
def SelectAlike (f g : Fields) : Prop := ∀ p, (f.get p).values = (g.get p).values

/-- Of the two day fields, the same ones are `*` in two expressions. -/
def StarAlike (f g : Fields) : Prop :=
  f.dayOfMonth.isAny = g.dayOfMonth.isAny ∧ f.dayOfWeek.isAny = g.dayOfWeek.isAny

lemma firesInHour_of_alike (hselect : f.SelectAlike g) (hstar : f.StarAlike g) (c : Civil) :
    f.firesInHour c = g.firesInHour c := by
  have hhour : f.hour.values = g.hour.values := hselect .hour
  have hday : f.dayOfMonth.values = g.dayOfMonth.values := hselect .dayOfMonth
  have hmonth : f.month.values = g.month.values := hselect .month
  have hweekday : f.dayOfWeek.values = g.dayOfWeek.values := hselect .dayOfWeek
  simp only [firesInHour, firesOn, hhour, hday, hmonth, hweekday, hstar.1, hstar.2]

/-- The fields fire at no reading of a clock. -/
def NeverFires (f : Fields) : Prop := ∀ w, f.fires (Civil.ofWall w) = false

lemma eq_nil_of_occurrences (hnever : f.NeverFires) {z : Zone} {left limit : Nat} {k : Int}
    {found : List Moment} (h : f.occurrences z left limit k = .ok found) : found = [] := by
  rw [eq_runs_of_occurrences h, List.eq_nil_iff_forall_not_mem]
  intro r hr
  obtain ⟨v, -, -, hfires⟩ := mem_runs_window hr
  rw [firesIn, Zone.shown, hnever] at hfires
  simp at hfires

/-- Walks that agree in every hour and in the selected minutes make the same steps. -/
lemma walk_congr (hminute : f.minute.values = g.minute.values)
    (hhour : ∀ w, f.firesInHour (Civil.ofWall w) = g.firesInHour (Civil.ofWall w)) (z : Zone)
    (left skip limit : Nat) (k : Int) : f.walk z left skip limit k = g.walk z left skip limit k := by
  induction left generalizing skip limit k with
  | zero => simp
  | succ left ih =>
    cases skip with
    | succ skip => simp only [walk, ih]
    | zero =>
      cases limit with
      | zero => simp
      | succ limit => simp only [walk, hhour, hminute, ih]

end Fields

namespace Expression

variable {e e' : Expression} {f g : Fields}

theorem runsAfter_congr (hf : e.schedule? = some f) (hg : e'.schedule? = some g)
    (hminute : f.minute.values = g.minute.values)
    (hhour : ∀ w, f.firesInHour (Civil.ofWall w) = g.firesInHour (Civil.ofWall w))
    (zone : Except Fault Zone) (count : Int) (start : AskedTime) :
    e.runsAfter zone count start = e'.runsAfter zone count start := by
  have hwalk := Fields.walk_congr hminute hhour
  simp only [runsAfter, hf, hg, Fields.runsAfter, Fields.occurrences, hwalk]

theorem runsBetween_congr (hf : e.schedule? = some f) (hg : e'.schedule? = some g)
    (hminute : f.minute.values = g.minute.values)
    (hhour : ∀ w, f.firesInHour (Civil.ofWall w) = g.firesInHour (Civil.ofWall w))
    (zone : Except Fault Zone) (limit : Int) (start stop : AskedTime) :
    e.runsBetween zone limit start stop = e'.runsBetween zone limit start stop := by
  have hwalk := Fields.walk_congr hminute hhour
  simp only [runsBetween, hf, hg, Fields.runsBetween, Fields.occurrences, hwalk]

theorem firesAt_congr (hf : e.schedule? = some f) (hg : e'.schedule? = some g)
    (hfires : ∀ w, f.fires (Civil.ofWall w) = g.fires (Civil.ofWall w))
    (zone : Except Fault Zone) (t : AskedTime) : e.firesAt zone t = e'.firesAt zone t := by
  simp only [firesAt, hf, hg, hfires]

/-- Expressions that select the same numbers and are `*` in the same day fields have the same runs. -/
theorem runsAfter_eq_of_alike (hf : e.schedule? = some f) (hg : e'.schedule? = some g)
    (hselect : f.SelectAlike g) (hstar : f.StarAlike g) (zone : Except Fault Zone) (count : Int)
    (start : AskedTime) : e.runsAfter zone count start = e'.runsAfter zone count start :=
  runsAfter_congr hf hg (hselect .minute) (fun _ => Fields.firesInHour_of_alike hselect hstar _)
    zone count start

/-- The same for the runs between two times. -/
theorem runsBetween_eq_of_alike (hf : e.schedule? = some f) (hg : e'.schedule? = some g)
    (hselect : f.SelectAlike g) (hstar : f.StarAlike g) (zone : Except Fault Zone) (limit : Int)
    (start stop : AskedTime) :
    e.runsBetween zone limit start stop = e'.runsBetween zone limit start stop :=
  runsBetween_congr hf hg (hselect .minute) (fun _ => Fields.firesInHour_of_alike hselect hstar _)
    zone limit start stop

/-- Expressions that select the same numbers and are `*` in the same day fields fire at the same
times. -/
theorem firesAt_eq_of_alike (hf : e.schedule? = some f) (hg : e'.schedule? = some g)
    (hselect : f.SelectAlike g) (hstar : f.StarAlike g) (zone : Except Fault Zone) (t : AskedTime) :
    e.firesAt zone t = e'.firesAt zone t := by
  have hminute : f.minute.values = g.minute.values := hselect .minute
  refine firesAt_congr hf hg (fun w => ?_) zone t
  rw [Fields.fires, Fields.fires, hminute, Fields.firesInHour_of_alike hselect hstar]

/-- An expression that never fires has no runs after a time. -/
theorem runsAfter_eq_nil_of_neverFires (hf : e.schedule? = some f) (hnever : f.NeverFires)
    {zone : Except Fault Zone} {count : Int} {start : AskedTime} {found : List Moment}
    (h : e.runsAfter zone count start = .ok found) : found = [] := by
  rcases runsAfter_cases h with ⟨rfl, -⟩ | ⟨f', z, t, hf', -, -, -, -, hwalk⟩
  · rfl
  · obtain rfl : f = f' := by simpa [hf] using hf'
    exact Fields.eq_nil_of_occurrences hnever hwalk

/-- An expression that never fires has no runs between two times. -/
theorem runsBetween_eq_nil_of_neverFires (hf : e.schedule? = some f) (hnever : f.NeverFires)
    {zone : Except Fault Zone} {limit : Int} {start stop : AskedTime} {found : List Moment}
    (h : e.runsBetween zone limit start stop = .ok found) : found = [] := by
  rcases runsBetween_cases h with ⟨rfl, -⟩ | ⟨f', z, t, u, hf', -, -, -, -, -, hwalk⟩
  · rfl
  · obtain rfl : f = f' := by simpa [hf] using hf'
    exact Fields.eq_nil_of_occurrences hnever hwalk

end Expression

end Crontab
