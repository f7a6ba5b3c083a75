import Crontab.Proofs.Walk.Window

/-!
# What jumps pass over

Where the month, the hour or the day is not selected, a walk jumps to the end of the hour that the
clocks show.  The jump is measured on the clocks but made on the line of UTC, so it rests on the
clocks being left alone until the hour is over.  Where they are set inside an hour, a jump can pass
over a minute in which the expression fires.  Pacific/Chatham sets its clocks forward from 2:45, and a
jump from 2:00 leads to 4:00, past all that the clocks show from 3:45 on
(`chatham_run_passed_over`).

`runs_complete_iff` says for every question exactly when nothing is lost: when no jump that is made
before the wanted number of runs is found passes over a minute of the window in which the expression
fires (`Fields.JumpsClear`).  It also gives the zones for which nothing is ever lost, whatever the
expression and the time to start from: those that set their clocks only when an hour is over
(`Zone.TurnsOnTheHour`).  Whether a zone is one of them can be read off the changes of its clocks
(`History.turnsOnTheHour`).
-/

namespace Crontab

/-! ## The exact condition -/

namespace Fields

variable {f : Fields} {z : Zone}

/-- Nothing is lost: every minute from `first` on that starts before `stop` and in which the fields
fire is among the found moments, unless `limit` of these come before it. -/
def LosesNothing (f : Fields) (z : Zone) (first stop : Int) (limit : Nat) (found : List Moment) :
    Prop :=
  ∀ k, first ≤ k → k * oneMinute < stop → f.firesIn z k = true →
    z.minuteAt k ∈ found ∨ limit ≤ (found.filter (·.instant < k * oneMinute)).length

/-- No jump passes over a run: from a minute that the walk visits while fewer than `limit` hits are
behind it, no minute up to the next visited one fires. -/
def JumpsClear (f : Fields) (z : Zone) (first stop : Int) (limit : Nat) : Prop :=
  ∀ v ∈ f.visited z (minutesBefore stop first) 0 first,
    (f.hits z (v - first).toNat first).length < limit →
      ∀ k, v < k → k < v + f.stride z v → k * oneMinute < stop → f.firesIn z k = false

lemma hits_before_visited {left : Nat} {first v : Int} (hv : v ∈ f.visited z left 0 first) :
    f.hits z (v - first).toNat first = (f.hits z left first).filter (· < v) := by
  have hwindow := mem_window_of_mem_visited hv
  rw [f.hits_eq_filter_lt z (by omega : (v - first).toNat ≤ left)]
  congr 1
  funext u
  rw [show first + ((v - first).toNat : Int) = v by omega]

/-- No hit lies where a jump passes, so the hits before the jump are all the hits before a minute
that it passes over. -/
lemma filter_lt_of_passed {left : Nat} {first v k : Int} (hv : v ∈ f.visited z left 0 first)
    (hvk : v < k) (hk : k < v + f.stride z v) :
    (f.hits z left first).filter (· < k) = (f.hits z left first).filter (· < v) := by
  refine List.filter_congr fun u hu => ?_
  obtain ⟨humem, hufires⟩ := mem_hits.1 hu
  have hne : u ≠ v := by
    rintro rfl
    rw [stride_of_firesIn hufires] at hk
    omega
  have hnotBetween : ¬ (v < u ∧ u < k) := fun ⟨h₁, h₂⟩ =>
    notMem_visited_of_passed hv h₁ (by omega) humem
  simp only [decide_eq_decide]
  omega

/-- What `LosesNothing` says of the runs of a window, in terms of the hits. -/
lemma losesNothing_runs_iff_hits (f : Fields) (z : Zone) (left limit : Nat) (first stop : Int) :
    f.LosesNothing z first stop limit (f.runs z left limit first) ↔
      ∀ k, first ≤ k → k * oneMinute < stop → f.firesIn z k = true →
        k ∈ (f.hits z left first).take limit ∨
          limit ≤ ((f.hits z left first).filter (· < k)).length := by
  have hmem : ∀ k, z.minuteAt k ∈ f.runs z left limit first ↔
      k ∈ (f.hits z left first).take limit := fun k => by
    rw [runs, List.mem_map_of_injective z.minuteAt_injective]
  have hcount : ∀ k, limit ≤ ((f.runs z left limit first).filter
      (·.instant < k * oneMinute)).length ↔
        limit ≤ ((f.hits z left first).filter (· < k)).length := fun k => by
    have hinstant : (fun r : Moment => decide (r.instant < k * oneMinute)) ∘ z.minuteAt =
        fun u => decide (u < k) := by
      funext u
      simp
    -- if hits before `k` were cut off, then there are as many runs before it as were wanted
    rw [runs, List.filter_map, List.length_map, hinstant, filter_lt_take (f.sorted_hits z _ _),
      List.length_take]
    omega
  simp only [LosesNothing, hmem, hcount]

theorem losesNothing_runs_iff (f : Fields) (z : Zone) (first stop : Int) (limit : Nat) :
    f.LosesNothing z first stop limit (f.runs z (minutesBefore stop first) limit first) ↔
      f.JumpsClear z first stop limit := by
  rw [losesNothing_runs_iff_hits, JumpsClear]
  have hwindow : ∀ k, first ≤ k → k * oneMinute < stop → k < first + minutesBefore stop first :=
    fun k hk hstop => (lt_add_minutesBefore hk).2 hstop
  generalize minutesBefore stop first = left at hwindow ⊢
  constructor
  · -- a run inside a jump is no hit, so all that were wanted must have come before it
    intro h v hv hroom k hvk hk hstop
    have hfirst := (mem_window_of_mem_visited hv).1
    by_contra hfires
    rw [Bool.not_eq_false] at hfires
    rw [hits_before_visited hv, ← filter_lt_of_passed hv hvk hk] at hroom
    rcases h k (by omega) hstop hfires with hmem | hfull
    · exact notMem_visited_of_passed hv hvk hk (mem_hits.1 (List.mem_of_mem_take hmem)).1
    · omega
  · intro h k hk hstop hfires
    obtain ⟨v, hv, hvk, hkv⟩ := exists_visited_le hk (hwindow k hk hstop)
    rcases hvk.eq_or_lt with rfl | hlt
    · exact mem_take_or_le_length_filter (f.sorted_hits z left first) (mem_hits.2 ⟨hv, hfires⟩) limit
    · -- a firing minute inside a jump: the jump can only have been made with all runs found
      right
      by_contra hroom
      rw [filter_lt_of_passed hv hlt hkv, ← hits_before_visited hv] at hroom
      have := h v hv (by omega) k hlt hkv hstop
      simp [hfires] at this

end Fields

/-! ## Clocks that are set on the hour -/

namespace Civil

lemma minute_ofWall_add {w : Int} {i : Nat} (h : (ofWall w).minute + i < 60) :
    (ofWall (w + i * oneMinute)).minute = (ofWall w).minute + i := by
  simp only [ofWall, oneMinute] at *
  omega

/-- Minutes that are added within an hour change neither the hour nor the day. -/
lemma sameHour_ofWall_add {w : Int} {i : Nat} (h : (ofWall w).minute + i < 60) :
    (ofWall (w + i * oneMinute)).date = (ofWall w).date ∧
      (ofWall (w + i * oneMinute)).weekday = (ofWall w).weekday ∧
      (ofWall (w + i * oneMinute)).hour = (ofWall w).hour := by
  have hhour : (w + i * oneMinute) / oneHour = w / oneHour := by
    simp only [ofWall, oneMinute, oneHour] at *
    omega
  have hday : (w + i * oneMinute) / oneDay = w / oneDay := by
    simp only [oneMinute, oneHour, oneDay] at *
    omega
  simp [ofWall, hhour, hday]

end Civil

/-- The clocks of the zone are set only when an hour that they show is over. -/
def Zone.TurnsOnTheHour (z : Zone) : Prop :=
  ∀ k, (z.shown k).minute < 59 → z.offsetAt ((k + 1) * oneMinute) = z.offsetAt (k * oneMinute)

lemma Zone.turnsOnTheHour_of_offsetAt_eq {z : Zone} {offset : Int} (h : ∀ t, z.offsetAt t = offset) :
    z.TurnsOnTheHour := fun k _ => by
  rw [h, h]

/-- Until the hour is over, such clocks show what they would show without being set. -/
lemma Zone.TurnsOnTheHour.wall_add {z : Zone} (hz : z.TurnsOnTheHour) {k : Int} {i : Nat}
    (h : (z.shown k).minute + i < 60) :
    (z.momentAt ((k + i) * oneMinute)).wall = (z.momentAt (k * oneMinute)).wall + i * oneMinute := by
  induction i with
  | zero => simp
  | succ i ih =>
    have hwall := ih (by omega)
    have hminute : (z.shown (k + i)).minute = (z.shown k).minute + i := by
      rw [shown, hwall]
      exact Civil.minute_ofWall_add (show (z.shown k).minute + i < 60 by omega)
    have hoffset := hz (k + i) (by omega)
    simp only [Moment.wall, Zone.momentAt] at hwall ⊢
    rw [Nat.cast_succ, ← add_assoc, hoffset]
    linarith

namespace History

/-- At each change, the clocks as they were before it show a full hour. -/
def ChangesOnTheHour (h : History) : Prop :=
  ∀ p ∈ (h.initial :: h.changes.map Change.offset).zip h.changes, oneHour ∣ p.2.since + p.1

instance (h : History) : Decidable h.ChangesOnTheHour :=
  inferInstanceAs (Decidable (∀ p ∈ _, _))

/-- A change within the next minute takes place at the end of the hour that the clocks show. -/
lemma ruling_add_oneMinute {before t : Int} {cs : List Change}
    (hcs : ∀ p ∈ (before :: cs.map Change.offset).zip cs, oneHour ∣ p.2.since + p.1)
    (hminute : (Civil.ofWall (t + ruling (fun _ c => c.since) t before cs)).minute < 59) :
    ruling (fun _ c => c.since) (t + oneMinute) before cs =
      ruling (fun _ c => c.since) t before cs := by
  induction cs generalizing before with
  | nil => rfl
  | cons c cs ih =>
    simp only [List.map_cons, List.zip_cons_cons, List.forall_mem_cons] at hcs
    by_cases hc : c.since ≤ t
    · have hlater : c.since ≤ t + oneMinute := hc.trans (by simp)
      simp only [ruling, if_pos hc] at hminute
      simp only [ruling, if_pos hc, if_pos hlater]
      exact ih hcs.2 hminute
    · simp only [ruling, if_neg hc, Civil.ofWall, oneMinute] at hminute
      -- the change takes place when the hour is over, and this minute is not its last
      have hlater : ¬ c.since ≤ t + oneMinute := by
        obtain ⟨q, hq⟩ := hcs.1
        unfold oneHour at hq
        unfold oneMinute
        omega
      simp only [ruling, if_neg hc, if_neg hlater]

lemma turnsOnTheHour {h : History} (hset : h.ChangesOnTheHour) {z : Zone}
    (hz : z.offsetAt = h.offsetAt) : z.TurnsOnTheHour := by
  intro k hminute
  rw [Zone.shown, Moment.wall, Zone.momentAt, hz] at hminute
  rw [hz, add_mul, one_mul]
  exact ruling_add_oneMinute hset hminute

end History

/-- A place of the atlas is found under its name. -/
lemma Zone.find_of_atlas {name : Text} {h : History} (hname : name ≠ "local")
    (hfind : Atlas.find? name = some h) (around : History) : find around name = .ok (h.named name) := by
  rw [find, if_neg hname, hfind]

namespace Fields

variable {f : Fields} {z : Zone}

lemma firesInHour_of_turnsOnTheHour (hz : z.TurnsOnTheHour) {k : Int} {i : Nat}
    (h : (z.shown k).minute + i < 60) :
    f.firesInHour (z.shown (k + i)) = f.firesInHour (z.shown k) := by
  obtain ⟨hdate, hweekday, hhour⟩ := Civil.sameHour_ofWall_add h
  rw [Zone.shown, hz.wall_add h]
  simp only [firesInHour, firesOn, hdate, hweekday, hhour]
  rfl

/-- Where the clocks are set only on the hour, what a jump passes over is as little selected as the
minute that it starts from. -/
lemma firesIn_of_passed (hz : z.TurnsOnTheHour) {v k : Int} (hvk : v < k)
    (hk : k < v + f.stride z v) : f.firesIn z k = false := by
  have hhour : f.firesInHour (z.shown v) = false := by
    by_contra hsome
    rw [stride, if_pos (by simpa using hsome)] at hk
    omega
  rw [stride, if_neg (by simp [hhour])] at hk
  obtain ⟨i, rfl⟩ : ∃ i : Nat, k = v + i := ⟨(k - v).toNat, by omega⟩
  have hsame := firesInHour_of_turnsOnTheHour (f := f) hz (k := v) (i := i) (by omega)
  rw [firesIn, fires, hsame, hhour, Bool.and_false]

lemma mem_hits_of_turnsOnTheHour (hz : z.TurnsOnTheHour) {left : Nat} {k v : Int} (hv : k ≤ v)
    (hleft : v < k + left) (hfires : f.firesIn z v = true) : v ∈ f.hits z left k := by
  obtain ⟨u, hu, huv, hvu⟩ := exists_visited_le hv hleft
  rcases huv.eq_or_lt with rfl | hlt
  · exact mem_hits.2 ⟨hu, hfires⟩
  · simp [firesIn_of_passed hz hlt hvu] at hfires

/-- Where the clocks are set on the hour, no jump passes over a run, whatever the expression, the window
and the number of runs that are wanted. -/
lemma jumpsClear_of_turnsOnTheHour (f : Fields) (hz : z.TurnsOnTheHour) (first stop : Int)
    (limit : Nat) : f.JumpsClear z first stop limit := fun _ _ _ _ hvk hk _ =>
  firesIn_of_passed hz hvk hk

end Fields

/-! ## Answers to questions -/

namespace Expression

variable {e : Expression} {f : Fields} {z : Zone}

/-- **When nothing is lost.**  An answer to either question holds every run of its window, up to the
wanted number, exactly when no jump that was made on the way passes over a run.  Where the clocks are
set only on the hour, none does. -/
theorem runs_complete_iff (hf : e.schedule? = some f) :
    (∀ (count : Int) (start : AskedTime) (t : Int) (found : List Moment),
      0 < count → start.instant z = .ok t → e.runsAfter (.ok z) count start = .ok found →
        (f.LosesNothing z (minuteOf t + 1) (windowStop (minuteOf t + 1)) count.toNat found ↔
          f.JumpsClear z (minuteOf t + 1) (windowStop (minuteOf t + 1)) count.toNat) ∧
        (z.TurnsOnTheHour →
          f.LosesNothing z (minuteOf t + 1) (windowStop (minuteOf t + 1)) count.toNat found)) ∧
    ∀ (limit : Int) (start stop : AskedTime) (t u : Int) (found : List Moment),
      0 < limit → start.instant z = .ok t → stop.instant z = .ok u →
        e.runsBetween (.ok z) limit start stop = .ok found →
        (f.LosesNothing z (minuteOf t) (min (u + oneMinute) (windowStop (minuteOf t)))
            limit.toNat found ↔
          f.JumpsClear z (minuteOf t) (min (u + oneMinute) (windowStop (minuteOf t)))
            limit.toNat) ∧
        (z.TurnsOnTheHour →
          f.LosesNothing z (minuteOf t) (min (u + oneMinute) (windowStop (minuteOf t)))
            limit.toNat found) := by
  refine ⟨fun count start t found hcount ht h => ?_,
    fun limit start stop t u found hlimit ht hu h => ?_⟩
  · obtain rfl := eq_runs_of_runsAfter hf hcount ht h
    have hiff := f.losesNothing_runs_iff z (minuteOf t + 1) (windowStop (minuteOf t + 1)) count.toNat
    rw [minutesBefore_windowStop] at hiff
    exact ⟨hiff, fun hz => hiff.2 (f.jumpsClear_of_turnsOnTheHour hz _ _ _)⟩
  · obtain rfl := eq_runs_of_runsBetween hf hlimit ht hu h
    have hiff := f.losesNothing_runs_iff z (minuteOf t)
      (min (u + oneMinute) (windowStop (minuteOf t))) limit.toNat
    exact ⟨hiff, fun hz => hiff.2 (f.jumpsClear_of_turnsOnTheHour hz _ _ _)⟩

/-- Two nights in which clocks are set forward.  Pacific/Chatham sets them from 2:45 to 3:45 on
29 September 2024.  Asked for the runs of `50 3 * * *` from 2:00 to 3:55 of that night, the walk finds
none, and so a jump was not clear.  Berlin sets them from 2:00 to 3:00 on 31 March 2024, and nothing is
lost of the runs of that night and the next. -/
theorem runs_complete_iff_twoNights :
    (let night := Date.toDay ⟨2024, 9, 28⟩
      let start : Moment := .utc (wallAt night 13 15 0 0)
      let stop : Moment := .utc (wallAt night 14 10 0 0)
      ∃ e f z, read "50 3 * * *" = .ok e ∧ e.schedule? = some f ∧
        Zone.find ⟨0, []⟩ "Pacific/Chatham" = .ok z ∧
        e.runsBetween (.ok z) 100 (DateTime.moment start) (DateTime.moment stop) = .ok [] ∧
        ¬ f.JumpsClear z (minuteOf start.instant) (wallAt night 14 11 0 0) 100) ∧
    let night := Date.toDay ⟨2024, 3, 31⟩
    let start : Moment := .utc (wallAt night 0 0 0 0)
    let runs : List Moment :=
      [⟨wallAt night 1 50 0 0, Atlas.ahead 2 0 0⟩, ⟨wallAt (night + 1) 1 50 0 0, Atlas.ahead 2 0 0⟩]
    let first := minuteOf start.instant + 1
    ∃ e f z, read "50 3 * * *" = .ok e ∧ e.schedule? = some f ∧
      Zone.find ⟨0, []⟩ "Europe/Berlin" = .ok z ∧ z.TurnsOnTheHour ∧
      e.runsAfter (.ok z) 2 (DateTime.moment start) = .ok runs ∧
      f.LosesNothing z first (windowStop first) 2 runs := by
  constructor
  · intro night start stop
    let tenToFour := minuteOf (wallAt night 14 5 0 0)
    have h : (do
        let e ← read "50 3 * * *"
        let z ← Zone.find ⟨0, []⟩ "Pacific/Chatham"
        let found ← e.runsBetween (.ok z) 100 (DateTime.moment start) (DateTime.moment stop)
        return (e.schedule?.map (Fields.firesIn · z tenToFour), found)) = .ok (some true, []) := by
      decide +kernel
    obtain ⟨e, he, h⟩ := bind_eq_ok_iff.1 h
    obtain ⟨z, hz, h⟩ := bind_eq_ok_iff.1 h
    obtain ⟨found, hfound, h⟩ := bind_eq_ok_iff.1 h
    obtain ⟨hfires, rfl⟩ := Prod.mk.inj (pure_eq_ok_iff.1 h)
    obtain ⟨f, hf, hfires⟩ := Option.map_eq_some_iff.1 hfires
    have hstart : (AskedTime.plain (.moment start)).instant z = .ok start.instant :=
      AskedTime.instant_moment_of_onLine (by decide)
    have hstop : (AskedTime.plain (.moment stop)).instant z = .ok stop.instant :=
      AskedTime.instant_moment_of_onLine (by decide)
    have hclose : min (stop.instant + oneMinute) (windowStop (minuteOf start.instant)) =
        wallAt night 14 11 0 0 := by
      decide
    obtain ⟨hiff, -⟩ := (runs_complete_iff hf).2 100 _ _ _ _ _ (by decide) hstart hstop hfound
    rw [hclose] at hiff
    refine ⟨e, f, z, he, hf, hz, hfound, fun hclear => ?_⟩
    -- were all jumps clear, the run at ten to four would have been found
    rcases hiff.2 hclear tenToFour (by decide) (by decide) hfires with hmem | hcount
    · simp at hmem
    · exact absurd hcount (by decide)
  · intro night start runs first
    -- that Berlin sets its clocks on the hour is decided by its whole history
    have hberlin : ∃ z, Zone.find ⟨0, []⟩ "Europe/Berlin" = .ok z ∧ z.TurnsOnTheHour := by
      have hset : (Atlas.find? "Europe/Berlin").any (fun h => decide h.ChangesOnTheHour) = true := by
        decide +kernel
      obtain ⟨h, hfind, hset⟩ := (Option.any_eq_true _ _).1 hset
      exact ⟨h.named "Europe/Berlin", Zone.find_of_atlas (by decide) hfind _,
        History.turnsOnTheHour (of_decide_eq_true hset) rfl⟩
    have h : (do
        let e ← read "50 3 * * *"
        let z ← Zone.find ⟨0, []⟩ "Europe/Berlin"
        let found ← e.runsAfter (.ok z) 2 (DateTime.moment start)
        return (e.schedule?.isSome, found)) = .ok (true, runs) := by
      decide +kernel
    obtain ⟨z, hz, hturns⟩ := hberlin
    obtain ⟨e, he, h⟩ := bind_eq_ok_iff.1 h
    rw [hz, ok_bind] at h
    obtain ⟨found, hfound, h⟩ := bind_eq_ok_iff.1 h
    obtain ⟨hsome, rfl⟩ := Prod.mk.inj (pure_eq_ok_iff.1 h)
    obtain ⟨f, hf⟩ := Option.isSome_iff_exists.1 hsome
    have hstart : (AskedTime.plain (.moment start)).instant z = .ok start.instant :=
      AskedTime.instant_moment_of_onLine (by decide)
    exact ⟨e, f, z, he, hf, hz, hturns, hfound,
      ((runs_complete_iff hf).1 2 _ _ _ (by decide) hstart hfound).2 hturns⟩

/-- Pacific/Chatham sets its clocks from 2:45 to 3:45 on 29 September 2024.  The walk for the next run
of `50 3 * * *` after 1:59 jumps from 2:00 to 4:00, past ten to four of that night, and finds the one
of the night after. -/
theorem chatham_run_passed_over :
    let night := Date.toDay ⟨2024, 9, 28⟩
    let start : DateTime := .moment (.utc (wallAt night 13 14 0 0))
    let first := minuteOf (wallAt night 13 15 0 0)
    let tenToFour := minuteOf (wallAt night 14 5 0 0)
    ∃ e f z found, read "50 3 * * *" = .ok e ∧ e.schedule? = some f ∧
      Zone.find ⟨0, []⟩ "Pacific/Chatham" = .ok z ∧ e.runsAfter (.ok z) 1 start = .ok found ∧
      f.firesIn z tenToFour = true ∧
      ¬ f.LosesNothing z first (windowStop first) 1 found := by
  intro night start first tenToFour
  have h : (do
      let e ← read "50 3 * * *"
      let z ← Zone.find ⟨0, []⟩ "Pacific/Chatham"
      let found ← e.runsAfter (.ok z) 1 start
      return (e.schedule?.map (Fields.firesIn · z tenToFour), found)) =
        .ok (some true, [⟨wallAt (night + 1) 14 5 0 0, Atlas.ahead 13 45 0⟩]) := by
    decide +kernel
  obtain ⟨e, he, h⟩ := bind_eq_ok_iff.1 h
  obtain ⟨z, hz, h⟩ := bind_eq_ok_iff.1 h
  obtain ⟨found, hfound, h⟩ := bind_eq_ok_iff.1 h
  obtain ⟨hfires, rfl⟩ := Prod.mk.inj (pure_eq_ok_iff.1 h)
  obtain ⟨f, hf, hfires⟩ := Option.map_eq_some_iff.1 hfires
  refine ⟨e, f, z, _, he, hf, hz, hfound, hfires, fun hnothing => ?_⟩
  rcases hnothing tenToFour (by decide) (by decide) hfires with hmem | hcount
  · rw [List.mem_singleton] at hmem
    have hinstant : tenToFour * oneMinute = wallAt (night + 1) 14 5 0 0 :=
      congrArg Moment.instant hmem
    exact absurd hinstant (by decide)
  · exact absurd hcount (by decide)

end Expression

end Crontab
