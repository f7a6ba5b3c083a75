import Crontab.Proofs.Walk.Jump

/-!
# Runs between two times

A search between two times starts with the minute of the first and goes on until a minute after the
second, 366 days at most.  `lt_add_rangeLength_iff` says which minutes these are.

The minute at the end is there so that a run at the second time itself is found.  It is right for a
time that is a whole minute.  When the second time lies inside a minute, the minute that starts behind
it is searched as well, and a run there comes after the end of the range (`half_minute_overrun`).
`runsBetween_bounds` says how far an answer can reach, and that it keeps to the range exactly when
there is no such run (`Fields.Overruns`).

`runsBetween_append` is about two ranges that meet: cutting a range at a whole minute and asking for
each part gives the runs of the whole.  The second search starts inside an hour in which the search
over the whole range need not have stopped, so the two do not look at the same minutes.  They have the
same hits, since where clocks are set only when an hour is over, the hits of a window are all minutes
of it in which the expression fires (`Fields.mem_hits_iff_of_turnsOnTheHour`).
-/

namespace Crontab

/-! ## The minutes of a range -/

/-- How many minutes a search from an instant to another one goes over. -/
def rangeLength (t u : Int) : Nat :=
  minutesBefore (min (u + oneMinute) (windowStop (minuteOf t))) (minuteOf t)

lemma lt_add_rangeLength_iff {t u k : Int} (h : minuteOf t ≤ k) :
    k < minuteOf t + rangeLength t u ↔
      k * oneMinute < u + oneMinute ∧ k * oneMinute < windowStop (minuteOf t) := by
  rw [rangeLength, lt_add_minutesBefore h, lt_min_iff]

/-- A minute starts after an instant but less than a minute later when it is the next one, and the
instant is no whole minute. -/
lemma lt_mul_oneMinute_iff {u k : Int} (h : k * oneMinute < u + oneMinute) :
    u < k * oneMinute ↔ u % oneMinute ≠ 0 ∧ k = minuteOf u + 1 := by
  unfold minuteOf oneMinute at *
  omega

/-! ## How far an answer reaches -/

namespace Fields

/-- The range ends inside a minute, and the minute after that is among the first `limit` hits of the
search. -/
def Overruns (f : Fields) (z : Zone) (limit : Nat) (t u : Int) : Prop :=
  u % oneMinute ≠ 0 ∧ minuteOf u + 1 ∈ (f.hits z (rangeLength t u) (minuteOf t)).take limit

variable {f : Fields} {z : Zone} {limit : Nat} {t u : Int}

lemma bounds_of_mem_runs {r : Moment} (h : r ∈ f.runs z (rangeLength t u) limit (minuteOf t)) :
    minuteOf t * oneMinute ≤ r.instant ∧ r.instant < u + oneMinute ∧
      r.instant < windowStop (minuteOf t) := by
  obtain ⟨k, rfl, ⟨hfirst, hlast⟩, -⟩ := mem_runs_window h
  obtain ⟨hend, hstop⟩ := (lt_add_rangeLength_iff hfirst).1 hlast
  refine ⟨?_, hend, hstop⟩
  rw [Zone.instant_minuteAt]
  unfold oneMinute
  omega

/-- Only the minute after the end can come after the end. -/
lemma forall_le_iff_not_overruns :
    (∀ r ∈ f.runs z (rangeLength t u) limit (minuteOf t), r.instant ≤ u) ↔
      ¬ f.Overruns z limit t u := by
  constructor
  · rintro hle ⟨hinside, hnext⟩
    have hrun : z.minuteAt (minuteOf u + 1) ∈ f.runs z (rangeLength t u) limit (minuteOf t) :=
      List.mem_map_of_mem hnext
    have hend := (bounds_of_mem_runs hrun).2.1
    have hlate := (lt_mul_oneMinute_iff hend).2 ⟨hinside, rfl⟩
    exact absurd (hle _ hrun) (not_le.2 hlate)
  · intro hnone r hr
    by_contra hlate
    have hend := (bounds_of_mem_runs hr).2.1
    obtain ⟨k, hk, rfl⟩ := List.mem_map.1 hr
    obtain ⟨hinside, rfl⟩ := (lt_mul_oneMinute_iff hend).1 (not_le.1 hlate)
    exact hnone ⟨hinside, hk⟩

end Fields

namespace Expression

variable {e : Expression} {f : Fields} {z : Zone} {limit : Int} {start stop : AskedTime}
  {found : List Moment}

/-- **How far the runs between two times reach.**  They are at most as many as were wanted, each later
than the one before, none of them before the minute of the first time, and none a minute or more after
the second or 366 days or more after the minute of the first.  None comes after the second time exactly
when that time is a whole minute or the minute behind it is not among the hits of the search. -/
theorem runsBetween_bounds {zone : Except Fault Zone}
    (h : e.runsBetween zone limit start stop = .ok found) :
    (found.length : Int) ≤ max limit 0 ∧
      found.Pairwise (fun r s => r.instant < s.instant) ∧
      (∀ r ∈ found, ∃ z t u, zone = .ok z ∧ start.instant z = .ok t ∧ stop.instant z = .ok u ∧
        minuteOf t * oneMinute ≤ r.instant ∧ r.instant < u + oneMinute ∧
        r.instant < windowStop (minuteOf t)) ∧
      ∀ z t u, zone = .ok z → start.instant z = .ok t → stop.instant z = .ok u →
        ((∀ r ∈ found, r.instant ≤ u) ↔
          ∀ f, e.schedule? = some f → ¬ f.Overruns z limit.toNat t u) := by
  rcases runsBetween_cases h with ⟨rfl, hnone⟩ | ⟨f, z, t, u, hf, hlimit, rfl, ht, hu, -, hwalk⟩
  · -- nothing was looked for, so nothing can overrun
    refine ⟨by simp, by simp, by simp, fun z t u _ _ _ => iff_of_true (by simp) fun f hf => ?_⟩
    rintro ⟨-, hnext⟩
    have hlimit : limit ≤ 0 := hnone.resolve_left (by simp [hf])
    rw [Int.toNat_of_nonpos hlimit] at hnext
    simp at hnext
  · obtain rfl : found = f.runs z (rangeLength t u) limit.toNat (minuteOf t) :=
      Fields.eq_runs_of_occurrences hwalk
    refine ⟨?_, f.sorted_runs z _ _ _, fun r hr => ?_, fun z' t' u' hz' ht' hu' => ?_⟩
    · have := f.length_runs_le z (rangeLength t u) limit.toNat (minuteOf t)
      omega
    · exact ⟨z, t, u, rfl, ht, hu, Fields.bounds_of_mem_runs hr⟩
    · obtain rfl := Except.ok.inj hz'
      obtain rfl := Except.ok.inj (ht.symm.trans ht')
      obtain rfl := Except.ok.inj (hu.symm.trans hu')
      simp [Fields.forall_le_iff_not_overruns, hf]

/-- Between half past one and ten to two, to the second, of the night in which the clocks of New York
show this hour twice: two runs on the quarter hour, the second time that they are shown. -/
theorem runsBetween_bounds_repeatedHour :
    let zone := Zone.find ⟨0, []⟩ "America/New_York"
    let night := Date.toDay ⟨2024, 11, 3⟩
    let start : DateTime := .reading (wallAt night 1 30 20 0) true
    let stop : DateTime := .reading (wallAt night 1 50 0 0) true
    let runs : List Moment :=
      [⟨wallAt night 6 30 0 0, Atlas.behind 5 0 0⟩, ⟨wallAt night 6 45 0 0, Atlas.behind 5 0 0⟩]
    ∃ e, read "*/15 * * * *" = .ok e ∧ e.runsBetween zone 100 start stop = .ok runs ∧
      runs.Pairwise (fun r s => r.instant < s.instant) ∧
      ∀ r ∈ runs, ∃ z t u, zone = .ok z ∧ start.instant z = .ok t ∧ stop.instant z = .ok u ∧
        minuteOf t * oneMinute ≤ r.instant ∧ r.instant < u + oneMinute ∧
        r.instant < windowStop (minuteOf t) := by
  intro zone night start stop runs
  have h : (read "*/15 * * * *" >>= fun e => e.runsBetween zone 100 start stop) = .ok runs := by
    decide
  obtain ⟨e, he, hruns⟩ := bind_eq_ok_iff.1 h
  have hbounds := runsBetween_bounds hruns
  exact ⟨e, he, hruns, hbounds.2.1, hbounds.2.2.1⟩

/-- From ten to half a minute past ten an expression that fires every minute is given a run at a minute
past ten. -/
theorem half_minute_overrun :
    let zone := Zone.find ⟨0, []⟩ "UTC"
    let day := Date.toDay ⟨2024, 1, 1⟩
    let start : Moment := .utc (wallAt day 10 0 0 0)
    let stop : Moment := .utc (wallAt day 10 0 30 0)
    let late : Moment := .utc (wallAt day 10 1 0 0)
    ∃ e, read "* * * * *" = .ok e ∧
      e.runsBetween zone 100 (DateTime.moment start) (DateTime.moment stop) = .ok [start, late] ∧
      stop.instant < late.instant := by
  intro zone day start stop late
  have h : (read "* * * * *" >>= fun e =>
      e.runsBetween zone 100 (DateTime.moment start) (DateTime.moment stop)) = .ok [start, late] := by
    decide
  obtain ⟨e, he, hruns⟩ := bind_eq_ok_iff.1 h
  exact ⟨e, he, hruns, by decide⟩

end Expression

/-! ## Ranges that meet -/

namespace Fields

variable {f : Fields} {z : Zone}

/-- Where the clocks are set only on the hour, the hits of a window are all minutes of it in which the
fields fire. -/
lemma mem_hits_iff_of_turnsOnTheHour (hz : z.TurnsOnTheHour) {left : Nat} {k v : Int} :
    v ∈ f.hits z left k ↔ (k ≤ v ∧ v < k + left) ∧ f.firesIn z v = true :=
  ⟨fun h => ⟨mem_window_of_mem_hits h, (mem_hits.1 h).2⟩,
    fun h => mem_hits_of_turnsOnTheHour hz h.1.1 h.1.2 h.2⟩

/-- Then the hits of a window are those of its first part followed by those of a search over the rest,
wherever it is cut. -/
theorem hits_append (hz : z.TurnsOnTheHour) (m n : Nat) (k : Int) :
    f.hits z (m + n) k = f.hits z m k ++ f.hits z n (k + m) := by
  have hsorted : (f.hits z m k ++ f.hits z n (k + m)).Pairwise (· < ·) := by
    refine List.pairwise_append.2 ⟨f.sorted_hits z m k, f.sorted_hits z n (k + m), ?_⟩
    intro u hu v hv
    have hleft := mem_window_of_mem_hits hu
    have hright := mem_window_of_mem_hits hv
    omega
  refine (f.sorted_hits z (m + n) k).eq_of_mem_iff hsorted fun v => ?_
  rw [List.mem_append, mem_hits_iff_of_turnsOnTheHour hz, mem_hits_iff_of_turnsOnTheHour hz,
    mem_hits_iff_of_turnsOnTheHour hz, ← or_and_right]
  refine and_congr_left fun _ => ?_
  push_cast
  omega

/-- The first runs of a window are the first of what its two parts give. -/
lemma runs_append (hz : z.TurnsOnTheHour) (m n limit : Nat) (k : Int) :
    f.runs z (m + n) limit k = (f.runs z m limit k ++ f.runs z n limit (k + m)).take limit := by
  have htake : ∀ l r : List Int,
      (l ++ r).take limit = (l.take limit ++ r.take limit).take limit := fun l r => by
    rw [List.take_append, List.take_append, List.take_take, List.take_take, min_self,
      List.length_take]
    congr 2
    omega
  rw [runs, runs, runs, ← List.map_append, ← List.map_take, hits_append hz, htake]

/-- There are no more runs in a window than minutes. -/
lemma length_runs_le_left (f : Fields) (z : Zone) (left limit : Nat) (k : Int) :
    (f.runs z left limit k).length ≤ left := by
  have hhits : (f.hits z left k).length ≤ left := by
    induction left, k using f.stride_induction z with
    | zero k => simp
    | succ left k ih =>
      have hpos := f.stride_pos z k
      rw [hits_succ]
      split
      · rw [List.length_cons]
        omega
      · omega
  rw [runs, List.length_map, List.length_take]
  omega

end Fields

namespace Expression

variable {e : Expression} {f : Fields} {z : Zone} {limit : Int} {start mid next stop : AskedTime}
  {a b c : Int}

/-- A search between two times answers if the 366 days from the first on and an hour after the second
are on the line, and so are the readings of the minutes that it can look at. -/
lemma exists_runsBetween (limit : Int) (hf : e.schedule? = some f) (ha : start.instant z = .ok a)
    (hc : stop.instant z = .ok c) (hline : windowStop (minuteOf a) < lineEnd)
    (hhour : c + oneMinute + oneHour < lineEnd)
    (htell : ∀ k, minuteOf a ≤ k → k * oneMinute < c + oneMinute →
      ∃ m, z.tell (k * oneMinute) = .ok m) :
    ∃ found, e.runsBetween (.ok z) limit start stop = .ok found := by
  by_cases hlimit : 0 < limit
  · have hfirst := (onLine_of_instant ha).1
    have honLine : ∀ v, minuteOf a ≤ v → v < minuteOf a + rangeLength a c + 60 →
        ∃ t, onLine (v * oneMinute) = .ok t := by
      intro v hv hlast
      refine ⟨_, onLine_eq_ok_iff.2 ⟨⟨?_, ?_⟩, rfl⟩⟩
      · unfold minuteOf oneMinute at *
        omega
      -- a minute that a stride from the range can lead to
      · by_cases hnear : v - 60 < minuteOf a
        · unfold windowStop windowLength oneMinute at *
          omega
        · have hend := ((lt_add_rangeLength_iff (u := c) (not_lt.1 hnear)).1 (by omega)).1
          unfold oneMinute oneHour at *
          omega
    exact ⟨_, runsBetween_of_walk hf hlimit ha hc (by unfold oneMinute oneHour at *; omega) hline
      (Fields.walk_eq_ok_of_onLine honLine
        (fun v hv hlast => htell v hv ((lt_add_rangeLength_iff hv).1 hlast).1) _)⟩
  · exact ⟨[], by simp [runsBetween, hf, not_lt.1 hlimit]⟩

/-- Clocks that are less than a day ahead of UTC or behind it show a reading on the line a day and more
from its ends. -/
lemma exists_tell {offset t : Int} (hz : ∀ t, z.offsetAt t = offset) (hoffset : |offset| < oneDay)
    (hfirst : oneDay ≤ t) (hlast : t + oneDay ≤ lineEnd) : ∃ m, z.tell t = .ok m := by
  rw [abs_lt] at hoffset
  refine ⟨_, Zone.tell_eq_ok_iff.2 ⟨⟨_, onLine_eq_ok_iff.2 ⟨?_, rfl⟩⟩, rfl⟩⟩
  rw [Moment.wall, Zone.momentAt, hz]
  dsimp only
  omega

/-- Such clocks can be searched between two times that are far enough from the ends of the line. -/
lemma exists_runsBetween_of_offset (limit : Int) (hf : e.schedule? = some f) {offset : Int}
    (hz : ∀ t, z.offsetAt t = offset) (hoffset : |offset| < oneDay) (ha : start.instant z = .ok a)
    (hc : stop.instant z = .ok c) (hfirst : oneDay ≤ a) (hyear : a + 367 * oneDay ≤ lineEnd)
    (hlast : c + 2 * oneDay ≤ lineEnd) :
    ∃ found, e.runsBetween (.ok z) limit start stop = .ok found := by
  have hends : windowStop (minuteOf a) < lineEnd ∧ c + oneMinute + oneHour < lineEnd := by
    simp only [windowStop, minuteOf, windowLength, oneMinute, oneHour, oneDay] at *
    omega
  refine exists_runsBetween limit hf ha hc hends.1 hends.2 fun k hk hend => ?_
  have hwithin : oneDay ≤ k * oneMinute ∧ k * oneMinute + oneDay ≤ lineEnd := by
    simp only [minuteOf, oneMinute, oneDay] at *
    omega
  exact exists_tell hz hoffset hwithin.1 hwithin.2

lemma rangeLength_eq_add (hwhole : b % oneMinute = 0) (hab : a ≤ b) (hbc : b < c)
    (hyear : c + oneMinute ≤ windowStop (minuteOf a)) :
    rangeLength a c = rangeLength a b + rangeLength (b + oneMinute) c ∧
      minuteOf (b + oneMinute) = minuteOf a + rangeLength a b := by
  simp only [rangeLength, minutesBefore, windowStop, minuteOf, windowLength, oneMinute] at *
  omega

/-- **Ranges that meet.**  Let the clocks of a zone always be the same amount ahead of UTC, and let a
range of at most 366 days be cut behind a whole minute `b`.  As long as the searches answer, the runs of
the whole range are the first of those of the first part followed by those of the second, as many as
were wanted, and all of them if at least as many are wanted as there are minutes in the range.  The
searches do answer where the range is a day away from the start of the line, and where 368 days behind
the cut are on the line. -/
theorem runsBetween_append (limit : Int) (hf : e.schedule? = some f) {offset : Int}
    (hz : ∀ t, z.offsetAt t = offset) (ha : start.instant z = .ok a) (hb : mid.instant z = .ok b)
    (hnext : next.instant z = .ok (b + oneMinute)) (hc : stop.instant z = .ok c)
    (hwhole : b % oneMinute = 0) (hab : a ≤ b) (hbc : b < c)
    (hyear : c + oneMinute ≤ windowStop (minuteOf a)) :
    (∀ whole left right, e.runsBetween (.ok z) limit start stop = .ok whole →
      e.runsBetween (.ok z) limit start mid = .ok left →
      e.runsBetween (.ok z) limit next stop = .ok right →
        whole = (left ++ right).take limit.toNat ∧
          (minutesBefore (c + oneMinute) (minuteOf a) ≤ limit → whole = left ++ right)) ∧
    (|offset| < oneDay → oneDay ≤ a → b + 368 * oneDay ≤ lineEnd →
      ∃ whole left right, e.runsBetween (.ok z) limit start stop = .ok whole ∧
        e.runsBetween (.ok z) limit start mid = .ok left ∧
        e.runsBetween (.ok z) limit next stop = .ok right) := by
  have hturns := Zone.turnsOnTheHour_of_offsetAt_eq hz
  obtain ⟨hlength, hseam⟩ := rangeLength_eq_add hwhole hab hbc hyear
  constructor
  · intro whole left right hwholeRuns hleft hright
    by_cases hlimit : 0 < limit
    · obtain rfl : whole = f.runs z (rangeLength a c) limit.toNat (minuteOf a) :=
        eq_runs_of_runsBetween hf hlimit ha hc hwholeRuns
      obtain rfl : left = f.runs z (rangeLength a b) limit.toNat (minuteOf a) :=
        eq_runs_of_runsBetween hf hlimit ha hb hleft
      obtain rfl : right = f.runs z (rangeLength (b + oneMinute) c) limit.toNat
          (minuteOf (b + oneMinute)) :=
        eq_runs_of_runsBetween hf hlimit hnext hc hright
      -- the clocks are never set, so neither the whole walk nor its parts jump over a run
      have hparts := f.runs_append hturns (rangeLength a b) (rangeLength (b + oneMinute) c) limit.toNat
        (minuteOf a)
      rw [hlength, hseam]
      refine ⟨hparts, fun henough => hparts.trans (List.take_of_length_le ?_)⟩
      have hleftLength := f.length_runs_le_left z (rangeLength a b) limit.toNat (minuteOf a)
      have hrightLength := f.length_runs_le_left z (rangeLength (b + oneMinute) c) limit.toNat
        (minuteOf a + rangeLength a b)
      rw [← min_eq_left hyear] at henough
      change (rangeLength a c : Int) ≤ limit at henough
      rw [List.length_append]
      omega
    · -- none are wanted, and all three answers are empty
      simp only [runsBetween, hf, if_pos (not_lt.1 hlimit), Except.ok.injEq] at hwholeRuns hleft hright
      simp [← hwholeRuns, ← hleft, ← hright]
  · intro hoffset hfirst hlast
    -- the range ends within 366 days, which leaves the room that all three searches want
    have hlasts : c + 2 * oneDay ≤ lineEnd ∧ b + 2 * oneDay ≤ lineEnd := by
      simp only [windowStop, minuteOf, windowLength, oneMinute, oneDay] at *
      omega
    have hyears : a + 367 * oneDay ≤ lineEnd ∧ b + oneMinute + 367 * oneDay ≤ lineEnd := by
      unfold oneMinute oneDay at *
      omega
    have hnextFirst : oneDay ≤ b + oneMinute := by
      unfold oneMinute oneDay at *
      omega
    obtain ⟨whole, hwholeRuns⟩ :=
      exists_runsBetween_of_offset limit hf hz hoffset ha hc hfirst hyears.1 hlasts.1
    obtain ⟨left, hleft⟩ :=
      exists_runsBetween_of_offset limit hf hz hoffset ha hb hfirst hyears.1 hlasts.2
    obtain ⟨right, hright⟩ :=
      exists_runsBetween_of_offset limit hf hz hoffset hnext hc hnextFirst hyears.2 hlasts.1
    exact ⟨whole, left, right, hwholeRuns, hleft, hright⟩

/-- The hours of Kolkata start on the half hours of UTC.  A range from half past eight to half past ten
there, cut behind a quarter past nine: one run lies before the cut and two behind it. -/
theorem runsBetween_append_kolkata :
    let day := Date.toDay ⟨2024, 1, 1⟩
    let time (h m : Nat) : DateTime := .moment (.utc (wallAt day h m 0 0))
    let run (h m : Nat) : Moment := ⟨wallAt day h m 0 0, Atlas.ahead 5 30 0⟩
    ∃ e z, read "*/20 9 * * *" = .ok e ∧ Zone.find ⟨0, []⟩ "Asia/Kolkata" = .ok z ∧
      (∀ t, z.offsetAt t = Atlas.ahead 5 30 0) ∧
      e.runsBetween (.ok z) 121 (time 3 0) (time 3 45) = .ok [run 3 30] ∧
      e.runsBetween (.ok z) 121 (time 3 46) (time 5 0) =
        .ok [run 3 50, run 4 10] ∧
      e.runsBetween (.ok z) 121 (time 3 0) (time 5 0) =
        .ok [run 3 30, run 3 50, run 4 10] := by
  intro day time run
  obtain ⟨z, hz, hoffset⟩ : ∃ z, Zone.find ⟨0, []⟩ "Asia/Kolkata" = .ok z ∧
      ∀ t, z.offsetAt t = Atlas.ahead 5 30 0 :=
    ⟨_, rfl, fun _ => rfl⟩
  have h : (do
      let e ← read "*/20 9 * * *"
      let z ← Zone.find ⟨0, []⟩ "Asia/Kolkata"
      let left ← e.runsBetween (.ok z) 121 (time 3 0) (time 3 45)
      let right ← e.runsBetween (.ok z) 121 (time 3 46) (time 5 0)
      return (e.schedule?.isSome, left, right)) =
        .ok (true, [run 3 30], [run 3 50, run 4 10]) := by
    decide
  obtain ⟨e, he, h⟩ := bind_eq_ok_iff.1 h
  obtain ⟨z', hz', h⟩ := bind_eq_ok_iff.1 h
  obtain rfl : z = z' := Except.ok.inj (hz.symm.trans hz')
  obtain ⟨left, hleft, h⟩ := bind_eq_ok_iff.1 h
  obtain ⟨right, hright, h⟩ := bind_eq_ok_iff.1 h
  simp only [pure_eq_ok_iff, Prod.mk.injEq] at h
  obtain ⟨hsome, rfl, rfl⟩ := h
  obtain ⟨f, hf⟩ := Option.isSome_iff_exists.1 hsome
  have hinstant : ∀ h m, (h, m) ∈ [(3, 0), (3, 45), (3, 46), (5, 0)] →
      (AskedTime.plain (time h m)).instant z = .ok (wallAt day h m 0 0) := by
    intro h m hm
    refine AskedTime.instant_moment_of_onLine ?_
    fin_cases hm <;> decide
  have hcut : wallAt day 3 46 0 0 = wallAt day 3 45 0 0 + oneMinute := by decide
  -- the whole range is not searched: its answer is put together from those of its parts
  have happend := runsBetween_append 121 hf hoffset (hinstant 3 0 (by decide))
    (hinstant 3 45 (by decide)) (hcut ▸ hinstant 3 46 (by decide)) (hinstant 5 0 (by decide))
    (by decide) (by decide) (by decide) (by decide)
  obtain ⟨whole, left', right', hwhole, hleft', hright'⟩ :=
    happend.2 (by decide) (by decide) (by decide)
  have hsum := (happend.1 whole _ _ hwhole hleft hright).2 (by decide)
  exact ⟨e, z, he, hz, hoffset, hleft, hright, hwhole.trans (congrArg Except.ok hsum)⟩

end Expression

end Crontab
