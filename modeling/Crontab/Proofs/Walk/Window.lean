import Crontab.Proofs.Walk.Visited
import Crontab.Zone.Atlas

/-!
# Runs of a window

The two questions for occurrences, `Expression.runsAfter` and `Expression.runsBetween`, each settle
a window of minutes and walk over it.  `runsAfter_cases` and `runsBetween_cases` say which window
that is and that the answer consists of the first hits in it, `Fields.runs`; they are the only places
where the definitions of the questions are opened.

The main statement, `runsAfter_genuine`, is that an answer holds nothing but occurrences, in order:
at most as many as were wanted, each a whole minute of the window in which the expression fires, each
later on the line of UTC than the one before.  The readings that go with them may fall back where
clocks are set back.  All that is said of them is that the expression fires at each, taken together with
the zone.
-/

namespace Crontab

/-! ## Minutes as moments -/

/-- The moment at which a minute starts, told by the clocks of the zone. -/
def Zone.minuteAt (z : Zone) (k : Int) : Moment := z.momentAt (k * oneMinute)

@[simp] lemma Zone.instant_minuteAt (z : Zone) (k : Int) :
    (z.minuteAt k).instant = k * oneMinute := rfl

lemma mul_oneMinute_lt_iff {j k : Int} : j * oneMinute < k * oneMinute ↔ j < k := by
  unfold oneMinute
  omega

lemma Zone.minuteAt_injective (z : Zone) : Function.Injective z.minuteAt := by
  intro j k h
  have hinstant := congrArg Moment.instant h
  simpa using hinstant

lemma DateTime.onLine_of_instant {z : Zone} {d : DateTime} {t : Int} (h : d.instant z = .ok t) :
    0 ≤ t ∧ t < lineEnd := by
  cases d with
  | moment m =>
    obtain ⟨hline, rfl⟩ := onLine_eq_ok_iff.1 h
    exact hline
  | reading w later =>
    obtain ⟨offset, -, h⟩ := bind_eq_ok_iff.1 h
    obtain ⟨hline, rfl⟩ := onLine_eq_ok_iff.1 h
    exact hline

lemma onLine_of_instant {z : Zone} {d : AskedTime} {t : Int} (h : d.instant z = .ok t) :
    0 ≤ t ∧ t < lineEnd := by
  cases d with
  | plain d => exact DateTime.onLine_of_instant h
  | zoned home w later =>
    rw [AskedTime.instant_zoned] at h
    exact DateTime.onLine_of_instant h

namespace AskedTime

variable {z home : Zone} {t : AskedTime}

lemma instant_moment_of_onLine {m : Moment} (h : 0 ≤ m.instant ∧ m.instant < lineEnd) :
    (plain (.moment m)).instant z = .ok m.instant := by
  rw [instant_plain, DateTime.instant_moment]
  exact onLine_eq_ok_iff.2 ⟨h, rfl⟩

/-- A time is told by the clocks of a zone: it is a moment, or it carries another zone. -/
def IsTold (z : Zone) : AskedTime → Prop
  | plain (.reading _ _) => False
  | plain (.moment _) => True
  | zoned home _ _ => z.isSame home = false

lemma face_of_isTold {u : Int} {m : Moment} (ht : t.IsTold z) (hu : t.instant z = .ok u)
    (hm : z.tell u = .ok m) : t.face (.ok z) = .ok m.wall := by
  match t with
  | plain (.reading _ _) => exact ht.elim
  | plain (.moment _) =>
    rw [instant_plain, DateTime.instant_moment] at hu
    simp only [face, ok_bind, hu, hm]
    rfl
  | zoned home w later =>
    rw [instant_zoned] at hu
    have hother : z.isSame home = false := ht
    simp only [face, ok_bind, hother, hu, hm]
    rfl

/-- A time that carries the zone itself is taken as it stands. -/
lemma face_zoned (hsame : z.isSame home = true) (w : Int) (later : Bool) :
    (zoned home w later).face (.ok z) = .ok w := by
  simp only [face, ok_bind, hsame]
  rfl

/-- Something is looked at as long as the clocks show something then. -/
lemma exists_face {u : Int} (hu : t.instant z = .ok u) (htell : ∃ m, z.tell u = .ok m) :
    ∃ w, t.face (.ok z) = .ok w := by
  obtain ⟨m, hm⟩ := htell
  match t with
  | plain (.reading w _) => exact ⟨w, rfl⟩
  | plain (.moment _) => exact ⟨m.wall, face_of_isTold trivial hu hm⟩
  | zoned home w later =>
    cases hsame : z.isSame home with
    | true => exact ⟨w, face_zoned hsame w later⟩
    | false => exact ⟨m.wall, face_of_isTold hsame hu hm⟩

end AskedTime

/-- A minute from that of a time on lies on the line as long as a window that holds it does. -/
lemma onLine_minute {t v stop : Int} (ht : 0 ≤ t) (hv : minuteOf t ≤ v) (hstop : v < stop)
    (hline : stop * oneMinute < lineEnd) : onLine (v * oneMinute) = .ok (v * oneMinute) := by
  refine onLine_eq_ok_iff.2 ⟨?_, rfl⟩
  unfold minuteOf oneMinute at *
  omega

/-- The minutes counted by `minutesBefore` are those that start before the time. -/
lemma lt_add_minutesBefore {t k j : Int} (h : k ≤ j) :
    j < k + minutesBefore t k ↔ j * oneMinute < t := by
  unfold minutesBefore oneMinute
  omega

/-- The time at which the longest window that starts with a minute ends. -/
def windowStop (k : Int) : Int := (k + windowLength) * oneMinute

@[simp] lemma minutesBefore_windowStop (k : Int) : minutesBefore (windowStop k) k = windowLength := by
  unfold minutesBefore windowStop oneMinute
  omega

/-! ## Answers -/

namespace Fields

variable {f : Fields} {z : Zone} {left limit : Nat} {k : Int} {found : List Moment}

/-- The moments of the first `limit` hits of a window. -/
def runs (f : Fields) (z : Zone) (left limit : Nat) (k : Int) : List Moment :=
  ((f.hits z left k).take limit).map z.minuteAt

lemma length_runs_le (f : Fields) (z : Zone) (left limit : Nat) (k : Int) :
    (f.runs z left limit k).length ≤ limit := by
  simp [runs]

lemma mem_runs_window {r : Moment} (h : r ∈ f.runs z left limit k) :
    ∃ v, r = z.minuteAt v ∧ (k ≤ v ∧ v < k + left) ∧ f.firesIn z v = true := by
  obtain ⟨v, hv, rfl⟩ := List.mem_map.1 h
  have hv := List.mem_of_mem_take hv
  exact ⟨v, rfl, mem_window_of_mem_hits hv, (mem_hits.1 hv).2⟩

lemma sorted_runs (f : Fields) (z : Zone) (left limit : Nat) (k : Int) :
    (f.runs z left limit k).Pairwise fun r s => r.instant < s.instant := by
  refine List.Pairwise.map _ (fun u v huv => ?_) ((f.sorted_hits z left k).take (i := limit))
  simpa [mul_oneMinute_lt_iff] using huv

lemma eq_runs_of_occurrences (h : f.occurrences z left limit k = .ok found) :
    found = f.runs z left limit k := by
  obtain ⟨vs, hvs, hfound⟩ := bind_eq_ok_iff.1 h
  rw [← pure_eq_ok_iff.1 hfound, eq_take_hits_of_walk hvs]
  rfl

lemma tell_of_occurrences (h : f.occurrences z left limit k = .ok found) :
    ∀ r ∈ found, ∃ m, z.tell r.instant = .ok m := by
  obtain ⟨vs, hvs, hfound⟩ := bind_eq_ok_iff.1 h
  rw [← pure_eq_ok_iff.1 hfound, List.forall_mem_map]
  exact tell_of_walk hvs

lemma occurrences_of_walk {vs : List Int} (h : f.walk z left 0 limit k = .ok vs) :
    f.occurrences z left limit k = .ok (vs.map z.minuteAt) := by
  rw [occurrences, h]
  rfl

end Fields

/-! ## The two questions -/

namespace Expression

variable {e : Expression} {zone : Except Fault Zone} {found : List Moment}

lemma schedule?_eq_none_iff (e : Expression) :
    e.schedule? = none ↔ e.isValid = false ∨ e.isReboot = true := by
  unfold schedule? isValid status isReboot
  rcases e with ⟨s, f | _ | _⟩
  · by_cases h : f.errors = [] <;> simp [h]
  · simp
  · simp

/-- The window of the runs after a time: 366 days from the minute after that of the time. -/
lemma runsAfter_cases {count : Int} {start : AskedTime} (h : e.runsAfter zone count start = .ok found) :
    (found = [] ∧ (e.schedule? = none ∨ count ≤ 0)) ∨
      ∃ f z t, e.schedule? = some f ∧ 0 < count ∧ zone = .ok z ∧ start.instant z = .ok t ∧
        windowStop (minuteOf t + 1) < lineEnd ∧
        f.occurrences z windowLength count.toNat (minuteOf t + 1) = .ok found := by
  unfold runsAfter at h
  cases hf : e.schedule? with
  | none =>
    rw [hf] at h
    exact .inl ⟨by simpa [eq_comm] using h, .inl rfl⟩
  | some f =>
    simp only [hf] at h
    split at h
    · next hcount => exact .inl ⟨by simpa [eq_comm] using h, .inr hcount⟩
    · next hcount =>
      obtain ⟨z, hz, h⟩ := bind_eq_ok_iff.1 h
      obtain ⟨t, ht, h⟩ := bind_eq_ok_iff.1 h
      obtain ⟨-, -, h⟩ := bind_eq_ok_iff.1 h
      obtain ⟨stop, hstop, h⟩ := bind_eq_ok_iff.1 h
      have hline := (onLine_eq_ok_iff.1 hstop).1.2
      exact .inr ⟨f, z, t, rfl, by omega, hz, ht, hline, h⟩

/-- The window of the runs between two times: from the minute of the first to the end of the minute
that starts with the second, and 366 days at most. -/
lemma runsBetween_cases {limit : Int} {start stop : AskedTime}
    (h : e.runsBetween zone limit start stop = .ok found) :
    (found = [] ∧ (e.schedule? = none ∨ limit ≤ 0)) ∨
      ∃ f z t u, e.schedule? = some f ∧ 0 < limit ∧ zone = .ok z ∧ start.instant z = .ok t ∧
        stop.instant z = .ok u ∧ windowStop (minuteOf t) < lineEnd ∧
        f.occurrences z
          (minutesBefore (min (u + oneMinute) (windowStop (minuteOf t))) (minuteOf t))
          limit.toNat (minuteOf t) = .ok found := by
  unfold runsBetween at h
  cases hf : e.schedule? with
  | none =>
    rw [hf] at h
    exact .inl ⟨by simpa [eq_comm] using h, .inl rfl⟩
  | some f =>
    simp only [hf] at h
    split at h
    · next hlimit => exact .inl ⟨by simpa [eq_comm] using h, .inr hlimit⟩
    · next hlimit =>
      obtain ⟨z, hz, h⟩ := bind_eq_ok_iff.1 h
      obtain ⟨t, ht, h⟩ := bind_eq_ok_iff.1 h
      obtain ⟨u, hu, h⟩ := bind_eq_ok_iff.1 h
      -- both ends of the window have to be on the line
      obtain ⟨close, hclose, h⟩ := bind_eq_ok_iff.1 h
      obtain ⟨far, hfar, h⟩ := bind_eq_ok_iff.1 h
      obtain ⟨-, rfl⟩ := onLine_eq_ok_iff.1 hclose
      obtain ⟨hline, rfl⟩ := onLine_eq_ok_iff.1 hfar
      exact .inr ⟨f, z, t, u, rfl, by omega, hz, ht, hu, hline.2, h⟩

lemma eq_runs_of_runsAfter {f : Fields} {z : Zone} {count : Int} {start : AskedTime} {t : Int}
    (hf : e.schedule? = some f) (hcount : 0 < count) (ht : start.instant z = .ok t)
    (h : e.runsAfter (.ok z) count start = .ok found) :
    found = f.runs z windowLength count.toNat (minuteOf t + 1) := by
  rcases runsAfter_cases h with ⟨-, hnone⟩ | ⟨f', z', t', hf', -, hz, ht', -, hwalk⟩
  · have := hnone.resolve_right (by omega)
    simp [hf] at this
  · obtain rfl : f = f' := by simpa [hf] using hf'
    obtain rfl : z = z' := by simpa using hz
    obtain rfl : t = t' := by simpa [ht] using ht'
    exact Fields.eq_runs_of_occurrences hwalk

lemma eq_runs_of_runsBetween {f : Fields} {z : Zone} {limit : Int} {start stop : AskedTime}
    {t u : Int} (hf : e.schedule? = some f) (hlimit : 0 < limit) (ht : start.instant z = .ok t)
    (hu : stop.instant z = .ok u) (h : e.runsBetween (.ok z) limit start stop = .ok found) :
    found = f.runs z (minutesBefore (min (u + oneMinute) (windowStop (minuteOf t))) (minuteOf t))
      limit.toNat (minuteOf t) := by
  rcases runsBetween_cases h with ⟨-, hnone⟩ | ⟨f', z', t', u', hf', -, hz, ht', hu', -, hwalk⟩
  · have := hnone.resolve_right (by omega)
    simp [hf] at this
  · obtain rfl : f = f' := by simpa [hf] using hf'
    obtain rfl : z = z' := by simpa using hz
    obtain rfl : t = t' := by simpa [ht] using ht'
    obtain rfl : u = u' := by simpa [hu] using hu'
    exact Fields.eq_runs_of_occurrences hwalk

/-- The same for a question about the time between two. -/
lemma runsBetween_of_walk {f : Fields} {z : Zone} {limit : Int} {start stop : AskedTime} {t u : Int}
    {vs : List Int} (hf : e.schedule? = some f) (hlimit : 0 < limit) (ht : start.instant z = .ok t)
    (hu : stop.instant z = .ok u) (hclose : u + oneMinute < lineEnd)
    (hline : windowStop (minuteOf t) < lineEnd)
    (h : f.walk z (minutesBefore (min (u + oneMinute) (windowStop (minuteOf t))) (minuteOf t)) 0
      limit.toNat (minuteOf t) = .ok vs) :
    e.runsBetween (.ok z) limit start stop = .ok (vs.map z.minuteAt) := by
  have hstart := (onLine_of_instant ht).1
  have hstop := (onLine_of_instant hu).1
  have honLine : onLine (u + oneMinute) = .ok (u + oneMinute) := by
    refine onLine_eq_ok_iff.2 ⟨⟨?_, hclose⟩, rfl⟩
    unfold oneMinute
    omega
  have hend : windowEnd (minuteOf t) = .ok (windowStop (minuteOf t)) := by
    refine onLine_eq_ok_iff.2 ⟨⟨?_, hline⟩, rfl⟩
    unfold minuteOf oneMinute windowLength
    omega
  simp only [runsBetween, hf, if_neg (show ¬ limit ≤ 0 by omega), ok_bind, Fields.runsBetween, ht, hu,
    honLine, hend, Fields.occurrences_of_walk h]

/-! ## Genuine occurrences -/

lemma firesAt_of_face {f : Fields} {t : AskedTime} {w : Int} (hf : e.schedule? = some f)
    (hw : t.face zone = .ok w) : e.firesAt zone t = .ok (f.fires (Civil.ofWall w)) := by
  simp only [firesAt, hf, hw]
  rfl

/-- A reading without an offset is taken as it stands. -/
lemma firesAt_reading {f : Fields} (hf : e.schedule? = some f) (zone : Except Fault Zone) (w : Int)
    (later : Bool) : e.firesAt zone (DateTime.reading w later) = .ok (f.fires (Civil.ofWall w)) :=
  firesAt_of_face hf rfl

/-- A moment that the walk has read off the clocks is asked about as it was met. -/
lemma firesAt_minuteAt {f : Fields} {z : Zone} {k : Int} (hf : e.schedule? = some f)
    (hline : onLine (k * oneMinute) = .ok (k * oneMinute))
    (htell : ∃ m, z.tell (k * oneMinute) = .ok m) :
    e.firesAt (.ok z) (DateTime.moment (z.minuteAt k)) = .ok (f.firesIn z k) := by
  obtain ⟨m, hm⟩ := htell
  have hwall := AskedTime.face_of_isTold (t := .plain (.moment (z.minuteAt k))) trivial hline hm
  obtain ⟨-, rfl⟩ := Zone.tell_eq_ok_iff.1 hm
  exact firesAt_of_face hf hwall

/-- **Genuine runs, in order.**  The runs after a time are at most as many as were wanted, and none
if the expression is not valid or has no times.  Each is a whole minute after the minute of that time
and less than 366 days later, told by the clocks of the zone, and each comes later on the line of
UTC than the one before.  The expression fires in every one of them, and it makes no difference whether
a run carries the zone along. -/
theorem runsAfter_genuine {count : Int} {start : AskedTime}
    (h : e.runsAfter zone count start = .ok found) :
    (found.length : Int) ≤ max count 0 ∧
      (e.isValid = false ∨ e.isReboot = true → found = []) ∧
      (∀ r ∈ found, ∃ z t k, zone = .ok z ∧ start.instant z = .ok t ∧ r = z.minuteAt k ∧
        minuteOf t < k ∧ k < minuteOf t + 1 + windowLength) ∧
      found.Pairwise (fun r s => r.instant < s.instant) ∧
      (∀ r ∈ found, e.firesAt zone (DateTime.moment r) = .ok true) ∧
      ∀ r ∈ found, ∀ z later, zone = .ok z → z.name?.isSome = true →
        e.firesAt zone (.zoned z r.wall later) = .ok true := by
  rcases runsAfter_cases h with ⟨rfl, -⟩ | ⟨f, z, t, hf, hcount, rfl, ht, hfar, hwalk⟩
  · simp
  have htell := Fields.tell_of_occurrences hwalk
  obtain rfl := Fields.eq_runs_of_occurrences hwalk
  refine ⟨?_, ?_, ?_, f.sorted_runs z _ _ _, ?_, ?_⟩
  · have := f.length_runs_le z windowLength count.toNat (minuteOf t + 1)
    omega
  · intro hnone
    rw [e.schedule?_eq_none_iff.2 hnone] at hf
    simp at hf
  · intro r hr
    obtain ⟨v, rfl, hwindow, -⟩ := Fields.mem_runs_window hr
    exact ⟨z, t, v, rfl, ht, rfl, by omega, hwindow.2⟩
  · intro r hr
    have hm := htell r hr
    obtain ⟨v, rfl, hwindow, hfires⟩ := Fields.mem_runs_window hr
    have hline := onLine_minute (onLine_of_instant ht).1 (by omega) hwindow.2 hfar
    rw [firesAt_minuteAt hf hline hm, hfires]
  · -- a time that carries the zone is looked at as it stands, and a run stands as it is told
    intro r hr z' later hz hname
    obtain rfl := Except.ok.inj hz
    obtain ⟨v, rfl, -, hfires⟩ := Fields.mem_runs_window hr
    rw [firesAt_of_face hf (AskedTime.face_zoned (z.isSame_self.trans hname) _ later)]
    exact congrArg Except.ok hfires

/-- The clocks of New York show the hour from 1:00 twice in the night of 3 November 2024.  Half past
one is met both times, an hour apart on the line of UTC. -/
theorem runsAfter_genuine_repeatedHour :
    let zone := Zone.find ⟨0, []⟩ "America/New_York"
    let night := Date.toDay ⟨2024, 11, 3⟩
    let runs : List Moment :=
      [⟨wallAt night 5 30 0 0, Atlas.behind 4 0 0⟩, ⟨wallAt night 6 30 0 0, Atlas.behind 5 0 0⟩]
    ∃ e, read "30 1 * * *" = .ok e ∧
      e.runsAfter zone 2 (DateTime.moment (.utc (wallAt night 5 0 0 0))) = .ok runs ∧
      runs.Pairwise (fun r s => r.instant < s.instant) ∧
      ∀ r ∈ runs, e.firesAt zone (DateTime.moment r) = .ok true := by
  intro zone night runs
  have h : (read "30 1 * * *" >>= fun e =>
      e.runsAfter zone 2 (DateTime.moment (.utc (wallAt night 5 0 0 0)))) = .ok runs := by
    decide +kernel
  obtain ⟨e, he, hruns⟩ := bind_eq_ok_iff.1 h
  obtain ⟨-, -, -, horder, hfires, -⟩ := runsAfter_genuine hruns
  exact ⟨e, he, hruns, horder, hfires⟩

end Expression

end Crontab
