import Crontab.Proofs.Walk.Window

/-!
# Paging

The runs after a time may be asked for in pages, each page starting where the one before ended.
`runsAfter_paged` says that this loses no run and repeats none: the first `m` of `m + n` runs are the
runs that a walk for `m` of them finds, and a walk for `n` more that starts with the last of them
goes on with the rest.

The window of the second walk ends later than that of the first, so it may find runs that the first
does not reach; it never misses one.  What carries the argument is `Fields.drop_hits`: a walk in the
middle of its window and a walk that starts there visit the same minutes.

The last run of a page is handed on as a date and time.  All that is asked of it is that the zone
turns it back into the same instant (`hback` below).  A moment does so by itself, and so does the
reading of the clocks, whether it carries the zone or not, when the zone takes it with the offset that
it was told with (`DateTime.instant_reading_wall`); where the clocks show a reading twice, that depends
on which of the two times is asked for.
-/

namespace Crontab

/-- A reading that the zone takes with the offset of a moment stands for that moment. -/
lemma DateTime.instant_reading_wall {z : Zone} {m : Moment} {later : Bool}
    (h : z.offsetOf m.wall later = .ok m.offset) :
    (DateTime.reading m.wall later).instant z = onLine m.instant := by
  rw [instant, h, ok_bind, Moment.wall, Int.add_sub_cancel]

namespace Fields

variable {f : Fields} {z : Zone}

lemma take_runs (f : Fields) (z : Zone) (left m n : Nat) (k : Int) :
    (f.runs z left (m + n) k).take m = f.runs z left m k := by
  rw [runs, ← List.map_take, List.take_take, Nat.min_eq_left (Nat.le_add_right m n), runs]

/-- The runs behind a full page are runs of a walk that starts in the minute after the page. -/
lemma runs_prefix_append {left m : Nat} (n : Nat) {k v : Int}
    (hfull : (f.runs z left m k).length = m)
    (hlast : (f.runs z left m k).getLast? = some (z.minuteAt v)) :
    f.runs z left (m + n) k <+: f.runs z left m k ++ f.runs z left n (v + 1) := by
  have hlength : m ≤ (f.hits z left k).length := by
    simpa [runs] using hfull
  have hpos : 0 < m := by
    by_contra hzero
    obtain rfl : m = 0 := by omega
    simp [runs] at hlast
  have hv : (f.hits z left k)[m - 1]? = some v := by
    rw [runs, List.getLast?_map, Option.map_eq_some_iff] at hlast
    obtain ⟨u, hu, huv⟩ := hlast
    rw [← z.minuteAt_injective huv, ← hu, List.getLast?_eq_getElem?, List.length_take,
      Nat.min_eq_left hlength, List.getElem?_take_of_lt (by omega)]
  -- the last run of the page is a hit, and behind it come the hits from the next minute on
  have hdrop : (f.hits z left k).drop m = f.hits z (left - (v + 1 - k).toNat) (v + 1) := by
    rw [← drop_hits hv, Nat.sub_add_cancel hpos]
  rw [runs, List.take_add, List.map_append, hdrop, runs, runs]
  exact (List.prefix_append_right_inj _).2
    (((f.hits_prefix z (Nat.sub_le _ _) (v + 1)).take n).map z.minuteAt)

end Fields

namespace Expression

variable {e : Expression} {zone : Except Fault Zone}

/-- **Paging loses and repeats nothing.**  The runs of a shorter question are the first ones of a
longer question.  If they are a full page, then the longer question goes on with runs of the question
that starts with the last run of the page, and with exactly these if it finds all that are wanted. -/
theorem runsAfter_paged {m n : Nat} (hm : 1 ≤ m) (hn : 1 ≤ n) {start : AskedTime}
    {page both : List Moment} (hpage : e.runsAfter zone m start = .ok page)
    (hboth : e.runsAfter zone (m + n : Nat) start = .ok both) :
    page = both.take m ∧
      ∀ (last : Moment) (back : AskedTime) (next : List Moment),
        page.length = m → page.getLast? = some last →
        (∀ z, zone = .ok z → back.instant z = onLine last.instant) →
        e.runsAfter zone n back = .ok next →
        both <+: page ++ next ∧ (both.length = m + n → both = page ++ next) := by
  rcases runsAfter_cases hboth with ⟨rfl, hnone⟩ | ⟨f, z, t, hf, hcount, rfl, ht, hfar, -⟩
  · -- without a schedule no page is full
    have hnone : e.schedule? = none := hnone.resolve_right (by omega)
    obtain ⟨rfl, -⟩ | ⟨f, -, -, hf, -⟩ := runsAfter_cases hpage
    · refine ⟨by simp, fun last back next hfull => ?_⟩
      simp only [List.length_nil] at hfull
      omega
    · rw [hnone] at hf
      simp at hf
  obtain rfl := eq_runs_of_runsAfter hf hcount ht hboth
  obtain rfl := eq_runs_of_runsAfter hf (by omega) ht hpage
  simp only [Int.toNat_natCast]
  refine ⟨(f.take_runs z _ m n _).symm, fun last back next hfull hlast hback hnext => ?_⟩
  obtain ⟨v, rfl, hwindow, -⟩ := Fields.mem_runs_window (List.mem_of_getLast? hlast)
  -- the second walk starts in the minute after the last run
  have hline := onLine_minute (onLine_of_instant ht).1 (by omega) hwindow.2 hfar
  have hinstant : back.instant z = .ok (v * oneMinute) := (hback z rfl).trans hline
  obtain rfl := eq_runs_of_runsAfter hf (by omega) hinstant hnext
  have hminute : minuteOf (v * oneMinute) = v := by
    unfold minuteOf oneMinute
    omega
  rw [hminute, Int.toNat_natCast]
  have hinitial := Fields.runs_prefix_append n hfull hlast
  -- an initial part that is as long as all of it is all of it
  refine ⟨hinitial, fun hlength => hinitial.eq_of_length_le ?_⟩
  have := f.length_runs_le z windowLength n (v + 1)
  rw [List.length_append, hfull, hlength]
  omega

/-- The clocks of New York show the hour from 1:00 twice in the night of 3 November 2024.  A page ends
with the second half past one.  Handed on as a reading, with the later of its two times asked for, it
is followed by half past one of the next night. -/
theorem runsAfter_paged_repeatedHour :
    let zone := Zone.find ⟨0, []⟩ "America/New_York"
    let night := Date.toDay ⟨2024, 11, 3⟩
    let start : DateTime := .moment (.utc (wallAt night 5 0 0 0))
    let first : Moment := ⟨wallAt night 5 30 0 0, Atlas.behind 4 0 0⟩
    let last : Moment := ⟨wallAt night 6 30 0 0, Atlas.behind 5 0 0⟩
    let other : Moment := ⟨wallAt (night + 1) 6 30 0 0, Atlas.behind 5 0 0⟩
    ∃ e, Expression.read "30 1 * * *" = .ok e ∧
      e.runsAfter zone (2 : Nat) start = .ok [first, last] ∧
      e.runsAfter zone (2 + 1 : Nat) start = .ok [first, last, other] ∧
      e.runsAfter zone (1 : Nat) (DateTime.reading last.wall true) = .ok [other] ∧
      [first, last] = [first, last, other].take 2 ∧
      [first, last, other] = [first, last] ++ [other] := by
  intro zone night start first last other
  have h : (do
      let e ← Expression.read "30 1 * * *"
      let page ← e.runsAfter zone (2 : Nat) start
      let both ← e.runsAfter zone (2 + 1 : Nat) start
      let next ← e.runsAfter zone (1 : Nat) (DateTime.reading last.wall true)
      return (page, both, next)) = .ok ([first, last], [first, last, other], [other]) := by
    decide +kernel
  obtain ⟨e, he, h⟩ := bind_eq_ok_iff.1 h
  obtain ⟨page, hpage, h⟩ := bind_eq_ok_iff.1 h
  obtain ⟨both, hboth, h⟩ := bind_eq_ok_iff.1 h
  obtain ⟨next, hnext, h⟩ := bind_eq_ok_iff.1 h
  obtain ⟨rfl, rfl, rfl⟩ : page = [first, last] ∧ both = [first, last, other] ∧ next = [other] := by
    simpa using pure_eq_ok_iff.1 h
  have hback : ∀ z, zone = .ok z →
      (AskedTime.plain (.reading last.wall true)).instant z = onLine last.instant := by
    intro z hz
    have hoffset : (zone >>= fun z => z.offsetOf last.wall true) = .ok last.offset := by
      decide +kernel
    rw [hz] at hoffset
    exact DateTime.instant_reading_wall hoffset
  have hpaged := runsAfter_paged (by decide) (by decide) hpage hboth
  exact ⟨e, he, hpage, hboth, hnext, hpaged.1,
    (hpaged.2 last _ [other] rfl rfl hback hnext).2 rfl⟩

end Expression

end Crontab
