import Crontab.Proofs.Comparison
import Crontab.Proofs.Walk.Jump

/-!
# Coinciding runs

A comparison counts how many of the next ten runs of the first expression coincide with one of the next
ten of the second.  Runs start with a minute, so on the line of UTC two of them coincide only if they
are the same instant, and the count is the number of instants in both lists (`commonInstants`).

In a named zone coincidence is looked for on the face of the clocks instead.  Where the clocks are set
back they show a reading twice, and a run at the second of the two times passes for a run at the first.
Such a run is an *echo* (`Zone.echoes`).  It is counted although the other list does not hold it, and
since it is counted in one order only, the count depends on which expression is named first
(`new_york_echo`).

`overlap_eq_card_add_echoes` says that the count is the number of common instants and of echoes, and
where echoes come from: the clocks are set back between an echo and the run that it passes for
(`Zone.setBack_of_mem_echoes`).  Where the clocks go by whole minutes and are set on the hour, both
expressions fire at both times, so an echo has to lie behind the ten runs of the other expression, which
end between the two times (`Zone.behind_of_mem_echoes`).
-/

namespace Crontab

/-! ## Instants of two lists -/

/-- The instants that belong to both of two lists of moments. -/
def commonInstants (first second : List Moment) : Finset ℤ :=
  (first.map Moment.instant).toFinset ∩ (second.map Moment.instant).toFinset

lemma commonInstants_comm (first second : List Moment) :
    commonInstants first second = commonInstants second first :=
  Finset.inter_comm _ _

/-- In a list without repetitions, the common instants are those of the members that the other list
holds. -/
lemma card_commonInstants {first second : List Moment}
    (hfirst : first.Pairwise fun r s => r.instant < s.instant) :
    (commonInstants first second).card =
      (first.filter fun a => (second.map Moment.instant).contains a.instant).length := by
  set held := first.filter fun a => (second.map Moment.instant).contains a.instant with hheld
  have hnodup : (held.map Moment.instant).Nodup :=
    List.Pairwise.map _ (fun _ _ h => h.ne) (hfirst.filter _)
  have hcommon : commonInstants first second = (held.map Moment.instant).toFinset := by
    ext t
    simp only [commonInstants, Finset.mem_inter, List.mem_toFinset, hheld, List.mem_map,
      List.mem_filter, List.contains_iff_mem]
    constructor
    · rintro ⟨⟨a, ha, rfl⟩, hsecond⟩
      exact ⟨a, ⟨ha, hsecond⟩, rfl⟩
    · rintro ⟨a, ⟨ha, hsecond⟩, rfl⟩
      exact ⟨⟨a, ha, rfl⟩, hsecond⟩
  rw [hcommon, List.toFinset_card_of_nodup hnodup, List.length_map]

/-! ## Echoes -/

/-- The clock that tells two moments is set back between them. -/
def Moment.SetBackBetween (a b : Moment) : Prop := a.instant < b.instant ∧ b.offset < a.offset

namespace Zone

variable {z : Zone} {first second : List Moment}

/-- The moments of a list that coincide with one of another list without being among them. -/
def echoes (z : Zone) (first second : List Moment) : List Moment :=
  first.filter fun a =>
    second.any (z.coincide a) && !(second.map Moment.instant).contains a.instant

lemma mem_echoes_iff {a : Moment} :
    a ∈ z.echoes first second ↔
      a ∈ first ∧ (∃ b ∈ second, z.coincide a b = true) ∧ a.instant ∉ second.map Moment.instant := by
  simp only [echoes, List.mem_filter, Bool.and_eq_true, List.any_eq_true, Bool.not_eq_true',
    List.contains_eq_mem, decide_eq_false_iff_not]

/-- The moments are whole minutes, told by the clocks of the zone. -/
def TellsMinutes (z : Zone) (l : List Moment) : Prop := ∀ m ∈ l, ∃ k, m = z.minuteAt k

lemma coincide_self (z : Zone) (a : Moment) : z.coincide a a = true := by
  unfold coincide apart
  split <;> simp

/-- What coincides is common or an echo. -/
theorem overlap_eq_card_add (hfirst : z.TellsMinutes first) (hsecond : z.TellsMinutes second)
    (hsorted : first.Pairwise fun r s => r.instant < s.instant) :
    overlap z first second = (commonInstants first second).card + (z.echoes first second).length := by
  set held : Moment → Bool := fun a => (second.map Moment.instant).contains a.instant with hheld
  -- a moment that the other list holds coincides with itself
  have hself : ∀ a ∈ first.filter held, second.any (z.coincide a) = true := by
    intro a ha
    obtain ⟨ha, hinstant⟩ := List.mem_filter.1 ha
    obtain ⟨b, hb, hab⟩ := List.mem_map.1 (List.contains_iff_mem.1 hinstant)
    obtain ⟨j, rfl⟩ := hfirst a ha
    obtain ⟨k, rfl⟩ := hsecond b hb
    obtain rfl : k = j := Int.eq_of_mul_eq_mul_right (by decide) hab
    exact List.any_eq_true.2 ⟨_, hb, z.coincide_self _⟩
  calc overlap z first second
      = (first.filter held).countP (fun a => second.any (z.coincide a)) +
          (first.filter fun a => !held a).countP (fun a => second.any (z.coincide a)) :=
        List.countP_eq_countP_filter_add _ _ _
    _ = (first.filter held).length + (z.echoes first second).length := by
        rw [List.countP_eq_length.2 hself, List.countP_filter, List.countP_eq_length_filter]
        rfl
    _ = _ := by rw [card_commonInstants hsorted]

/-- In the zone that the program runs in there are no echoes: there coincidence is looked for on the
line of UTC. -/
theorem echoes_eq_nil_of_name? (hfirst : z.TellsMinutes first) (hsecond : z.TellsMinutes second)
    (hname : z.name? = none) : z.echoes first second = [] := by
  rw [List.eq_nil_iff_forall_not_mem]
  intro a ha
  obtain ⟨ha, ⟨b, hb, hab⟩, hnot⟩ := mem_echoes_iff.1 ha
  obtain ⟨j, rfl⟩ := hfirst a ha
  obtain ⟨k, rfl⟩ := hsecond b hb
  simp only [coincide, apart, hname, instant_minuteAt, decide_eq_true_eq] at hab
  obtain rfl : j = k := by
    unfold oneMinute at hab
    omega
  exact hnot (List.mem_map_of_mem hb)

/-- The clocks are set back between an echo and the run that it coincides with, one way round or the
other. -/
theorem setBack_of_mem_echoes (hfirst : z.TellsMinutes first) (hsecond : z.TellsMinutes second)
    {a : Moment} (ha : a ∈ z.echoes first second) :
    ∃ b ∈ second, a.SetBackBetween b ∨ b.SetBackBetween a := by
  have hnamed : z.name? ≠ none := fun hname => by
    rw [echoes_eq_nil_of_name? hfirst hsecond hname] at ha
    simp at ha
  obtain ⟨name, hname⟩ := Option.ne_none_iff_exists'.1 hnamed
  obtain ⟨ha, ⟨b, hb, hab⟩, hnot⟩ := mem_echoes_iff.1 ha
  -- the two are shown within a minute of each other, but not at the same instant
  have hne : a.instant ≠ b.instant := fun h => hnot (h ▸ List.mem_map_of_mem hb)
  refine ⟨b, hb, ?_⟩
  obtain ⟨j, rfl⟩ := hfirst a ha
  obtain ⟨k, rfl⟩ := hsecond b hb
  simp only [coincide, apart, hname, decide_eq_true_eq, Moment.wall] at hab
  simp only [Moment.SetBackBetween, instant_minuteAt] at hab hne ⊢
  unfold oneMinute at *
  omega

end Zone

/-! ## Echoes behind a full list -/

lemma Fields.tellsMinutes_runs (f : Fields) (z : Zone) (left limit : Nat) (k : Int) :
    z.TellsMinutes (f.runs z left limit k) := fun m hm => by
  obtain ⟨v, rfl, -⟩ := mem_runs_window hm
  exact ⟨v, rfl⟩

namespace Zone

variable {z : Zone}

/-- The offset of the clocks is always a whole number of minutes. -/
def GoesByMinutes (z : Zone) : Prop := ∀ t, oneMinute ∣ z.offsetAt t

/-- Such clocks show the same at two minutes that coincide in a named zone. -/
lemma shown_eq_of_coincide (hz : z.GoesByMinutes) (hname : z.name? ≠ none) {j k : Int}
    (h : z.coincide (z.minuteAt j) (z.minuteAt k) = true) : z.shown j = z.shown k := by
  obtain ⟨name, hname⟩ := Option.ne_none_iff_exists'.1 hname
  obtain ⟨m, hm⟩ := hz (j * oneMinute)
  obtain ⟨n, hn⟩ := hz (k * oneMinute)
  have hwall : (z.momentAt (j * oneMinute)).wall = (z.momentAt (k * oneMinute)).wall := by
    simp only [coincide, apart, hname, decide_eq_true_eq] at h
    simp only [minuteAt, momentAt, Moment.wall, hm, hn] at h ⊢
    unfold oneMinute at *
    omega
  rw [shown, shown, hwall]

/-- Where the clocks go by whole minutes and are set on the hour, an echo among the runs of an
expression comes after the runs of the other one, which are as many as were wanted. -/
theorem behind_of_mem_echoes (hminutes : z.GoesByMinutes) (hhour : z.TurnsOnTheHour) {f g : Fields}
    {left limit : Nat} {k : Int} {a : Moment}
    (ha : a ∈ z.echoes (f.runs z left limit k) (g.runs z left limit k)) :
    (g.runs z left limit k).length = limit ∧ ∀ b ∈ g.runs z left limit k, b.instant < a.instant := by
  have hnamed : z.name? ≠ none := fun hname => by
    rw [echoes_eq_nil_of_name? (f.tellsMinutes_runs z _ _ _) (g.tellsMinutes_runs z _ _ _) hname] at ha
    simp at ha
  obtain ⟨ha, ⟨b, hb, hab⟩, hnot⟩ := mem_echoes_iff.1 ha
  obtain ⟨j, rfl, hwindow, -⟩ := Fields.mem_runs_window ha
  obtain ⟨i, rfl, -, hfires⟩ := Fields.mem_runs_window hb
  -- the other expression fires at the time of the echo as well
  have hhit : j ∈ g.hits z left k := by
    refine Fields.mem_hits_of_turnsOnTheHour hhour hwindow.1 hwindow.2 ?_
    rwa [Fields.firesIn, shown_eq_of_coincide hminutes hnamed hab]
  -- the hit is none of the runs, so as many as were wanted come before it
  rcases mem_take_or_le_length_filter (g.sorted_hits z left k) hhit limit with hmem | hfull
  · exact absurd (List.mem_map_of_mem (List.mem_map_of_mem hmem)) hnot
  · have hprefix := filter_lt_prefix (g.sorted_hits z left k) j
    have hbefore := List.prefix_iff_eq_take.1 hprefix
    have htake : (g.hits z left k).take limit = ((g.hits z left k).filter (· < j)).take limit := by
      rw [hbefore, List.take_take, min_eq_left hfull]
    rw [Fields.runs, htake]
    refine ⟨by rw [List.length_map, List.length_take, min_eq_left hfull], ?_⟩
    rw [List.forall_mem_map]
    intro v hv
    have hvj : v < j := by simpa using (List.mem_filter.1 (List.mem_of_mem_take hv)).2
    exact mul_oneMinute_lt_iff.2 hvj

end Zone

/-! ## The count of a comparison -/

namespace Expression

variable {e e₁ e₂ : Expression} {f g : Fields} {zone : Except Fault Zone} {start : AskedTime}
  {runs₁ runs₂ : List Moment}

/-- The runs of an expression with a schedule are the first hits in the 366 days from the next minute
on. -/
lemma exists_runs_eq {count : Nat} {found : List Moment} (hf : e.schedule? = some f)
    (hcount : 0 < count) (h : e.runsAfter zone count start = .ok found) :
    ∃ z t, zone = .ok z ∧ start.instant z = .ok t ∧
      found = f.runs z windowLength count (minuteOf t + 1) := by
  rcases runsAfter_cases h with ⟨-, hnone⟩ | ⟨f', z, t, hf', -, rfl, ht, -, -⟩
  · exact absurd (hnone.resolve_right (by omega)) (by simp [hf])
  · exact ⟨z, t, rfl, ht, eq_runs_of_runsAfter hf (by omega) ht h⟩

/-- The count of a comparison when both texts are read with a schedule and the next runs of both are
found. -/
lemma compare_eq_ok {first second : Text} {z : Zone} (hread₁ : read first = .ok e₁)
    (hread₂ : read second = .ok e₂) (hf : e₁.schedule? = some f) (hg : e₂.schedule? = some g)
    (h₁ : e₁.runsAfter (.ok z) overlapSample start = .ok runs₁)
    (h₂ : e₂.runsAfter (.ok z) overlapSample start = .ok runs₂) :
    ∃ c, Crontab.compare first second (.ok z) start = .ok (.ok c) ∧
      c.overlap = overlap z runs₁ runs₂ := by
  refine ⟨⟨f.differences g, f.similarities g, overlap z runs₁ runs₂, e₁.sentence, e₂.sentence⟩,
    ?_, rfl⟩
  simp only [Crontab.compare, compare, hread₁, hread₂, isValid_of_schedule? hf,
    isValid_of_schedule? hg, hf, hg, h₁, h₂, ok_bind, Bool.not_true, Bool.false_eq_true, if_false]
  rfl

/-- **What the count of coinciding runs counts.**  Take two expressions with schedules whose next ten
runs are found.  Then they can be compared, in either order, and the count is the number of instants
that belong to both lists of runs together with the echoes: it is the number of common instants exactly
when there are no echoes, and it does not depend on the order exactly when there are as many echoes one
way round as the other.

There are no echoes in the zone that the program runs in, and none where the clocks are not set back
from one run to the next.  Where the clocks of a named zone go by whole minutes and are set on the hour,
there are none either unless the second expression has ten runs before a run of the first. -/
theorem overlap_eq_card_add_echoes {first second : Text} (hread₁ : read first = .ok e₁)
    (hread₂ : read second = .ok e₂) (hf : e₁.schedule? = some f) (hg : e₂.schedule? = some g)
    (h₁ : e₁.runsAfter zone overlapSample start = .ok runs₁)
    (h₂ : e₂.runsAfter zone overlapSample start = .ok runs₂) :
    ∃ z c c', zone = .ok z ∧ Crontab.compare first second zone start = .ok (.ok c) ∧
      Crontab.compare second first zone start = .ok (.ok c') ∧
      c.overlap = (commonInstants runs₁ runs₂).card + (z.echoes runs₁ runs₂).length ∧
      (c.overlap = c'.overlap ↔
        (z.echoes runs₁ runs₂).length = (z.echoes runs₂ runs₁).length) ∧
      (z.name? = none → z.echoes runs₁ runs₂ = []) ∧
      (∀ a ∈ z.echoes runs₁ runs₂, ∃ b ∈ runs₂, a.SetBackBetween b ∨ b.SetBackBetween a) ∧
      (z.GoesByMinutes → z.TurnsOnTheHour → ∀ a ∈ z.echoes runs₁ runs₂,
        runs₂.length = overlapSample ∧ ∀ b ∈ runs₂, b.instant < a.instant) := by
  obtain ⟨z, t, rfl, ht, hruns₁⟩ := exists_runs_eq hf (by decide) h₁
  obtain ⟨z', t', hz, ht', hruns₂⟩ := exists_runs_eq hg (by decide) h₂
  obtain rfl := Except.ok.inj hz
  obtain rfl := Except.ok.inj (ht.symm.trans ht')
  have htells₁ : z.TellsMinutes runs₁ := hruns₁ ▸ f.tellsMinutes_runs z _ _ _
  have htells₂ : z.TellsMinutes runs₂ := hruns₂ ▸ g.tellsMinutes_runs z _ _ _
  have hsorted₁ : runs₁.Pairwise fun r s => r.instant < s.instant := hruns₁ ▸ f.sorted_runs z _ _ _
  have hsorted₂ : runs₂.Pairwise fun r s => r.instant < s.instant := hruns₂ ▸ g.sorted_runs z _ _ _
  have hcount := Zone.overlap_eq_card_add htells₁ htells₂ hsorted₁
  have hcount' := Zone.overlap_eq_card_add htells₂ htells₁ hsorted₂
  obtain ⟨c, hc, hoverlap⟩ := compare_eq_ok hread₁ hread₂ hf hg h₁ h₂
  obtain ⟨c', hc', hoverlap'⟩ := compare_eq_ok hread₂ hread₁ hg hf h₂ h₁
  refine ⟨z, c, c', rfl, hc, hc', hoverlap.trans hcount, ?_,
    Zone.echoes_eq_nil_of_name? htells₁ htells₂, fun a => Zone.setBack_of_mem_echoes htells₁ htells₂,
    fun hminutes hhour a ha => ?_⟩
  · rw [hoverlap, hoverlap', hcount, hcount', commonInstants_comm]
    omega
  · rw [hruns₁, hruns₂] at ha
    rw [hruns₂]
    exact Zone.behind_of_mem_echoes hminutes hhour ha

/-- In UTC the clocks are never set, so there are no echoes: from midnight on, the full and the half hours
are the three common runs of an expression for every ten minutes and one for every quarter of an hour. -/
theorem overlap_eq_card_add_echoes_utc :
    let zone := Zone.find ⟨0, []⟩ "UTC"
    let start : DateTime := .moment (.utc (wallAt (Date.toDay ⟨2024, 1, 1⟩) 0 0 0 0))
    ∃ e₁ e₂ runs₁ runs₂ c, read "*/10 * * * *" = .ok e₁ ∧ read "*/15 * * * *" = .ok e₂ ∧
      e₁.schedule?.isSome = true ∧ e₂.schedule?.isSome = true ∧
      e₁.runsAfter zone overlapSample start = .ok runs₁ ∧
      e₂.runsAfter zone overlapSample start = .ok runs₂ ∧
      Crontab.compare "*/10 * * * *" "*/15 * * * *" zone start = .ok (.ok c) ∧
      c.overlap = (commonInstants runs₁ runs₂).card ∧ c.overlap = 3 := by
  intro zone start
  have h : (do
      let e₁ ← read "*/10 * * * *"
      let e₂ ← read "*/15 * * * *"
      let runs₁ ← e₁.runsAfter zone overlapSample start
      let runs₂ ← e₂.runsAfter zone overlapSample start
      return (e₁.schedule?.isSome, e₂.schedule?.isSome, (runs₁ ++ runs₂).all (·.offset = 0),
        (commonInstants runs₁ runs₂).card)) = .ok (true, true, true, 3) := by
    set_option maxRecDepth 2000 in
    decide
  obtain ⟨e₁, he₁, h⟩ := bind_eq_ok_iff.1 h
  obtain ⟨e₂, he₂, h⟩ := bind_eq_ok_iff.1 h
  obtain ⟨runs₁, hruns₁, h⟩ := bind_eq_ok_iff.1 h
  obtain ⟨runs₂, hruns₂, h⟩ := bind_eq_ok_iff.1 h
  simp only [pure_eq_ok_iff, Prod.mk.injEq] at h
  obtain ⟨hsome₁, hsome₂, hoffset, hcard⟩ := h
  obtain ⟨f, hf⟩ := Option.isSome_iff_exists.1 hsome₁
  obtain ⟨g, hg⟩ := Option.isSome_iff_exists.1 hsome₂
  obtain ⟨z, c, -, -, hc, -, hcount, -, -, hback, -⟩ :=
    overlap_eq_card_add_echoes he₁ he₂ hf hg hruns₁ hruns₂
  have hutc : ∀ r ∈ runs₁ ++ runs₂, r.offset = 0 := fun r hr =>
    of_decide_eq_true (List.all_eq_true.1 hoffset r hr)
  have hnone : z.echoes runs₁ runs₂ = [] := by
    rw [List.eq_nil_iff_forall_not_mem]
    intro a ha
    have hazero := hutc a (List.mem_append_left _ (Zone.mem_echoes_iff.1 ha).1)
    obtain ⟨b, hb, hset⟩ := hback a ha
    have hbzero := hutc b (List.mem_append_right _ hb)
    simp [Moment.SetBackBetween, hazero, hbzero] at hset
  rw [hnone, List.length_nil, Nat.add_zero] at hcount
  exact ⟨e₁, e₂, runs₁, runs₂, c, he₁, he₂, hsome₁, hsome₂, hruns₁, hruns₂, hc, hcount,
    hcount.trans hcard⟩

/-- In the night of 3 November 2024 the clocks of New York show half past one twice.  `30-34 * * * *` has
a run at both times among its next ten.  Those of `21-30 * * * *` end with the first of them, which is
the one common instant; but the second time is counted as well, unless that expression is named
first. -/
theorem new_york_echo :
    let zone := Zone.find ⟨0, []⟩ "America/New_York"
    let start : DateTime := .moment (.utc (wallAt (Date.toDay ⟨2024, 11, 3⟩) 5 20 0 0))
    ∃ e₁ e₂ runs₁ runs₂ c c', read "30-34 * * * *" = .ok e₁ ∧ read "21-30 * * * *" = .ok e₂ ∧
      e₁.schedule?.isSome = true ∧ e₂.schedule?.isSome = true ∧
      e₁.runsAfter zone overlapSample start = .ok runs₁ ∧
      e₂.runsAfter zone overlapSample start = .ok runs₂ ∧
      Crontab.compare "30-34 * * * *" "21-30 * * * *" zone start = .ok (.ok c) ∧
      Crontab.compare "21-30 * * * *" "30-34 * * * *" zone start = .ok (.ok c') ∧
      (commonInstants runs₁ runs₂).card = 1 ∧ c.overlap = 2 ∧ c'.overlap = 1 := by
  intro zone start
  have h : (do
      let e₁ ← read "30-34 * * * *"
      let e₂ ← read "21-30 * * * *"
      let runs₁ ← e₁.runsAfter zone overlapSample start
      let runs₂ ← e₂.runsAfter zone overlapSample start
      let z ← zone
      return ((e₁.schedule?.isSome, e₂.schedule?.isSome), (commonInstants runs₁ runs₂).card,
        overlap z runs₁ runs₂, overlap z runs₂ runs₁)) = .ok ((true, true), 1, 2, 1) := by
    set_option maxRecDepth 2000 in
    decide
  obtain ⟨e₁, he₁, h⟩ := bind_eq_ok_iff.1 h
  obtain ⟨e₂, he₂, h⟩ := bind_eq_ok_iff.1 h
  obtain ⟨runs₁, hruns₁, h⟩ := bind_eq_ok_iff.1 h
  obtain ⟨runs₂, hruns₂, h⟩ := bind_eq_ok_iff.1 h
  obtain ⟨z, hz, h⟩ := bind_eq_ok_iff.1 h
  simp only [pure_eq_ok_iff, Prod.mk.injEq] at h
  obtain ⟨⟨hsome₁, hsome₂⟩, hcard, hcount, hcount'⟩ := h
  obtain ⟨f, hf⟩ := Option.isSome_iff_exists.1 hsome₁
  obtain ⟨g, hg⟩ := Option.isSome_iff_exists.1 hsome₂
  obtain ⟨c, hc, hoverlap⟩ := compare_eq_ok he₁ he₂ hf hg (hz ▸ hruns₁) (hz ▸ hruns₂)
  obtain ⟨c', hc', hoverlap'⟩ := compare_eq_ok he₂ he₁ hg hf (hz ▸ hruns₂) (hz ▸ hruns₁)
  exact ⟨e₁, e₂, runs₁, runs₂, c, c', he₁, he₂, hsome₁, hsome₂, hruns₁, hruns₂, hz ▸ hc, hz ▸ hc',
    hcard, hoverlap.trans hcount, hoverlap'.trans hcount'⟩

end Expression

end Crontab
