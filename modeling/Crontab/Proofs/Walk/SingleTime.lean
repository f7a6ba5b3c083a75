import Crontab.Proofs.Expression
import Crontab.Proofs.Calendar
import Crontab.Proofs.Walk.Window

/-!
# One time and the runs at it

Whether an expression fires at a time can be asked in two ways: directly, with `Expression.firesAt`, or
by a search for the runs from this time to itself.  The search turns the time into an instant and
looks at what the clocks of the zone show then.  The direct question looks at the face of the time
(`AskedTime.face`).  Of a moment, and of a time that carries another zone, this is what the clocks show
then.  Of a reading it is the reading, whether it carries the zone or nothing, and it is never asked
whether the clocks show that reading at all.

`agreesAt_iff` says when the two answers agree: for one expression, exactly when it does not tell the
two readings apart, and for all expressions at a whole minute, exactly when the clocks show in that
minute what was looked at.  This is so for every time that is told by the clocks (`AskedTime.IsTold`),
and for every reading that the clocks of the zone come to.  It fails for the readings that they skip:
half past two in the night in which Berlin goes over to summer time is said to be a run, with the zone
and without it, and there is none (`berlin_skipped_run`).

Both need the window of the search to be on the line.  It is always laid out for 366 days, so in the
last of the years the search stops with a fault.
-/

namespace Crontab

/-! ## Two ways to ask -/

namespace Expression

variable {e : Expression} {f : Fields} {z : Zone} {limit : Int} {t : AskedTime} {u w : Int}

/-- Both ways to ask about a time are answered, and alike: it fires when the search finds a run. -/
def AgreesAt (e : Expression) (z : Zone) (limit : Int) (t : AskedTime) : Prop :=
  ∃ found, e.runsBetween (.ok z) limit t t = .ok found ∧ e.firesAt (.ok z) t = .ok (!found.isEmpty)

lemma agreesAt_of_schedule?_eq_none (h : e.schedule? = none) : e.AgreesAt z limit t :=
  ⟨[], by simp [runsBetween, h], by simp [firesAt, h]⟩

/-- A reading that carries the zone is asked about as if it carried nothing. -/
lemma firesAt_zoned (e : Expression) (hname : z.name?.isSome = true) (w : Int) (later : Bool) :
    e.firesAt (.ok z) (.zoned z w later) = e.firesAt (.ok z) (DateTime.reading w later) := by
  have hface := AskedTime.face_zoned (z.isSame_self.trans hname) w later
  cases hf : e.schedule? with
  | none => simp only [firesAt, hf]
  | some f => rw [firesAt_of_face hf hface, firesAt_reading hf]

/-- And it is searched for as if it carried nothing. -/
lemma runsBetween_zoned (e : Expression) (z : Zone) (limit w : Int) (later : Bool) :
    e.runsBetween (.ok z) limit (.zoned z w later) (.zoned z w later) =
      e.runsBetween (.ok z) limit (DateTime.reading w later) (DateTime.reading w later) := rfl

/-- The search from a time to itself goes over one minute, or two when the time is not a whole
minute. -/
lemma minutesBefore_close (u : Int) :
    minutesBefore (u + oneMinute) (minuteOf u) = if u % oneMinute = 0 then 1 else 2 := by
  unfold minutesBefore minuteOf oneMinute
  split <;> omega

/-- The search is answered as long as its window is on the line. -/
lemma runsBetween_self (hf : e.schedule? = some f) (hlimit : 0 < limit) (hu : t.instant z = .ok u)
    (hline : windowStop (minuteOf u) < lineEnd)
    (hwindow : ∀ k, minuteOf u ≤ k → k * oneMinute < u + oneMinute →
      ∃ m, z.tell (k * oneMinute) = .ok m) :
    e.runsBetween (.ok z) limit t t =
      .ok (f.runs z (minutesBefore (u + oneMinute) (minuteOf u)) limit.toNat (minuteOf u)) := by
  have hstart := (onLine_of_instant hu).1
  -- the window ends with the minute that was asked about, long before the 366 days are over
  have hclose : u + oneMinute < windowStop (minuteOf u) := by
    unfold windowStop minuteOf oneMinute windowLength
    omega
  have htwo : minutesBefore (u + oneMinute) (minuteOf u) ≤ 2 := by
    rw [minutesBefore_close]
    split <;> omega
  refine runsBetween_of_walk hf hlimit hu hu (hclose.trans hline) hline ?_
  rw [min_eq_left hclose.le]
  refine Fields.walk_eq_ok_of_onLine (fun v h₁ h₂ => ⟨v * oneMinute, ?_⟩)
    (fun v h₁ h₂ => hwindow v h₁ ((lt_add_minutesBefore h₁).1 h₂)) _
  have hv : v < minuteOf u + windowLength := by
    unfold windowLength
    omega
  exact onLine_minute hstart h₁ hv hline

/-- **One expression.**  The two answers agree when the expression fires at the reading that was asked
about just if it has a hit in the window of the search. -/
lemma agreesAt_iff_of_schedule? (hf : e.schedule? = some f) (hlimit : 0 < limit)
    (hu : t.instant z = .ok u) (hw : t.face (.ok z) = .ok w)
    (hwindow : ∀ k, minuteOf u ≤ k → k * oneMinute < u + oneMinute →
      ∃ m, z.tell (k * oneMinute) = .ok m) :
    e.AgreesAt z limit t ↔ windowStop (minuteOf u) < lineEnd ∧
      (f.fires (Civil.ofWall w) = true ↔
        f.hits z (minutesBefore (u + oneMinute) (minuteOf u)) (minuteOf u) ≠ []) := by
  set n := minutesBefore (u + oneMinute) (minuteOf u) with hn
  have hempty : (f.runs z n limit.toNat (minuteOf u)).isEmpty = (f.hits z n (minuteOf u)).isEmpty := by
    obtain ⟨l, hl⟩ : ∃ l, limit.toNat = l + 1 := ⟨limit.toNat - 1, by omega⟩
    rw [Fields.runs, hl]
    cases f.hits z n (minuteOf u) <;> rfl
  have hanswers : ∀ b : Bool, (b = !(f.hits z n (minuteOf u)).isEmpty) ↔
      (b = true ↔ f.hits z n (minuteOf u) ≠ []) := by
    intro b
    rw [← List.isEmpty_eq_false_iff]
    cases b <;> cases (f.hits z n (minuteOf u)).isEmpty <;> decide
  rw [AgreesAt, firesAt_of_face hf hw, ← hanswers, ← hempty]
  constructor
  · -- that the search answers says that its window is on the line
    rintro ⟨found, hfound, hfires⟩
    rcases runsBetween_cases hfound with ⟨-, hnone⟩ | ⟨-, z', t', -, -, -, hz, ht', -, hline, -⟩
    · have := hnone.resolve_right (by omega)
      simp [hf] at this
    · obtain rfl := Except.ok.inj hz
      obtain rfl : u = t' := Except.ok.inj (hu.symm.trans ht')
      rw [runsBetween_self hf hlimit hu hline hwindow] at hfound
      obtain rfl := Except.ok.inj hfound
      exact ⟨hline, Except.ok.inj hfires⟩
  · rintro ⟨hline, hfires⟩
    exact ⟨_, runsBetween_self hf hlimit hu hline hwindow, by rw [hfires]⟩

end Expression

/-! ## Readings that no expression tells apart -/

namespace Civil

/-- The time and the weekday of two readings are the same. -/
def SameTimeOfWeek (c d : Civil) : Prop :=
  c.minute = d.minute ∧ c.hour = d.hour ∧ c.weekday = d.weekday

lemma hour_eq_minute_div (w : Int) : w / oneHour = minuteOf w / 60 := by
  unfold minuteOf oneMinute oneHour
  omega

lemma day_eq_minute_div (w : Int) : w / oneDay = minuteOf w / 1440 := by
  unfold minuteOf oneMinute oneDay
  omega

/-- Readings in the same minute differ in seconds only. -/
lemma ofWall_of_minuteOf_eq {v w : Int} (h : minuteOf v = minuteOf w) :
    (ofWall v).minute = (ofWall w).minute ∧ (ofWall v).hour = (ofWall w).hour ∧
      (ofWall v).date = (ofWall w).date ∧ (ofWall v).weekday = (ofWall w).weekday := by
  have hminute : v / oneMinute = w / oneMinute := h
  simp [ofWall, hour_eq_minute_div, day_eq_minute_div, h, hminute]

/-- Readings less than six days apart with the same time and weekday are in the same minute. -/
lemma minuteOf_eq_of_sameTimeOfWeek {v w : Int} (hv : 0 ≤ v) (hw : 0 ≤ w)
    (hnear : |v - w| < 6 * oneDay) (h : (ofWall v).SameTimeOfWeek (ofWall w)) :
    minuteOf v = minuteOf w := by
  obtain ⟨hminute, hhour, hweekday⟩ := h
  have hnonneg : ∀ {x y : Int}, 0 ≤ x → 0 ≤ y → x.toNat = y.toNat → x = y := fun _ _ _ => by omega
  have hclose : |minuteOf v - minuteOf w| < 6 * 1440 + 1 := by
    rw [abs_lt] at hnear ⊢
    unfold minuteOf oneMinute
    unfold oneDay at hnear
    omega
  have hpos : 0 ≤ minuteOf v ∧ 0 ≤ minuteOf w := by
    unfold minuteOf oneMinute
    omega
  simp only [ofWall, Crontab.weekday, hour_eq_minute_div, day_eq_minute_div] at hminute hhour hweekday
  change (minuteOf v % 60).toNat = (minuteOf w % 60).toNat at hminute
  rw [abs_lt] at hclose
  generalize minuteOf v = a at *
  generalize minuteOf w = b at *
  replace hminute : a % 60 = b % 60 :=
    hnonneg (Int.emod_nonneg a (by decide)) (Int.emod_nonneg b (by decide)) hminute
  replace hhour : a / 60 % 24 = b / 60 % 24 :=
    hnonneg (Int.emod_nonneg _ (by decide)) (Int.emod_nonneg _ (by decide)) hhour
  -- less than a week apart, the same weekday is the same day
  have hday : a / 1440 = b / 1440 := by
    clear hminute hhour
    omega
  clear hweekday hclose hpos
  omega

/-- The fields of an expression that fires every week at the time of a reading. -/
def weekly (c : Civil) : Fields where
  minute := ⟨natText c.minute, [c.minute], [], []⟩
  hour := ⟨natText c.hour, [c.hour], [], []⟩
  dayOfMonth := ⟨"*", List.range' 1 31, [], []⟩
  month := ⟨"*", List.range' 1 12, [], []⟩
  dayOfWeek := ⟨natText c.weekday, [c.weekday], [], []⟩

lemma isStored_weekly (w : Int) (p : Position) : ((ofWall w).weekly.get p).IsStored p := by
  have hnumber : ∀ {p : Position} {n : Nat}, p.inBounds n = true → p.stored n = n →
      (⟨natText n, [n], [], []⟩ : Field).IsStored p := fun {p n} hn hstored => by
    have hlisted : (⟨Text.join "," ([n].map natText), [n], [], []⟩ : Field).IsStored p :=
      Field.isStored_numbers (by simp) (List.pairwise_singleton _ _) (by simpa using ⟨hn, hstored⟩)
    exact hlisted
  have hday : (⟨"*", List.range' 1 31, [], []⟩ : Field).IsStored .dayOfMonth :=
    ⟨rfl, by decide, by decide, by decide⟩
  have hmonth : (⟨"*", List.range' 1 12, [], []⟩ : Field).IsStored .month :=
    ⟨rfl, by decide, by decide, by decide⟩
  have hweekday := weekday_ofWall_lt w
  cases p with
  | minute =>
    have := minute_ofWall_lt w
    exact hnumber (Position.inBounds_iff.2 ⟨Nat.zero_le _, Nat.le_of_lt_succ this⟩) rfl
  | hour =>
    have := hour_ofWall_lt w
    exact hnumber (Position.inBounds_iff.2 ⟨Nat.zero_le _, Nat.le_of_lt_succ this⟩) rfl
  | dayOfMonth => exact hday
  | month => exact hmonth
  | dayOfWeek =>
    refine hnumber (Position.inBounds_iff.2 ⟨Nat.zero_le _, hweekday.le⟩) ?_
    simp [Position.stored, hweekday.ne]

/-- The weekly expression is one that can be written. -/
lemma exists_read_weekly (w : Int) :
    ∃ s e, Expression.read s = .ok e ∧ e.schedule? = some (ofWall w).weekly := by
  have hstored := isStored_weekly w
  have hat : '@' ∉ ((ofWall w).weekly.get .minute).raw := Field.notMem_natText (by decide)
  exact ⟨_, _, Expression.read_textOf (fun p => (hstored p).isSolid) hat fun p => (hstored p).read_raw,
    Expression.schedule?_of_timed.2 fun p => (hstored p).sound⟩

/-- It fires at the readings with the same time and weekday. -/
lemma fires_weekly_iff (c : Civil) (w : Int) :
    c.weekly.fires (ofWall w) = true ↔ (ofWall w).SameTimeOfWeek c := by
  have hmonth : (ofWall w).date.month ∈ List.range' 1 12 := by
    obtain ⟨-, hmonth, -⟩ := Date.isValid_iff.1 (Date.isValid_ofDay (w / oneDay).toNat)
    rw [List.mem_range'_1]
    exact ⟨hmonth.1, Nat.lt_succ_of_le hmonth.2⟩
  have hany : c.weekly.dayOfMonth.isAny = true := rfl
  have hweekday : c.weekly.dayOfWeek.isAny = false :=
    Field.isAny_eq_false_of_notMem (Field.notMem_natText (by decide))
  have hfiresOn : c.weekly.firesOn (ofWall w) = decide ((ofWall w).weekday = c.weekday) := by
    rw [Fields.firesOn, hany, hweekday]
    simp [weekly]
  simp only [Fields.fires, Fields.firesInHour, hfiresOn]
  simp [weekly, SameTimeOfWeek, hmonth]

end Civil

namespace Fields

lemma fires_of_minuteOf_eq (f : Fields) {v w : Int} (h : minuteOf v = minuteOf w) :
    f.fires (Civil.ofWall v) = f.fires (Civil.ofWall w) := by
  obtain ⟨hminute, hhour, hdate, hweekday⟩ := Civil.ofWall_of_minuteOf_eq h
  simp only [fires, firesInHour, firesOn, hminute, hhour, hdate, hweekday]

/-- In a window of one minute there is a hit when the fields fire in this minute. -/
lemma hits_one_ne_nil_iff {f : Fields} {z : Zone} {k : Int} :
    f.hits z 1 k ≠ [] ↔ f.firesIn z k = true := by
  have hrest : 0 + 1 - f.stride z k = 0 := Nat.sub_eq_zero_of_le (f.stride_pos z k)
  rw [hits_succ, hrest, hits_zero]
  split <;> simp_all

end Fields

/-! ## Agreement -/

namespace Expression

variable {z : Zone} {limit : Int} {t : AskedTime} {u w : Int}

/-- **All expressions at a whole minute.**  If the two answers agree for each expression that can be
written, then so do they for the one that fires every week at the reading that is looked at. -/
lemma forall_agreesAt_iff (hlimit : 0 < limit) (hu : t.instant z = .ok u)
    (htell : ∃ m, z.tell u = .ok m) (hw : t.face (.ok z) = .ok w) (hwhole : u % oneMinute = 0)
    (hpos : 0 ≤ w) (hnear : |w - (z.momentAt u).wall| < 6 * oneDay) :
    (∀ s e, read s = .ok e → e.AgreesAt z limit t) ↔
      windowStop (minuteOf u) < lineEnd ∧ minuteOf w = minuteOf (z.momentAt u).wall := by
  have hminute : minuteOf u * oneMinute = u := by
    unfold minuteOf oneMinute at *
    omega
  have hwindow : ∀ k, minuteOf u ≤ k → k * oneMinute < u + oneMinute →
      ∃ m, z.tell (k * oneMinute) = .ok m := by
    intro k hk hclose
    have hku : k * oneMinute = u := by
      unfold minuteOf oneMinute at *
      omega
    exact hku ▸ htell
  have hfiresIn : ∀ f : Fields, f.firesIn z (minuteOf u) =
      f.fires (Civil.ofWall (z.momentAt u).wall) := fun f => by
    rw [Fields.firesIn, Zone.shown, hminute]
  have hone := fun (e : Expression) (f : Fields) (hf : e.schedule? = some f) =>
    agreesAt_iff_of_schedule? hf hlimit hu hw hwindow
  rw [minutesBefore_close, if_pos hwhole] at hone
  simp only [Fields.hits_one_ne_nil_iff, hfiresIn] at hone
  constructor
  · intro hall
    -- the weekly expression of the reading that is looked at fires there
    obtain ⟨s, e, hread, hf⟩ := Civil.exists_read_weekly w
    obtain ⟨hline, hfires⟩ := (hone e _ hf).1 (hall s e hread)
    rw [Civil.fires_weekly_iff, Civil.fires_weekly_iff] at hfires
    obtain ⟨m, hm⟩ := htell
    obtain ⟨⟨v, hv⟩, -⟩ := Zone.tell_eq_ok_iff.1 hm
    obtain ⟨hwall, -⟩ := onLine_eq_ok_iff.1 hv
    obtain ⟨hsame₁, hsame₂, hsame₃⟩ := hfires.1 ⟨rfl, rfl, rfl⟩
    exact ⟨hline, Civil.minuteOf_eq_of_sameTimeOfWeek hpos hwall.1 hnear
      ⟨hsame₁.symm, hsame₂.symm, hsame₃.symm⟩⟩
  · rintro ⟨hline, hsame⟩ s e -
    cases hf : e.schedule? with
    | none => exact agreesAt_of_schedule?_eq_none hf
    | some f => exact (hone e f hf).2 ⟨hline, by rw [f.fires_of_minuteOf_eq hsame]⟩

/-- **When a time is a run.**  The direct question about a time looks at a reading `w`.  It agrees with
the search for the runs at that time, for one expression, exactly when the window of the search is on
the line and the expression fires at `w` just if it has a hit in the window.  At a whole minute this
holds for all expressions that can be written exactly when the clocks show `w` in this minute.

A time that is told by the clocks, such as a moment or one that carries another zone, is looked at as
they show it, so that the answers agree as long as the window is on the line.  A reading is looked at as
it stands, and it makes no difference whether it carries the zone. -/
theorem agreesAt_iff (hlimit : 0 < limit) (hu : t.instant z = .ok u) (htell : ∃ m, z.tell u = .ok m)
    (hwindow : ∀ k, minuteOf u ≤ k → k * oneMinute < u + oneMinute →
      ∃ m, z.tell (k * oneMinute) = .ok m) :
    ∃ w, t.face (.ok z) = .ok w ∧
      (∀ (e : Expression) (f : Fields), e.schedule? = some f →
        (e.AgreesAt z limit t ↔ windowStop (minuteOf u) < lineEnd ∧
          (f.fires (Civil.ofWall w) = true ↔
            f.hits z (minutesBefore (u + oneMinute) (minuteOf u)) (minuteOf u) ≠ []))) ∧
      (u % oneMinute = 0 → 0 ≤ w → |w - (z.momentAt u).wall| < 6 * oneDay →
        ((∀ s e, read s = .ok e → e.AgreesAt z limit t) ↔
          windowStop (minuteOf u) < lineEnd ∧ minuteOf w = minuteOf (z.momentAt u).wall)) ∧
      (t.IsTold z → w = (z.momentAt u).wall ∧
        (u % oneMinute = 0 → windowStop (minuteOf u) < lineEnd →
          ∀ s e, read s = .ok e → e.AgreesAt z limit t)) ∧
      ∀ v later, (t = DateTime.reading v later → w = v) ∧
        (z.name?.isSome = true → t = .zoned z v later →
          w = v ∧ ∀ e : Expression, e.AgreesAt z limit t ↔
            e.AgreesAt z limit (DateTime.reading v later)) := by
  obtain ⟨w, hw⟩ := AskedTime.exists_face hu htell
  have hall := forall_agreesAt_iff hlimit hu htell hw
  refine ⟨w, hw, fun e f hf => agreesAt_iff_of_schedule? hf hlimit hu hw hwindow, hall,
    fun ht => ?_, fun v later => ⟨?_, fun hname => ?_⟩⟩
  · obtain ⟨m, hm⟩ := htell
    obtain ⟨⟨v, hv⟩, rfl⟩ := Zone.tell_eq_ok_iff.1 hm
    obtain rfl := Except.ok.inj (hw.symm.trans (AskedTime.face_of_isTold ht hu hm))
    refine ⟨rfl, fun hwhole hline => (hall hwhole (onLine_eq_ok_iff.1 hv).1.1 ?_).2 ⟨hline, rfl⟩⟩
    rw [sub_self]
    decide
  · rintro rfl
    exact (Except.ok.inj hw).symm
  · rintro rfl
    have hface := AskedTime.face_zoned (z.isSame_self.trans hname) v later
    refine ⟨Except.ok.inj (hw.symm.trans hface), fun e => ?_⟩
    rw [AgreesAt, AgreesAt, firesAt_zoned e hname, runsBetween_zoned]

/-- The clocks of New York show the hour from 1:00 twice in the night of 3 November 2024.  Whichever of
the two half past ones is asked about, every expression answers as the search does. -/
theorem agreesAt_repeatedHour :
    let halfPastOne := wallAt (Date.toDay ⟨2024, 11, 3⟩) 1 30 0 0
    ∃ z, Zone.find ⟨0, []⟩ "America/New_York" = .ok z ∧
      ∀ later s e, read s = .ok e → e.AgreesAt z 100 (DateTime.reading halfPastOne later) := by
  intro halfPastOne
  let night := Date.toDay ⟨2024, 11, 3⟩
  have h : (do
      let z ← Zone.find ⟨0, []⟩ "America/New_York"
      let first ← (DateTime.reading halfPastOne false).instant z
      let shownFirst ← z.tell first
      let second ← (DateTime.reading halfPastOne true).instant z
      let shownSecond ← z.tell second
      return (first, shownFirst.wall, second, shownSecond.wall)) =
        .ok (wallAt night 5 30 0 0, halfPastOne, wallAt night 6 30 0 0, halfPastOne) := by
    decide +kernel
  obtain ⟨z, hz, h⟩ := bind_eq_ok_iff.1 h
  obtain ⟨first, hfirst, h⟩ := bind_eq_ok_iff.1 h
  obtain ⟨shownFirst, htellFirst, h⟩ := bind_eq_ok_iff.1 h
  obtain ⟨second, hsecond, h⟩ := bind_eq_ok_iff.1 h
  obtain ⟨shownSecond, htellSecond, h⟩ := bind_eq_ok_iff.1 h
  simp only [pure_eq_ok_iff, Prod.mk.injEq] at h
  obtain ⟨rfl, hwallFirst, rfl, hwallSecond⟩ := h
  -- the clocks show the same reading at both instants, and nothing else is looked at
  have hagrees : ∀ {later : Bool} {u : Int} {shown : Moment}, u % oneMinute = 0 →
      windowStop (minuteOf u) < lineEnd →
      (AskedTime.plain (.reading halfPastOne later)).instant z = .ok u → z.tell u = .ok shown →
      shown.wall = halfPastOne →
      ∀ s e, read s = .ok e → e.AgreesAt z 100 (DateTime.reading halfPastOne later) := by
    intro later u shown hwhole hline hu htell hwall
    obtain ⟨-, rfl⟩ := Zone.tell_eq_ok_iff.1 htell
    have hwindow : ∀ k, minuteOf u ≤ k → k * oneMinute < u + oneMinute →
        ∃ m, z.tell (k * oneMinute) = .ok m := by
      intro k hk hclose
      have hk : k * oneMinute = u := by
        unfold minuteOf oneMinute at *
        omega
      exact ⟨_, hk ▸ htell⟩
    obtain ⟨w, -, -, hall, -, hface⟩ :=
      agreesAt_iff (show (0 : Int) < 100 by decide) hu ⟨_, htell⟩ hwindow
    obtain rfl := (hface halfPastOne later).1 rfl
    refine (hall hwhole (show 0 ≤ halfPastOne by decide) ?_).2 ⟨hline, ?_⟩
    · rw [hwall, sub_self]
      decide
    · rw [hwall]
  refine ⟨z, hz, fun later => ?_⟩
  cases later with
  | false => exact hagrees (by decide) (by decide) hfirst htellFirst hwallFirst
  | true => exact hagrees (by decide) (by decide) hsecond htellSecond hwallSecond

/-- The clocks of Berlin are set from 2:00 to 3:00 on 31 March 2024.  Asked about half past two of that
night, by itself or with the zone of Berlin, `30 2 * * *` is said to fire, and the search from there to
there finds no run. -/
theorem berlin_skipped_run :
    let halfPastTwo := wallAt (Date.toDay ⟨2024, 3, 31⟩) 2 30 0 0
    ∃ e z, read "30 2 * * *" = .ok e ∧ e.isValid = true ∧ e.isReboot = false ∧
      Zone.find ⟨0, []⟩ "Europe/Berlin" = .ok z ∧
      ∀ (later : Bool) (t : AskedTime),
        t = DateTime.reading halfPastTwo later ∨ t = .zoned z halfPastTwo later →
          e.firesAt (.ok z) t = .ok true ∧ e.runsBetween (.ok z) 100 t t = .ok [] := by
  intro halfPastTwo
  obtain ⟨e, z, he, hz⟩ : ∃ e z, read "30 2 * * *" = .ok e ∧
      Zone.find ⟨0, []⟩ "Europe/Berlin" = .ok z := ⟨_, _, rfl, rfl⟩
  have h : ∀ later, (do
      let e ← read "30 2 * * *"
      let z ← Zone.find ⟨0, []⟩ "Europe/Berlin"
      let fires ← e.firesAt (.ok z) (DateTime.reading halfPastTwo later)
      let found ← e.runsBetween (.ok z) 100 (DateTime.reading halfPastTwo later)
        (DateTime.reading halfPastTwo later)
      return ((e.isValid, e.isReboot, z.name?.isSome), fires, found)) =
        .ok ((true, false, true), true, []) := by
    decide +kernel
  simp only [he, hz, ok_bind] at h
  have hreading : ∀ later, (e.isValid = true ∧ e.isReboot = false ∧ z.name?.isSome = true) ∧
      e.firesAt (.ok z) (DateTime.reading halfPastTwo later) = .ok true ∧
      e.runsBetween (.ok z) 100 (DateTime.reading halfPastTwo later)
        (DateTime.reading halfPastTwo later) = .ok [] := by
    intro later
    obtain ⟨fires, hfires, hrest⟩ := bind_eq_ok_iff.1 (h later)
    obtain ⟨found, hfound, hrest⟩ := bind_eq_ok_iff.1 hrest
    simp only [pure_eq_ok_iff, Prod.mk.injEq] at hrest
    obtain ⟨hfacts, rfl, rfl⟩ := hrest
    exact ⟨hfacts, hfires, hfound⟩
  obtain ⟨⟨hvalid, hreboot, hname⟩, -⟩ := hreading false
  refine ⟨e, z, he, hvalid, hreboot, hz, fun later t ht => ?_⟩
  -- carrying the zone along changes neither answer
  rcases ht with rfl | rfl
  · exact (hreading later).2
  · rw [firesAt_zoned e hname, runsBetween_zoned]
    exact (hreading later).2

end Expression

end Crontab
