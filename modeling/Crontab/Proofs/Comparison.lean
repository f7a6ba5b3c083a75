import Crontab.Comparison
import Crontab.Proofs.Calendar
import Crontab.Proofs.Field.Bounds
import Crontab.Proofs.Schedule
import Crontab.Zone.Atlas

/-!
# What it means that no difference was found

A comparison finds no difference when the five fields select the same numbers.  That settles the
schedule up to one point.  A day field that is `*` puts no condition on the day, but one that selects
everything in another spelling, such as `0-6` for the weekdays, still counts as a condition.  With the
other day field set, the first leaves the choice to the other field, and the second lets every day
pass.  So `* * 13 * *` and `* * 13 * 0-6` compare as the same, though only the second fires on other
days than the thirteenth (`same_thirteenth`).

`same_exact_iff` says when the verdict can be relied on: when the same day fields are `*`, or where
one is not, the other day field selects all there is to select, so that the day is never in question
(`Fields.DaysAgree`); and, for a trivial reason, when no time of day or no month is selected at all.
-/

namespace Crontab

namespace Fields

variable {f g : Fields}

lemma differences_eq_nil_iff : f.differences g = [] ↔ f.SelectAlike g := by
  rw [differences, List.map_eq_nil_iff, List.filter_eq_nil_iff]
  constructor
  · intro h p
    have hp := h p (by cases p <;> decide)
    simpa [agreeAt] using hp
  · intro h p _
    simp [agreeAt, h p]

/-! ## The condition on the day -/

/-- The condition on a day, from what the day fields are and whether they select the day. -/
def dayClause (anyDay anyWeekday inDays inWeekdays : Bool) : Bool :=
  if anyDay && anyWeekday then true
  else if anyDay then inWeekdays
  else if anyWeekday then inDays
  else inDays || inWeekdays

lemma firesOn_eq_dayClause (f : Fields) (c : Civil) :
    f.firesOn c = dayClause f.dayOfMonth.isAny f.dayOfWeek.isAny
      (f.dayOfMonth.values.contains c.date.day) (f.dayOfWeek.values.contains c.weekday) := rfl

/-- On a day that either field selects as far as it is `*` in one of two expressions, the two
conditions agree exactly when each difference in the stars is made up for by the other field. -/
lemma dayClause_eq_iff : ∀ a b a' b' inDays inWeekdays : Bool,
    ((a || a') → inDays) → ((b || b') → inWeekdays) →
      (dayClause a b inDays inWeekdays = dayClause a' b' inDays inWeekdays ↔
        (a = a' ∨ inWeekdays) ∧ (b = b' ∨ inDays)) := by
  decide

/-- Every weekday is selected. -/
def SelectsEveryWeekday (f : Fields) : Prop := ∀ w < 7, w ∈ f.dayOfWeek.values

/-- Every day that a selected month can have is selected. -/
def SelectsEveryDay (f : Fields) : Prop :=
  ∀ m ∈ f.month.values, ∀ d, 1 ≤ d → d ≤ daysInMonth true m → d ∈ f.dayOfMonth.values

/-- No minute, no hour or no month is selected, so that there are no runs. -/
def SelectsNoTime (f : Fields) : Prop :=
  f.minute.values = [] ∨ f.hour.values = [] ∨ f.month.values = []

lemma neverFires_of_selectsNoTime (h : f.SelectsNoTime) : f.NeverFires := by
  intro w
  rcases h with h | h | h <;> simp [fires, firesInHour, h]

/-- Where one day field is `*` in one expression only, the other day field leaves no day out. -/
def DaysAgree (f g : Fields) : Prop :=
  (f.dayOfMonth.isAny = g.dayOfMonth.isAny ∨ f.SelectsEveryWeekday) ∧
    (f.dayOfWeek.isAny = g.dayOfWeek.isAny ∨ f.SelectsEveryDay)

end Fields

/-! ## Fields that are `*` -/

namespace Field

variable {p : Position} {s : Text} {f : Field}

/-- A field that is `*` selects every number within the bounds. -/
lemma mem_values_of_isAny (h : Field.read p s = .ok f) (hany : f.isAny = true) {v : Nat}
    (hv : p.inBounds v = true) : p.stored v ∈ f.values := by
  obtain ⟨segments, hsegments, hf⟩ := bind_eq_ok_iff.1 h
  have hraw : normalize p s = "*" := by
    rw [← isAny_iff.1 hany, ← pure_eq_ok_iff.1 hf]
  rw [hraw] at hsegments
  obtain rfl : segments = [some ⟨.all, none⟩] := (Except.ok.inj hsegments).symm
  rw [← pure_eq_ok_iff.1 hf, mem_ascending, List.mem_flatMap]
  refine ⟨⟨.all, none⟩, by simp, List.mem_map.2 ⟨v, (mem_stepped (by simp)).2 ?_, rfl⟩⟩
  obtain ⟨hleast, hgreatest⟩ := Position.inBounds_iff.1 hv
  exact ⟨hleast, hgreatest, by simp⟩

end Field

namespace Fields

variable {f g : Fields}

lemma mem_dayOfMonth_of_isAny (hread : f.AreRead) (hany : f.dayOfMonth.isAny = true) {d : Nat}
    (h₁ : 1 ≤ d) (h₂ : d ≤ 31) : d ∈ f.dayOfMonth.values := by
  obtain ⟨s, hs⟩ := hread .dayOfMonth
  have hmem : Position.dayOfMonth.stored d ∈ f.dayOfMonth.values :=
    Field.mem_values_of_isAny hs hany (Position.inBounds_iff.2 ⟨h₁, h₂⟩)
  simpa [Position.stored] using hmem

lemma mem_dayOfWeek_of_isAny (hread : f.AreRead) (hany : f.dayOfWeek.isAny = true) {w : Nat}
    (hw : w < 7) : w ∈ f.dayOfWeek.values := by
  obtain ⟨s, hs⟩ := hread .dayOfWeek
  have hbounds : Position.dayOfWeek.inBounds w = true :=
    Position.inBounds_iff.2 ⟨Nat.zero_le _, show w ≤ 7 by omega⟩
  have hmem : Position.dayOfWeek.stored w ∈ f.dayOfWeek.values :=
    Field.mem_values_of_isAny hs hany hbounds
  simpa [Position.stored, hw.ne] using hmem

end Fields

/-! ## Readings -/

/-- The day that a reading shows is one of its month, and of the longer of the two Februaries. -/
lemma Civil.day_ofWall_bounds (w : Int) :
    1 ≤ (ofWall w).date.day ∧ (ofWall w).date.day ≤ daysInMonth true (ofWall w).date.month := by
  obtain ⟨-, -, hfirst, hlast⟩ := Date.isValid_iff.1 (Date.isValid_ofDay (w / oneDay).toNat)
  have hlong : ∀ leap m, daysInMonth leap m ≤ daysInMonth true m := by
    intro leap m
    cases leap
    · exact daysInMonth_false_le true m
    · exact le_rfl
  exact ⟨hfirst, hlast.trans (hlong _ _)⟩

/-- Every time of day of every day is shown by some reading. -/
lemma Civil.exists_ofWall (day : Nat) {h m : Nat} (hh : h < 24) (hm : m < 60) :
    ∃ w, (ofWall w).date = Date.ofDay day ∧ (ofWall w).weekday = Crontab.weekday day ∧
      (ofWall w).hour = h ∧ (ofWall w).minute = m := by
  set w : Int := (day * 1440 + h * 60 + m : Int) * oneMinute with hw
  have hday : w / oneDay = day := by
    simp only [hw, oneMinute, oneDay]
    omega
  refine ⟨w, by simp [ofWall, hday], by simp [ofWall, hday], ?_, ?_⟩
  · simp only [ofWall, hw, oneMinute, oneHour]
    omega
  · simp only [ofWall, hw, oneMinute]
    omega

/-! ## Schedules that agree -/

namespace Fields

variable {f g : Fields}

section Alike

variable (hf : f.AreRead) (hg : g.AreRead) (hselect : f.SelectAlike g)

include hf hg hselect

/-- On a day of a reading, the conditions agree exactly when each difference in the stars is made up
for. -/
lemma firesOn_eq_iff (w : Int) :
    f.firesOn (Civil.ofWall w) = g.firesOn (Civil.ofWall w) ↔
      (f.dayOfMonth.isAny = g.dayOfMonth.isAny ∨
          (Civil.ofWall w).weekday ∈ f.dayOfWeek.values) ∧
        (f.dayOfWeek.isAny = g.dayOfWeek.isAny ∨
          (Civil.ofWall w).date.day ∈ f.dayOfMonth.values) := by
  have hdays : f.dayOfMonth.values = g.dayOfMonth.values := hselect .dayOfMonth
  have hweekdays : f.dayOfWeek.values = g.dayOfWeek.values := hselect .dayOfWeek
  obtain ⟨hfirst, hlast⟩ := Civil.day_ofWall_bounds w
  have hlast31 := hlast.trans (daysInMonth_le _ _)
  -- a field that is `*` selects every day, and the other one has the same values
  have hinDays : (f.dayOfMonth.isAny || g.dayOfMonth.isAny) = true →
      f.dayOfMonth.values.contains (Civil.ofWall w).date.day = true := by
    rw [Bool.or_eq_true, List.contains_iff_mem]
    rintro (hany | hany)
    · exact mem_dayOfMonth_of_isAny hf hany hfirst hlast31
    · exact hdays ▸ mem_dayOfMonth_of_isAny hg hany hfirst hlast31
  have hinWeekdays : (f.dayOfWeek.isAny || g.dayOfWeek.isAny) = true →
      f.dayOfWeek.values.contains (Civil.ofWall w).weekday = true := by
    rw [Bool.or_eq_true, List.contains_iff_mem]
    rintro (hany | hany)
    · exact mem_dayOfWeek_of_isAny hf hany (Civil.weekday_ofWall_lt w)
    · exact hweekdays ▸ mem_dayOfWeek_of_isAny hg hany (Civil.weekday_ofWall_lt w)
  rw [firesOn_eq_dayClause, firesOn_eq_dayClause, ← hdays, ← hweekdays,
    dayClause_eq_iff _ _ _ _ _ _ hinDays hinWeekdays, List.contains_iff_mem, List.contains_iff_mem]

/-- Expressions whose days agree fire alike. -/
lemma firesInHour_of_daysAgree (hagree : f.DaysAgree g) (w : Int) :
    f.firesInHour (Civil.ofWall w) = g.firesInHour (Civil.ofWall w) := by
  have hmonths : f.month.values = g.month.values := hselect .month
  have hhours : f.hour.values = g.hour.values := hselect .hour
  rw [firesInHour, firesInHour, ← hmonths, ← hhours]
  by_cases hmonth : (Civil.ofWall w).date.month ∈ f.month.values
  · obtain ⟨hfirst, hlast⟩ := Civil.day_ofWall_bounds w
    have hfiresOn := (firesOn_eq_iff hf hg hselect w).2
      ⟨hagree.1.imp_right fun h => h _ (Civil.weekday_ofWall_lt w),
        hagree.2.imp_right fun h => h _ hmonth _ hfirst hlast⟩
    rw [hfiresOn]
  · simp [hmonth]

/-- Where expressions fire alike at a selected time of any day of a selected month, a difference in the
stars is made up for on this day. -/
lemma dayConditions_of_fires (hfires : ∀ w, f.fires (Civil.ofWall w) = g.fires (Civil.ofWall w))
    {h m day : Nat} (hh : h ∈ f.hour.values) (hm : m ∈ f.minute.values)
    (hμ : (Date.ofDay day).month ∈ f.month.values) :
    (f.dayOfMonth.isAny = g.dayOfMonth.isAny ∨ Crontab.weekday day ∈ f.dayOfWeek.values) ∧
      (f.dayOfWeek.isAny = g.dayOfWeek.isAny ∨ (Date.ofDay day).day ∈ f.dayOfMonth.values) := by
  have hm60 : m < 60 := Nat.lt_succ_of_le (hf.bounds (p := .minute) (by decide) hm).2
  have hh24 : h < 24 := Nat.lt_succ_of_le (hf.bounds (p := .hour) (by decide) hh).2
  obtain ⟨w, hdate, hweekday, hwh, hwm⟩ := Civil.exists_ofWall day hh24 hm60
  have hfw := hfires w
  have hminutes : f.minute.values = g.minute.values := hselect .minute
  have hhours : f.hour.values = g.hour.values := hselect .hour
  have hmonths : f.month.values = g.month.values := hselect .month
  rw [fires, fires, firesInHour, firesInHour, ← hminutes, ← hhours, ← hmonths, hdate, hwh, hwm] at hfw
  -- month, hour and minute are selected, so that only the conditions on the day are left
  simp only [List.contains_iff_mem.2 hm, List.contains_iff_mem.2 hh, List.contains_iff_mem.2 hμ,
    Bool.true_and] at hfw
  rw [← hdate, ← hweekday]
  exact (firesOn_eq_iff hf hg hselect w).1 hfw

/-- Expressions that fire alike and have runs at all agree in their days: a difference in the stars
that is not made up for shows on some day of every selected month. -/
lemma daysAgree_of_fires (hsome : ¬ f.SelectsNoTime)
    (hfires : ∀ w, f.fires (Civil.ofWall w) = g.fires (Civil.ofWall w)) : f.DaysAgree g := by
  obtain ⟨hminute, hhour, hmonth⟩ :
      f.minute.values ≠ [] ∧ f.hour.values ≠ [] ∧ f.month.values ≠ [] := by
    simpa [SelectsNoTime] using hsome
  obtain ⟨m, hm⟩ := List.exists_mem_of_ne_nil _ hminute
  obtain ⟨h, hh⟩ := List.exists_mem_of_ne_nil _ hhour
  have hbounds : ∀ μ ∈ f.month.values, 1 ≤ μ ∧ μ ≤ 12 := fun μ hμ =>
    hf.bounds (p := .month) (by decide) hμ
  constructor
  · by_cases hstar : f.dayOfMonth.isAny = g.dayOfMonth.isAny
    · exact .inl hstar
    · right
      intro v hv
      -- every weekday comes round in a selected month
      obtain ⟨μ, hμ⟩ := List.exists_mem_of_ne_nil _ hmonth
      obtain ⟨day, -, -, hdμ, rfl⟩ := exists_weekday_after (hbounds μ hμ) hv 0
      have hselected : (Date.ofDay day).month ∈ f.month.values := hdμ ▸ hμ
      exact (dayConditions_of_fires hf hg hselect hfires hh hm hselected).1.resolve_left hstar
  · by_cases hstar : f.dayOfWeek.isAny = g.dayOfWeek.isAny
    · exact .inl hstar
    · right
      intro μ hμ δ hfirst hlast
      -- in the year 4 each month is as long as it can be
      have hleap : isLeap 4 = true := by decide
      have hvalid : Date.isValid ⟨4, μ, δ⟩ = true :=
        Date.isValid_iff.2 ⟨Nat.le_add_left 1 3, hbounds μ hμ, hfirst, hleap ▸ hlast⟩
      have hdate := Date.ofDay_toDay hvalid
      have hselected : (Date.ofDay (Date.toDay ⟨4, μ, δ⟩)).month ∈ f.month.values := by rwa [hdate]
      have hday := (dayConditions_of_fires hf hg hselect hfires hh hm hselected).2.resolve_left hstar
      rwa [hdate] at hday

end Alike

end Fields

/-! ## The verdict -/

namespace Expression

variable {e₁ e₂ : Expression} {f g : Fields} {zone : Except Fault Zone} {start : AskedTime}

lemma isValid_of_schedule? {e : Expression} (h : e.schedule? = some f) : e.isValid = true := by
  by_contra hvalid
  rw [(schedule?_eq_none_iff e).2 (.inl (by simpa using hvalid))] at h
  simp at h

lemma differences_of_compare {c : Comparison} (hf : e₁.schedule? = some f)
    (hg : e₂.schedule? = some g) (h : e₁.compare e₂ zone start = .ok (.ok c)) :
    c.differences = f.differences g := by
  simp only [compare, isValid_of_schedule? hf, isValid_of_schedule? hg, hf, hg, Bool.not_true,
    Bool.false_eq_true, if_false] at h
  obtain ⟨runs₁, -, h⟩ := bind_eq_ok_iff.1 h
  obtain ⟨runs₂, -, h⟩ := bind_eq_ok_iff.1 h
  obtain ⟨z, -, h⟩ := bind_eq_ok_iff.1 h
  rw [← Except.ok.inj (pure_eq_ok_iff.1 h)]

lemma selectAlike_of_same {c : Comparison} (hf : e₁.schedule? = some f)
    (hg : e₂.schedule? = some g) (h : e₁.compare e₂ zone start = .ok (.ok c))
    (hsame : c.same = true) : f.SelectAlike g := by
  rw [Comparison.same, List.isEmpty_iff, differences_of_compare hf hg h] at hsame
  exact Fields.differences_eq_nil_iff.1 hsame

/-- **When the verdict is exact.**  Suppose that a comparison of two expressions with schedules finds
no difference.  Then they fire at the same times, and have the same runs in every zone from every
start on, exactly when their days agree or no time is selected at all. -/
theorem same_exact_iff {first second : Text} {c : Comparison} (hread₁ : read first = .ok e₁)
    (hread₂ : read second = .ok e₂) (hf : e₁.schedule? = some f) (hg : e₂.schedule? = some g)
    (h : Crontab.compare first second zone start = .ok (.ok c)) (hsame : c.same = true) :
    ((∀ zone t, e₁.firesAt zone t = e₂.firesAt zone t) ∧
        ∀ zone count start runs₁ runs₂, e₁.runsAfter zone count start = .ok runs₁ →
          e₂.runsAfter zone count start = .ok runs₂ → runs₁ = runs₂) ↔
      f.SelectsNoTime ∨ f.DaysAgree g := by
  have hcompare : e₁.compare e₂ zone start = .ok (.ok c) := by
    simpa only [Crontab.compare, hread₁, hread₂, ok_bind] using h
  have hselect := selectAlike_of_same hf hg hcompare hsame
  have hareRead₁ := areRead_of_read hread₁ hf
  have hareRead₂ := areRead_of_read hread₂ hg
  constructor
  · rintro ⟨hfires, -⟩
    refine or_iff_not_imp_left.2 fun hsome => ?_
    refine Fields.daysAgree_of_fires hareRead₁ hareRead₂ hselect hsome fun w => ?_
    -- every reading can be asked about as it stands, so nothing depends on the zone here
    have hreading := hfires zone (DateTime.reading w false)
    rwa [firesAt_reading hf, firesAt_reading hg, Except.ok.injEq] at hreading
  · rintro (hnone | hagree)
    · have hnone₂ : g.SelectsNoTime := by
        simpa only [Fields.SelectsNoTime, ← show f.minute.values = g.minute.values from hselect .minute,
          ← show f.hour.values = g.hour.values from hselect .hour,
          ← show f.month.values = g.month.values from hselect .month] using hnone
      have hnever₁ := Fields.neverFires_of_selectsNoTime hnone
      have hnever₂ := Fields.neverFires_of_selectsNoTime hnone₂
      refine ⟨firesAt_congr hf hg fun w => by rw [hnever₁ w, hnever₂ w], ?_⟩
      intro zone count start runs₁ runs₂ h₁ h₂
      rw [runsAfter_eq_nil_of_neverFires hf hnever₁ h₁, runsAfter_eq_nil_of_neverFires hg hnever₂ h₂]
    · have hhour := Fields.firesInHour_of_daysAgree hareRead₁ hareRead₂ hselect hagree
      have hminute : f.minute.values = g.minute.values := hselect .minute
      refine ⟨firesAt_congr hf hg fun w => by rw [Fields.fires, Fields.fires, hminute, hhour], ?_⟩
      intro zone count start runs₁ runs₂ h₁ h₂
      rw [runsAfter_congr hf hg hminute hhour, h₂] at h₁
      exact (Except.ok.inj h₁).symm

/-- Sunday may be written as 0 or as 7: the two expressions compare as the same, and they are. -/
theorem same_exact_sunday :
    let zone := Zone.find ⟨0, []⟩ "UTC"
    let start : DateTime := .moment (.utc (wallAt (Date.toDay ⟨2024, 1, 7⟩) 0 0 0 0))
    ∃ e₁ e₂ c, read "* * * * 0" = .ok e₁ ∧ read "* * * * 7" = .ok e₂ ∧
      Crontab.compare "* * * * 0" "* * * * 7" zone start = .ok (.ok c) ∧ c.same = true ∧
      ∀ zone t, e₁.firesAt zone t = e₂.firesAt zone t := by
  intro zone start
  let stars (e : Expression) : Option (Bool × Bool) :=
    e.schedule?.map fun f => (f.dayOfMonth.isAny, f.dayOfWeek.isAny)
  have h : (do
      let e₁ ← read "* * * * 0"
      let e₂ ← read "* * * * 7"
      let verdict ← Crontab.compare "* * * * 0" "* * * * 7" zone start
      return (stars e₁, stars e₂, verdict.toOption.map Comparison.same)) =
        .ok (some (true, false), some (true, false), some true) := by
    rfl
  obtain ⟨e₁, h₁, h⟩ := bind_eq_ok_iff.1 h
  obtain ⟨e₂, h₂, h⟩ := bind_eq_ok_iff.1 h
  obtain ⟨verdict, hverdict, h⟩ := bind_eq_ok_iff.1 h
  obtain ⟨hstars₁, hrest⟩ := Prod.mk.inj (pure_eq_ok_iff.1 h)
  obtain ⟨hstars₂, hverdictSame⟩ := Prod.mk.inj hrest
  obtain ⟨f, hf, hstars₁⟩ := Option.map_eq_some_iff.1 hstars₁
  obtain ⟨g, hg, hstars₂⟩ := Option.map_eq_some_iff.1 hstars₂
  obtain ⟨c, hc, hsame⟩ := Option.map_eq_some_iff.1 hverdictSame
  obtain rfl := eq_ok_of_toOption hc
  have hstars := Prod.mk.inj (hstars₁.trans hstars₂.symm)
  have hagree : f.DaysAgree g := ⟨.inl hstars.1, .inl hstars.2⟩
  exact ⟨e₁, e₂, c, h₁, h₂, hverdict, hsame,
    ((same_exact_iff h₁ h₂ hf hg hverdict hsame).2 (.inr hagree)).1⟩

/-- The weekdays of `* * 13 * *` and `* * 13 * 0-6` are the same seven, so the comparison finds no
difference.  Only the second fires on a day that is not the thirteenth, such as the last minute of the
twelfth. -/
theorem same_thirteenth :
    let zone := Zone.find ⟨0, []⟩ "UTC"
    let start : DateTime := .moment (.utc (wallAt (Date.toDay ⟨2024, 1, 12⟩) 23 58 0 0))
    let twelfth : Moment := .utc (wallAt (Date.toDay ⟨2024, 1, 12⟩) 23 59 0 0)
    let thirteenth : Moment := .utc (wallAt (Date.toDay ⟨2024, 1, 13⟩) 0 0 0 0)
    ∃ e₁ e₂ c, read "* * 13 * *" = .ok e₁ ∧ read "* * 13 * 0-6" = .ok e₂ ∧
      e₁.schedule?.isSome = true ∧ e₂.schedule?.isSome = true ∧
      Crontab.compare "* * 13 * *" "* * 13 * 0-6" zone start = .ok (.ok c) ∧ c.same = true ∧
      e₁.runsAfter zone 1 start = .ok [thirteenth] ∧ e₂.runsAfter zone 1 start = .ok [twelfth] ∧
      e₁.firesAt zone (DateTime.moment twelfth) = .ok false ∧
      e₂.firesAt zone (DateTime.moment twelfth) = .ok true := by
  intro zone start twelfth thirteenth
  have h : (do
      let e₁ ← read "* * 13 * *"
      let e₂ ← read "* * 13 * 0-6"
      let verdict ← Crontab.compare "* * 13 * *" "* * 13 * 0-6" zone start
      let runs₁ ← e₁.runsAfter zone 1 start
      let runs₂ ← e₂.runsAfter zone 1 start
      let fires₁ ← e₁.firesAt zone (DateTime.moment twelfth)
      let fires₂ ← e₂.firesAt zone (DateTime.moment twelfth)
      return ((e₁.schedule?.isSome, e₂.schedule?.isSome, verdict.toOption.map Comparison.same),
        (runs₁, runs₂), (fires₁, fires₂))) =
          .ok ((true, true, some true), ([thirteenth], [twelfth]), (false, true)) := by
    decide +kernel
  obtain ⟨e₁, h₁, h⟩ := bind_eq_ok_iff.1 h
  obtain ⟨e₂, h₂, h⟩ := bind_eq_ok_iff.1 h
  obtain ⟨verdict, hverdict, h⟩ := bind_eq_ok_iff.1 h
  obtain ⟨runs₁, hruns₁, h⟩ := bind_eq_ok_iff.1 h
  obtain ⟨runs₂, hruns₂, h⟩ := bind_eq_ok_iff.1 h
  obtain ⟨fires₁, hfires₁, h⟩ := bind_eq_ok_iff.1 h
  obtain ⟨fires₂, hfires₂, h⟩ := bind_eq_ok_iff.1 h
  obtain ⟨hcompared, hrest⟩ := Prod.mk.inj (pure_eq_ok_iff.1 h)
  obtain ⟨hruns, hfires⟩ := Prod.mk.inj hrest
  obtain ⟨rfl, rfl⟩ := Prod.mk.inj hruns
  obtain ⟨rfl, rfl⟩ := Prod.mk.inj hfires
  obtain ⟨hsome₁, hcompared⟩ := Prod.mk.inj hcompared
  obtain ⟨hsome₂, hverdictSame⟩ := Prod.mk.inj hcompared
  obtain ⟨c, hc, hsame⟩ := Option.map_eq_some_iff.1 hverdictSame
  obtain rfl := eq_ok_of_toOption hc
  exact ⟨e₁, e₂, c, h₁, h₂, hsome₁, hsome₂, hverdict, hsame, hruns₁, hruns₂, hfires₁, hfires₂⟩

end Expression

end Crontab
