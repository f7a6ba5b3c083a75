import Crontab.Advice
import Crontab.Proofs.Comparison
import Crontab.Proofs.Walk.FirstRun

/-!
# The warning that an expression may never run

The warning compares the selected days with the lengths of the selected months.  It knows nothing of
years, of weekdays or of the way in which the two day fields share the choice of the day.
`Expression.neverRuns_iff` says that it is nevertheless exact: among all dates of the years 1 to 9999
there is none on which the expression could fire, and as soon as there is one, the warning is absent.

No date is lost by looking at a leap year only, since the year 4 is one.  When a weekday is selected,
the warning is never given, and rightly: the first seven days of any month hold every weekday.  The
day fields have to select something for this; with an empty list of weekdays no date is selected and
still there is no warning.
-/

namespace Crontab

namespace Fields

variable {f : Fields}

/-! ## Dates on which the fields can fire -/

/-- Some date of the years 1 to 9999 lies in a selected month and meets the condition on the day. -/
def SelectsSomeDate (f : Fields) : Prop :=
  ∃ d : Date, d.isValid = true ∧ d.year ≤ 9999 ∧ f.SelectsDay d.toDay

lemma selectsDay_toDay_iff {d : Date} (h : d.isValid = true) :
    f.SelectsDay d.toDay ↔
      d.month ∈ f.month.values ∧ f.firesOn (Civil.ofWall (d.toDay * oneDay)) = true := by
  rw [SelectsDay, Date.ofDay_toDay h]

/-- Without a condition on the day, the first day of a selected month will do. -/
lemma selectsSomeDate_of_isAny {μ : Nat} (hμ : μ ∈ f.month.values) (hbounds : 1 ≤ μ ∧ μ ≤ 12)
    (hday : f.dayOfMonth.isAny = true) (hweekday : f.dayOfWeek.isAny = true) :
    f.SelectsSomeDate := by
  have hlong := le_daysInMonth false hbounds.1 hbounds.2
  have hvalid : Date.isValid ⟨1, μ, 1⟩ = true :=
    isValid_of_common hbounds le_rfl le_rfl (by omega)
  refine ⟨⟨1, μ, 1⟩, hvalid, by norm_num, (selectsDay_toDay_iff hvalid).2 ⟨hμ, ?_⟩⟩
  exact firesOn_of_isAny hday hweekday _

/-- The first seven days of a selected month hold every weekday. -/
lemma selectsSomeDate_of_weekday {μ v : Nat} (hμ : μ ∈ f.month.values) (hbounds : 1 ≤ μ ∧ μ ≤ 12)
    (hweekday : f.dayOfWeek.isAny = false) (hv : v ∈ f.dayOfWeek.values) (hseven : v < 7) :
    f.SelectsSomeDate := by
  have hlong := le_daysInMonth false hbounds.1 hbounds.2
  obtain ⟨i, hi, hiv⟩ := exists_weekday_within (Date.toDay ⟨1, μ, 1⟩) hseven
  rw [Date.toDay_add le_rfl] at hiv
  have hvalid : Date.isValid ⟨1, μ, 1 + i⟩ = true :=
    isValid_of_common hbounds le_rfl (by omega) (by omega)
  refine ⟨⟨1, μ, 1 + i⟩, hvalid, by norm_num, (selectsDay_toDay_iff hvalid).2 ⟨hμ, ?_⟩⟩
  apply firesOn_of_weekday hweekday
  rwa [Civil.weekday_ofWall_day, hiv]

/-- A selected day that a selected month has in a leap year is a date of the year 4. -/
lemma selectsSomeDate_of_day {μ δ : Nat} (hμ : μ ∈ f.month.values) (hbounds : 1 ≤ μ ∧ μ ≤ 12)
    (hday : f.dayOfMonth.isAny = false) (hδ : δ ∈ f.dayOfMonth.values) (hfirst : 1 ≤ δ)
    (hlast : δ ≤ daysInMonth true μ) : f.SelectsSomeDate := by
  have hleap : isLeap 4 = true := rfl
  have hvalid : Date.isValid ⟨4, μ, δ⟩ = true :=
    Date.isValid_iff.2 ⟨by norm_num, hbounds, hfirst, hleap ▸ hlast⟩
  refine ⟨⟨4, μ, δ⟩, hvalid, by norm_num, (selectsDay_toDay_iff hvalid).2 ⟨hμ, ?_⟩⟩
  apply firesOn_of_day hday
  rwa [Civil.date_ofWall_day, Date.ofDay_toDay hvalid]

/-! ## When the warning is given -/

lemma dayOccurs_iff :
    f.dayOccurs = true ↔
      ∃ δ ∈ f.dayOfMonth.values, ∃ μ ∈ f.month.values, δ ≤ daysInMonth true μ := by
  simp [dayOccurs]

lemma neverRuns_mem_dayWarnings_iff :
    Warning.neverRuns ∈ f.dayWarnings ↔
      f.dayOfMonth.isAny = false ∧ f.dayOfWeek.isAny = true ∧ f.dayOfMonth.values ≠ [] ∧
        f.month.values ≠ [] ∧ f.dayOccurs = false := by
  unfold dayWarnings
  by_cases hday : f.dayOfMonth.isAny = true
  · simp [hday]
  by_cases hweekday : f.dayOfWeek.isAny = true
  · simp [hday, hweekday, and_assoc]
  · simp [hday, hweekday]

section Warned

variable (h : Warning.neverRuns ∈ f.dayWarnings)

include h

/-- No reading shows a selected day together with a selected month. -/
lemma firesOn_eq_false_of_neverRuns {w : Int}
    (hmonth : (Civil.ofWall w).date.month ∈ f.month.values) :
    f.firesOn (Civil.ofWall w) = false := by
  obtain ⟨hday, hweekday, -, -, hoccurs⟩ := neverRuns_mem_dayWarnings_iff.1 h
  have hnotMem : (Civil.ofWall w).date.day ∉ f.dayOfMonth.values := by
    intro hmem
    have hlast := (Civil.day_ofWall_bounds w).2
    rw [dayOccurs_iff.2 ⟨_, hmem, _, hmonth, hlast⟩] at hoccurs
    simp at hoccurs
  simp [firesOn, hday, hweekday, hnotMem]

lemma neverFires_of_neverRuns : f.NeverFires := by
  intro w
  by_cases hmonth : (Civil.ofWall w).date.month ∈ f.month.values
  · simp [fires, firesInHour, firesOn_eq_false_of_neverRuns h hmonth]
  · simp [fires, firesInHour, hmonth]

lemma not_selectsSomeDate_of_neverRuns : ¬ f.SelectsSomeDate := by
  rintro ⟨d, hvalid, -, hselects⟩
  obtain ⟨hmonth, hfires⟩ := (selectsDay_toDay_iff hvalid).1 hselects
  rw [firesOn_eq_false_of_neverRuns h] at hfires
  · simp at hfires
  · rwa [Civil.date_ofWall_day, Date.ofDay_toDay hvalid]

end Warned

/-- Where the warning is absent and the day fields select something, there is a date. -/
lemma selectsSomeDate_of_not_neverRuns (hread : f.AreRead) (hdays : f.dayOfMonth.values ≠ [])
    (hmonths : f.month.values ≠ []) (hweekdays : f.dayOfWeek.values ≠ [])
    (h : Warning.neverRuns ∉ f.dayWarnings) : f.SelectsSomeDate := by
  have hmonth : ∀ μ ∈ f.month.values, 1 ≤ μ ∧ μ ≤ 12 := fun μ hμ =>
    hread.bounds (p := .month) (by decide) hμ
  obtain ⟨μ, hμ⟩ := List.exists_mem_of_ne_nil _ hmonths
  cases hweekday : f.dayOfWeek.isAny with
  | false =>
    obtain ⟨v, hv⟩ := List.exists_mem_of_ne_nil _ hweekdays
    exact selectsSomeDate_of_weekday hμ (hmonth μ hμ) hweekday hv (hread.weekday_lt hv)
  | true =>
    cases hday : f.dayOfMonth.isAny with
    | true => exact selectsSomeDate_of_isAny hμ (hmonth μ hμ) hday hweekday
    | false =>
      -- without the warning, a selected month is long enough for a selected day
      have hoccurs : f.dayOccurs = true := by
        by_contra hnone
        exact h (neverRuns_mem_dayWarnings_iff.2
          ⟨hday, hweekday, hdays, hmonths, Bool.eq_false_iff.2 hnone⟩)
      obtain ⟨δ, hδ, μ, hμ, hlast⟩ := dayOccurs_iff.1 hoccurs
      have hfirst : 1 ≤ δ := (hread.bounds (p := .dayOfMonth) (by decide) hδ).1
      exact selectsSomeDate_of_day hμ (hmonth μ hμ) hday hδ hfirst hlast

end Fields

/-! ## The verdict -/

namespace Expression

variable {e : Expression} {f : Fields}

lemma neverRuns_mem_warnings_iff (hf : e.schedule? = some f) :
    Warning.neverRuns ∈ e.warnings ↔ Warning.neverRuns ∈ f.dayWarnings := by
  obtain ⟨ignored, hcontent, -⟩ := content_of_schedule? hf
  rw [warnings, hcontent]
  cases ignored <;> simp

/-- **The warning is exact.**  Judge a text that reads as an expression.  If it has a schedule whose
day and month fields all select something, it is warned of never running exactly when no date of the
years 1 to 9999 lies in a selected month and meets the condition on the day.  Once it is warned, no
question for its runs finds any, whatever the zone, the time and the number of runs that are wanted. -/
theorem neverRuns_iff {s : Text} (hread : read s = .ok e) :
    ∃ v, validate s = .ok v ∧
      (∀ f, e.schedule? = some f → f.dayOfMonth.values ≠ [] → f.month.values ≠ [] →
        f.dayOfWeek.values ≠ [] → (Warning.neverRuns ∈ v.warnings ↔ ¬ f.SelectsSomeDate)) ∧
      (Warning.neverRuns ∈ v.warnings →
        (∀ zone count start found, e.runsAfter zone count start = .ok found → found = []) ∧
          ∀ zone limit start stop found, e.runsBetween zone limit start stop = .ok found →
            found = []) := by
  refine ⟨⟨e.isValid, e.errors, e.warnings, e.suggestion?⟩, ?_, ?_, fun hwarned => ?_⟩
  · simp [validate, hread, pure, Except.pure]
  · intro f hf hdays hmonths hweekdays
    rw [neverRuns_mem_warnings_iff hf]
    refine ⟨Fields.not_selectsSomeDate_of_neverRuns, fun hnone => ?_⟩
    by_contra habsent
    exact hnone (Fields.selectsSomeDate_of_not_neverRuns (areRead_of_read hread hf) hdays hmonths
      hweekdays habsent)
  · cases hf : e.schedule? with
    | none => simp [runsAfter, runsBetween, hf, eq_comm]
    | some f =>
      have hnever := Fields.neverFires_of_neverRuns ((neverRuns_mem_warnings_iff hf).1 hwarned)
      exact ⟨fun _ _ _ _ h => runsAfter_eq_nil_of_neverFires hf hnever h,
        fun _ _ _ _ _ h => runsBetween_eq_nil_of_neverFires hf hnever h⟩

/-- February and April have no day 31. -/
theorem neverRuns_thirtyFirst :
    ∃ e f v, read "0 0 31 2,4 *" = .ok e ∧ e.schedule? = some f ∧
      validate "0 0 31 2,4 *" = .ok v ∧ Warning.neverRuns ∈ v.warnings ∧ ¬ f.SelectsSomeDate ∧
      ∀ zone count start found, e.runsAfter zone count start = .ok found → found = [] := by
  have h : (read "0 0 31 2,4 *").toOption.bind (fun e => e.schedule?.map fun f =>
      (f.dayOfMonth.values, f.month.values, f.dayOfWeek.values, e.warnings)) =
        some ([31], [2, 4], [0, 1, 2, 3, 4, 5, 6], [.neverRuns]) := by
    decide +kernel
  obtain ⟨e, he, h⟩ := Option.bind_eq_some_iff.1 h
  obtain ⟨f, hf, h⟩ := Option.map_eq_some_iff.1 h
  simp only [Prod.mk.injEq] at h
  obtain ⟨hdays, hmonths, hweekdays, hwarnings⟩ := h
  have hread := eq_ok_of_toOption he
  obtain ⟨v, hv, hiff, hruns⟩ := neverRuns_iff hread
  have hwarned : Warning.neverRuns ∈ v.warnings := by
    simp only [validate, hread, ok_bind, pure_eq_ok_iff] at hv
    simp [← hv, hwarnings]
  have hnone := (hiff f hf (by simp [hdays]) (by simp [hmonths]) (by simp [hweekdays])).1 hwarned
  exact ⟨e, f, v, hread, hf, hv, hwarned, hnone, (hruns hwarned).1⟩

end Expression

end Crontab
