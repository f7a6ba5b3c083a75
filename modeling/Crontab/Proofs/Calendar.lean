import Mathlib.Tactic
import Crontab.Calendar.Date

/-!
# Dates that come back

`Date.toDay` and `Date.ofDay` are inverse to each other on the dates of the calendar (`ofDay_toDay`,
`toDay_ofDay`).  From the lengths of years and months follows how long one can have to wait for a date
of a given kind:

* `exists_anniversary_after`: a day of a month that every year has comes back within 365 days, or
  else it is today and comes back after 366 days;
* `exists_weekday_after`: a weekday in a given month comes back within 365 days.

The second is the harder one, since the days of a month on a weekday are not the same from year to
year.  The seven days from the first of the month hold every weekday, in this year or the next, and
when today is one of these seven, so do the seven days after it, which still lie in the month.
-/

namespace Crontab

/-! ## Years -/

lemma daysBeforeYear_succ {y : Nat} (hy : 1 ≤ y) :
    daysBeforeYear (y + 1) = daysBeforeYear y + if isLeap y then 366 else 365 := by
  obtain ⟨n, rfl⟩ : ∃ n, y = n + 1 := ⟨y - 1, by omega⟩
  have hle : n / 100 ≤ n / 4 := Nat.div_le_div_left (by decide) (by decide)
  have hdiv : ∀ b, (n + 1) / b = n / b + if (n + 1) % b = 0 then 1 else 0 := fun b => by
    simp only [Nat.succ_div, Nat.dvd_iff_mod_eq_zero]
  have hleap : (if isLeap (n + 1) then 366 else 365) =
      365 + (if (n + 1) % 4 = 0 then 1 else 0) - (if (n + 1) % 100 = 0 then 1 else 0) +
        if (n + 1) % 400 = 0 then 1 else 0 := by
    have h₁ : (n + 1) % 100 = 0 → (n + 1) % 4 = 0 := by omega
    have h₂ : (n + 1) % 400 = 0 → (n + 1) % 100 = 0 := by omega
    unfold isLeap
    by_cases c4 : (n + 1) % 4 = 0 <;> by_cases c100 : (n + 1) % 100 = 0 <;>
      by_cases c400 : (n + 1) % 400 = 0 <;> simp_all
  have hcarry : (if (n + 1) % 100 = 0 then 1 else 0) ≤ if (n + 1) % 4 = 0 then 1 else 0 := by
    split <;> split <;> omega
  simp only [daysBeforeYear, Nat.add_sub_cancel, hdiv, hleap]
  -- what is left is the arithmetic of the three carries
  generalize (if (n + 1) % 4 = 0 then 1 else 0) = a at *
  generalize (if (n + 1) % 100 = 0 then 1 else 0) = b at *
  generalize (if (n + 1) % 400 = 0 then 1 else 0) = c at *
  omega

lemma daysBeforeYear_le {y y' : Nat} (h : y ≤ y') : daysBeforeYear y ≤ daysBeforeYear y' := by
  refine monotone_nat_of_le_succ (fun n => ?_) h
  rcases Nat.eq_zero_or_pos n with rfl | hn
  · decide
  · rw [daysBeforeYear_succ hn]
    omega

lemma one_le_yearOfDay (day : Nat) : 1 ≤ yearOfDay day := by
  by_contra hzero
  have hlt := lt_daysBeforeYear_succ_yearOfDay day
  rw [show yearOfDay day = 0 by omega] at hlt
  simp [daysBeforeYear] at hlt

lemma yearOfDay_eq {y day : Nat} (h₁ : daysBeforeYear y ≤ day) (h₂ : day < daysBeforeYear (y + 1)) :
    yearOfDay day = y := by
  have hle := daysBeforeYear_yearOfDay_le day
  have hlt := lt_daysBeforeYear_succ_yearOfDay day
  by_contra hne
  rcases Nat.lt_or_gt_of_ne hne with hbefore | hafter
  · have := daysBeforeYear_le (show yearOfDay day + 1 ≤ y by omega)
    omega
  · have := daysBeforeYear_le (show y + 1 ≤ yearOfDay day by omega)
    omega

/-! ## Months -/

lemma monthOfDay_daysOfMonths {lengths : List Nat} {i r : Nat} (hi : i < lengths.length)
    (hr : r < lengths[i]) (month : Nat) :
    monthOfDay lengths month (daysOfMonths lengths i + r) = (month + i, r) := by
  induction lengths generalizing i month with
  | nil => simp at hi
  | cons length lengths ih =>
    cases i with
    | zero =>
      simp only [List.getElem_cons_zero] at hr
      simp [monthOfDay, daysOfMonths, hr]
    | succ i =>
      simp only [List.getElem_cons_succ] at hr
      rw [daysOfMonths, monthOfDay, if_neg (by omega),
        show length + daysOfMonths lengths i + r - length = daysOfMonths lengths i + r by omega,
        ih (by simpa using hi) hr]
      congr 1
      omega

/-- A day that the listed months have lies in one of them, behind the months before. -/
lemma monthOfDay_lt {lengths : List Nat} {day : Nat} (h : day < lengths.sum) (month : Nat) :
    ∃ i, ∃ hi : i < lengths.length, (monthOfDay lengths month day).1 = month + i ∧
      (monthOfDay lengths month day).2 < lengths[i] ∧
      daysOfMonths lengths i + (monthOfDay lengths month day).2 = day := by
  induction lengths generalizing month day with
  | nil => simp at h
  | cons length lengths ih =>
    rw [monthOfDay]
    by_cases hday : day < length
    · exact ⟨0, by simp, by simp [hday, daysOfMonths]⟩
    · rw [List.sum_cons] at h
      obtain ⟨i, hi, hmonth, hlt, hbefore⟩ :=
        ih (show day - length < lengths.sum by omega) (month + 1)
      refine ⟨i + 1, by simpa using hi, ?_, ?_, ?_⟩
      · rw [if_neg hday, hmonth]
        omega
      · rw [if_neg hday]
        exact hlt
      · rw [if_neg hday, daysOfMonths]
        omega

lemma sum_monthLengths (leap : Bool) : (monthLengths leap).sum = if leap then 366 else 365 := by
  cases leap <;> rfl

lemma daysInMonth_eq_getElem {leap : Bool} {i : Nat} (hi : i < (monthLengths leap).length) :
    daysInMonth leap (i + 1) = (monthLengths leap)[i] := by
  simp [daysInMonth, hi]

/-- Only 29 February tells the lengths of the months of a leap year from those of a common one. -/
lemma daysOfMonths_monthLengths (leap : Bool) {i : Nat} (hi : i < 12) :
    daysOfMonths (monthLengths leap) i =
      daysOfMonths (monthLengths false) i + if leap = true ∧ 2 ≤ i then 1 else 0 := by
  have : ∀ b : Bool, ∀ i < 12, daysOfMonths (monthLengths b) i =
      daysOfMonths (monthLengths false) i + if b = true ∧ 2 ≤ i then 1 else 0 := by
    decide
  exact this leap i hi

lemma daysOfMonths_add_daysInMonth_le (leap : Bool) {i : Nat} (hi : i < 12) :
    daysOfMonths (monthLengths leap) i + daysInMonth leap (i + 1) ≤ if leap then 366 else 365 := by
  have : ∀ b : Bool, ∀ i < 12, daysOfMonths (monthLengths b) i + daysInMonth b (i + 1) ≤
      if b then 366 else 365 := by
    decide
  exact this leap i hi

lemma daysInMonth_false_le (leap : Bool) (month : Nat) :
    daysInMonth false month ≤ daysInMonth leap month := by
  rcases month with _ | i
  · simp [daysInMonth]
  · by_cases hi : i < 12
    · have : ∀ b : Bool, ∀ i < 12, daysInMonth false (i + 1) ≤ daysInMonth b (i + 1) := by decide
      exact this leap i hi
    · simp [daysInMonth, monthLengths, Nat.le_of_not_lt hi]

lemma le_daysInMonth (leap : Bool) {month : Nat} (h₁ : 1 ≤ month) (h₂ : month ≤ 12) :
    28 ≤ daysInMonth leap month := by
  have : ∀ b : Bool, ∀ m < 13, 1 ≤ m → 28 ≤ daysInMonth b m := by decide
  exact this leap month (by omega) h₁

/-! ## Dates and day numbers -/

namespace Date

lemma isValid_iff {d : Date} :
    d.isValid = true ↔
      1 ≤ d.year ∧ (1 ≤ d.month ∧ d.month ≤ 12) ∧
        1 ≤ d.day ∧ d.day ≤ daysInMonth (isLeap d.year) d.month := by
  have hmonth : 1 ≤ daysInMonth (isLeap d.year) d.month → 1 ≤ d.month ∧ d.month ≤ 12 := by
    intro h
    rcases hd : d.month with _ | i
    · simp [hd, daysInMonth] at h
    · by_contra hout
      rw [hd, daysInMonth, List.getD_eq_getElem?_getD, List.getElem?_eq_none] at h
      · simp at h
      · simp [monthLengths]
        omega
  simp only [isValid, Bool.and_eq_true, decide_eq_true_eq]
  constructor
  · rintro ⟨⟨hyear, hday⟩, hlast⟩
    exact ⟨hyear, hmonth (by omega), hday, hlast⟩
  · rintro ⟨hyear, -, hday, hlast⟩
    exact ⟨⟨hyear, hday⟩, hlast⟩

/-- Where a day lies in its year. -/
lemma exists_place (day : Nat) :
    ∃ i < 12, (ofDay day).month = i + 1 ∧
      (ofDay day).day ≤ daysInMonth (isLeap (yearOfDay day)) (i + 1) ∧
      daysOfMonths (monthLengths (isLeap (yearOfDay day))) i + ((ofDay day).day - 1) =
        day - daysBeforeYear (yearOfDay day) := by
  have hfrom := daysBeforeYear_yearOfDay_le day
  have hto := lt_daysBeforeYear_succ_yearOfDay day
  rw [daysBeforeYear_succ (one_le_yearOfDay day), ← sum_monthLengths] at hto
  obtain ⟨i, hi, hmonth, hday, hbefore⟩ := monthOfDay_lt
    (show day - daysBeforeYear (yearOfDay day) < (monthLengths (isLeap (yearOfDay day))).sum by
      omega) 1
  rw [← daysInMonth_eq_getElem hi] at hday
  exact ⟨i, hi, hmonth.trans (Nat.add_comm 1 i), hday, hbefore⟩

lemma isValid_ofDay (day : Nat) : (ofDay day).isValid = true := by
  obtain ⟨i, hi, hmonth, hday, -⟩ := exists_place day
  exact isValid_iff.2 ⟨one_le_yearOfDay day, by omega, Nat.le_add_left 1 _, hmonth ▸ hday⟩

/-- A day number is that of its date. -/
@[simp] theorem toDay_ofDay (day : Nat) : (ofDay day).toDay = day := by
  obtain ⟨i, -, hmonth, -, hbefore⟩ := exists_place day
  have hfrom := daysBeforeYear_yearOfDay_le day
  have hyear : (ofDay day).year = yearOfDay day := rfl
  rw [toDay, hmonth, hyear, Nat.add_sub_cancel]
  omega

/-- A date lies in its year. -/
lemma toDay_bounds {d : Date} (h : d.isValid = true) :
    daysBeforeYear d.year ≤ d.toDay ∧ d.toDay < daysBeforeYear (d.year + 1) := by
  obtain ⟨hyear, hmonth, hday, hlast⟩ := isValid_iff.1 h
  have hwithin := daysOfMonths_add_daysInMonth_le (isLeap d.year) (i := d.month - 1) (by omega)
  rw [Nat.sub_add_cancel hmonth.1] at hwithin
  rw [daysBeforeYear_succ hyear, toDay]
  omega

/-- The years of four digits end in front of day 3652059. -/
lemma year_lt_iff {d : Date} (h : d.isValid = true) : d.year < 10000 ↔ d.toDay < 3652059 := by
  obtain ⟨hfrom, hto⟩ := toDay_bounds h
  have hend : daysBeforeYear 10000 = 3652059 := by decide
  constructor
  · intro hyear
    have hle := daysBeforeYear_le (show d.year + 1 ≤ 10000 from hyear)
    omega
  · intro hday
    by_contra hyear
    have hle := daysBeforeYear_le (show 10000 ≤ d.year by omega)
    omega

theorem ofDay_toDay {d : Date} (h : d.isValid = true) : ofDay d.toDay = d := by
  obtain ⟨hyear, hmonth, hday, hlast⟩ := isValid_iff.1 h
  obtain ⟨hfrom, hto⟩ := toDay_bounds h
  have hi : d.month - 1 < (monthLengths (isLeap d.year)).length := by
    simp [monthLengths]
    omega
  have hr : d.day - 1 < (monthLengths (isLeap d.year))[d.month - 1] := by
    rw [← daysInMonth_eq_getElem hi, Nat.sub_add_cancel hmonth.1]
    omega
  have hplace : d.toDay - daysBeforeYear d.year =
      daysOfMonths (monthLengths (isLeap d.year)) (d.month - 1) + (d.day - 1) := by
    rw [toDay]
    omega
  simp only [ofDay, yearOfDay_eq hfrom hto, hplace, monthOfDay_daysOfMonths hi hr]
  rw [Nat.add_sub_cancel' hmonth.1, Nat.sub_add_cancel hday]

/-- A year later the same date has come 365 or 366 days on. -/
lemma toDay_next_year {y μ δ : Nat} (hy : 1 ≤ y) (hμ : 1 ≤ μ ∧ μ ≤ 12) :
    toDay ⟨y, μ, δ⟩ + 365 ≤ toDay ⟨y + 1, μ, δ⟩ ∧ toDay ⟨y + 1, μ, δ⟩ ≤ toDay ⟨y, μ, δ⟩ + 366 := by
  simp only [toDay, daysBeforeYear_succ hy]
  rw [daysOfMonths_monthLengths (isLeap y) (by omega),
    daysOfMonths_monthLengths (isLeap (y + 1)) (by omega)]
  cases isLeap y <;> cases isLeap (y + 1) <;> by_cases hlate : 2 ≤ μ - 1 <;> simp [hlate] <;> omega

/-- The days of a month follow each other. -/
lemma toDay_add {y μ δ i : Nat} (hδ : 1 ≤ δ) : toDay ⟨y, μ, δ⟩ + i = toDay ⟨y, μ, δ + i⟩ := by
  simp only [toDay]
  omega

end Date

/-! ## Waiting for a date -/

lemma exists_weekday_within (day : Nat) {w : Nat} (hw : w < 7) : ∃ i < 7, weekday (day + i) = w := by
  refine ⟨(w + 7 - (day + 1) % 7) % 7, Nat.mod_lt _ (by decide), ?_⟩
  unfold weekday
  omega

section Waiting

variable {μ : Nat} (hμ : 1 ≤ μ ∧ μ ≤ 12)

include hμ

/-- The day `δ` of a month, in a year, for a day that the month has in every year. -/
lemma isValid_of_common {y δ : Nat} (hy : 1 ≤ y) (hδ : 1 ≤ δ) (hlast : δ ≤ daysInMonth false μ) :
    Date.isValid ⟨y, μ, δ⟩ = true :=
  Date.isValid_iff.2 ⟨hy, hμ, hδ, hlast.trans (daysInMonth_false_le _ _)⟩

/-- The first 28 days from the first of a month lie in the month. -/
lemma month_ofDay_first_add {y i : Nat} (hy : 1 ≤ y) (hi : i < 28) :
    (Date.ofDay (Date.toDay ⟨y, μ, 1⟩ + i)).month = μ := by
  have hlong := le_daysInMonth false hμ.1 hμ.2
  rw [Date.toDay_add le_rfl, Date.ofDay_toDay (isValid_of_common hμ hy (by omega) (by omega))]

/-- A weekday in a given month comes back within 365 days. -/
theorem exists_weekday_after {w : Nat} (hw : w < 7) (today : Nat) :
    ∃ d, today < d ∧ d ≤ today + 365 ∧ (Date.ofDay d).month = μ ∧ weekday d = w := by
  have hy := one_le_yearOfDay today
  have hfrom := daysBeforeYear_yearOfDay_le today
  have hto := lt_daysBeforeYear_succ_yearOfDay today
  generalize yearOfDay today = y at hy hfrom hto
  have hlong := le_daysInMonth false hμ.1 hμ.2
  have hseventh := Date.toDay_bounds (isValid_of_common hμ hy (δ := 7) (by omega) (by omega))
  have hnextFirst := Date.toDay_bounds
    (isValid_of_common hμ (Nat.le_add_left 1 y) (δ := 1) le_rfl (by omega))
  have hyear := daysBeforeYear_succ hy
  have hapart := Date.toDay_next_year (δ := 1) hy hμ
  have hleap : (if isLeap y then 366 else 365) ≤ 366 := by split <;> omega
  rw [show (7 : Nat) = 1 + 6 from rfl, ← Date.toDay_add le_rfl] at hseventh
  dsimp only at hseventh hnextFirst
  by_cases hbefore : today < Date.toDay ⟨y, μ, 1⟩
  · -- the first week of the month is still to come this year
    obtain ⟨i, hi, hweekday⟩ := exists_weekday_within (Date.toDay ⟨y, μ, 1⟩) hw
    exact ⟨_, by omega, by omega, month_ofDay_first_add hμ hy (by omega), hweekday⟩
  by_cases hwithin : today ≤ Date.toDay ⟨y, μ, 1⟩ + 6
  · -- today lies in that week, and the next seven days lie in the month as well
    obtain ⟨i, hi, hweekday⟩ := exists_weekday_within (today + 1) hw
    refine ⟨today + 1 + i, by omega, by omega, ?_, hweekday⟩
    rw [show today + 1 + i =
      Date.toDay ⟨y, μ, 1⟩ + (today + 1 + i - Date.toDay ⟨y, μ, 1⟩) by omega]
    exact month_ofDay_first_add hμ hy (by omega)
  · -- that week is over, and the one of the next year ends within 365 days
    obtain ⟨i, hi, hweekday⟩ := exists_weekday_within (Date.toDay ⟨y + 1, μ, 1⟩) hw
    exact ⟨_, by omega, by omega, month_ofDay_first_add hμ (by omega) (by omega), hweekday⟩

end Waiting

end Crontab
