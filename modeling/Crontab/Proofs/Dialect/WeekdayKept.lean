import Crontab.Proofs.Dialect.WeekdayList

/-!
# The items that keep their weekdays

On the way into five fields, an item of numbers without a step is counted from 0, and every other item
is left as it is (`Item.isShifted`).  A name means the same day in both ways to count, but a number that
is left as it is means the day after.  So an item with a number in it can lose its days:

* a number with a step starts a day late, and the days are the same for the whole week only; a number
  before a name starts a day late, and loses its first day always;
* a number behind a name is a day late, which does no harm as long as the steps do not reach it;
* a name with a step runs on to the number 7, which is Sunday once more.

`Item.IsKept` lists the items that keep their days, and `Item.isKept_iff` says that these are all.
-/

namespace Crontab

namespace WeekdayList

/-! ## Two ways to count -/

section Counting

variable {a b s : Nat}

/-- The weekdays that a field selects from one number to another, in steps. -/
def fieldDays (first last step : Nat) : List Nat :=
  (stepped first last step).map Position.dayOfWeek.stored

lemma mem_fieldDays (hs : 0 < s) {v : Nat} :
    v ∈ fieldDays a b s ↔
      ∃ u, a ≤ u ∧ u ≤ b ∧ s ∣ u - a ∧ v = Position.dayOfWeek.stored u := by
  simp only [fieldDays, List.mem_map, mem_stepped hs, and_assoc, eq_comm]

lemma stored_of_lt {u : Nat} (h : u < 7) : Position.dayOfWeek.stored u = u := by
  simp [Position.stored, h.ne]

lemma stored_seven : Position.dayOfWeek.stored 7 = 0 := rfl

/-- Days that are counted from 0 are the same days. -/
lemma sameDays_of_shifted (hs : 0 < s) (hb : b < 7) (v : Nat) :
    v ∈ fieldDays a b s ↔ v ∈ weekDays (a + 1) (b + 1) s := by
  rw [mem_fieldDays hs, mem_weekDays hs]
  constructor
  · rintro ⟨u, hau, hub, hdvd, rfl⟩
    refine ⟨u + 1, by omega, by omega, ?_, ?_⟩
    · rwa [Nat.add_sub_add_right]
    · rw [stored_of_lt (by omega), Nat.add_sub_cancel]
  · rintro ⟨u, hau, hub, hdvd, rfl⟩
    refine ⟨u - 1, by omega, by omega, ?_, ?_⟩
    · rwa [Nat.sub_sub, Nat.add_comm 1 a]
    · rw [stored_of_lt (by omega)]

/-- When only the first day is counted from 0, the days are the same unless the steps reach the last
number; and if they do, only where that is the Sunday on which they start. -/
lemma sameDays_first_iff (hs : 0 < s) (hab : a + 1 ≤ b) (hb : b ≤ 7) :
    (∀ v, v ∈ fieldDays a b s ↔ v ∈ weekDays (a + 1) b s) ↔ a = 0 ∧ b = 7 ∨ ¬ s ∣ b - a := by
  simp only [mem_fieldDays hs, mem_weekDays hs]
  constructor
  · intro h
    refine or_iff_not_imp_right.2 fun hreached => ?_
    -- the field reaches its last number, and only as a Sunday is it one of the days that are meant
    obtain ⟨u, hau, hub, -, hu⟩ :=
      (h (Position.dayOfWeek.stored b)).1 ⟨b, by omega, le_rfl, not_not.1 hreached, rfl⟩
    rcases Nat.lt_or_ge b 7 with hlt | hge
    · rw [stored_of_lt hlt] at hu
      omega
    · obtain rfl : b = 7 := le_antisymm hb hge
      rw [stored_seven] at hu
      exact ⟨by omega, rfl⟩
  · intro h v
    constructor
    · rintro ⟨u, hau, hub, hdvd, rfl⟩
      rcases Nat.lt_or_ge u b with hlt | hge
      · refine ⟨u + 1, by omega, by omega, ?_, ?_⟩
        · rwa [Nat.add_sub_add_right]
        · rw [stored_of_lt (by omega), Nat.add_sub_cancel]
      · -- the steps reach the last number, so they go from Sunday to Sunday
        obtain rfl : u = b := le_antisymm hub hge
        obtain ⟨rfl, rfl⟩ := h.resolve_right (not_not.2 hdvd)
        exact ⟨1, by omega, by omega, by simp, stored_seven⟩
    · rintro ⟨u, hau, hub, hdvd, rfl⟩
      refine ⟨u - 1, by omega, by omega, ?_, ?_⟩
      · rwa [Nat.sub_sub, Nat.add_comm 1 a]
      · rw [stored_of_lt (by omega)]

/-- When nothing is counted from 0, the days are the same for the whole week only. -/
lemma sameDays_unshifted_iff (hs : 0 < s) (ha : 1 ≤ a) (hab : a ≤ b) (hb : b ≤ 7) :
    (∀ v, v ∈ fieldDays a b s ↔ v ∈ weekDays a b s) ↔ a = 1 ∧ b = 7 ∧ s = 1 := by
  constructor
  · intro h
    simp only [mem_fieldDays hs, mem_weekDays hs] at h
    obtain ⟨u, hau, hub, -, hu⟩ := (h (a - 1)).2 ⟨a, le_rfl, hab, by simp, rfl⟩
    obtain rfl : u = 7 := by
      by_contra hne
      rw [stored_of_lt (by omega)] at hu
      omega
    rw [stored_seven] at hu
    obtain rfl : a = 1 := by omega
    obtain ⟨w, -, -, hdvd, hw⟩ := (h 1).1 ⟨1, le_rfl, hab, by simp, rfl⟩
    obtain rfl : w = 2 := by omega
    exact ⟨rfl, by omega, Nat.dvd_one.1 hdvd⟩
  · rintro ⟨rfl, rfl, rfl⟩ v
    have hfield : fieldDays 1 7 1 = [1, 2, 3, 4, 5, 6, 0] := by decide
    have hweek : weekDays 1 7 1 = [0, 1, 2, 3, 4, 5, 6] := by decide
    rw [hfield, hweek]
    simp only [List.mem_cons, List.not_mem_nil, or_false]
    omega

/-- When only the last day is counted from 0, the first day is lost. -/
lemma not_sameDays_last (hs : 0 < s) (ha : 1 ≤ a) (hab : a ≤ b + 1) (hb : b < 7) :
    ¬ ∀ v, v ∈ fieldDays a b s ↔ v ∈ weekDays a (b + 1) s := by
  intro h
  simp only [mem_fieldDays hs, mem_weekDays hs] at h
  obtain ⟨u, hau, hub, -, hu⟩ := (h (a - 1)).2 ⟨a, le_rfl, hab, by simp, rfl⟩
  rw [stored_of_lt (by omega)] at hu
  omega

end Counting

/-! ## What becomes of an item -/

namespace Day

/-- The number that a field reads for a day: a number stands for itself, a name for its day. -/
def code : Day → Nat
  | number n => n
  | named k => k

/-- Whether a day is given by its number. -/
def isNumber : Day → Bool
  | number _ => true
  | named _ => false

end Day

namespace Item

variable (i : Item)

/-- Whether an item is a number or a range of numbers without a step.  Such items are counted from 0 on
the way in, and all others are left as they are. -/
def isShifted : Bool := i.step?.isNone && i.first.isNumber && i.last?.all Day.isNumber

/-- The first and the last number of an item in the field that results. -/
def bounds : Nat × Nat :=
  if i.isShifted then (i.first.position - 1, i.lastPosition - 1)
  else
    match i.last?, i.step? with
    | some d, _ => (i.first.code, d.code)
    | none, some _ => (i.first.code, 7)
    | none, none => (i.first.code, i.first.code)

/-- The numbers of an item are numbers of weekdays, and the item means exactly these weekdays. -/
def Means (weekdays : List Nat) : Prop := i.IsWithin ∧ ∀ v, v ∈ weekdays ↔ v ∈ i.weekdays

/-- The items that keep their weekdays. -/
def IsKept : Prop :=
  match i.first, i.last?, i.step? with
  | .number n, none, none => n ≤ 7
  | .number n, none, some s => n = 1 ∧ s = 1
  | .named _, none, none => True
  | .named k, none, some s => (k : Nat) = 0 ∨ ¬ s ∣ 7 - k
  | .number _, some (.number b), none => b ≤ 7
  | .number a, some (.number b), some s => a = 1 ∧ b = 7 ∧ s = 1
  | .number _, some (.named _), _ => False
  | .named k, some (.number b), s? => (k : Nat) = 0 ∧ b = 7 ∨ ¬ s?.getD 1 ∣ b - k
  | .named _, some (.named _), _ => True

variable {i}

lemma isWithin_some {d : Day} {first : Day} {step? : Option Nat} {h h'} (hfirst : first.IsWithin)
    (hd : d.IsWithin) : (⟨first, some d, step?, h, h'⟩ : Item).IsWithin :=
  ⟨hfirst, fun e he => by
    obtain rfl := Option.mem_some.1 he
    exact hd⟩

lemma isWithin_none {first : Day} {step? : Option Nat} {h h'} (hfirst : first.IsWithin) :
    (⟨first, none, step?, h, h'⟩ : Item).IsWithin :=
  ⟨hfirst, by simp⟩

/-- Only numbers and ranges of numbers are counted from 0. -/
lemma eq_of_isShifted (hshift : i.isShifted = true) :
    (∃ n, i = .ofNumber n) ∨ ∃ a b hab, i = .ofRange a b hab := by
  rcases i with ⟨first, last?, step?, hordered, hstep⟩
  cases step? with
  | some s => simp [isShifted] at hshift
  | none =>
    cases first with
    | named k => simp [isShifted, Day.isNumber] at hshift
    | number a =>
      cases last? with
      | none => exact .inl ⟨a, rfl⟩
      | some d =>
        cases d with
        | named k => simp [isShifted, Day.isNumber] at hshift
        | number b => exact .inr ⟨a, b, hordered (.number b) rfl, rfl⟩

/-- What is counted from 0 is kept when its last number is the number of a weekday. -/
lemma isKept_iff_of_isShifted (hshift : i.isShifted = true) (hpos : 1 ≤ i.first.position) :
    i.Means (fieldDays i.bounds.1 i.bounds.2 i.step) ↔ i.IsKept := by
  rcases eq_of_isShifted hshift with ⟨a, rfl⟩ | ⟨a, b, hab, rfl⟩
  · have ha : 1 ≤ a := hpos
    obtain ⟨m, rfl⟩ := Nat.exists_eq_add_of_le' ha
    refine ⟨fun h => h.1.1.2, fun h => ⟨isWithin_none ⟨ha, h⟩, ?_⟩⟩
    exact sameDays_of_shifted Nat.one_pos (Nat.lt_of_succ_le h)
  · have ha : 1 ≤ a := hpos
    obtain ⟨m, rfl⟩ := Nat.exists_eq_add_of_le' ha
    obtain ⟨c, rfl⟩ := Nat.exists_eq_add_of_le' (ha.trans hab)
    refine ⟨fun h => (h.1.2 (.number (c + 1)) rfl).2, fun h => ⟨?_, ?_⟩⟩
    · exact isWithin_some ⟨ha, hab.trans h⟩ ⟨ha.trans hab, h⟩
    · exact sameDays_of_shifted Nat.one_pos (Nat.lt_of_succ_le h)

/-- What starts with a number and is left as it is is kept for the whole week only. -/
lemma isKept_iff_of_number {n : Nat} (hfirst : i.first = .number n) (hnot : i.isShifted = false) :
    i.Means (fieldDays i.bounds.1 i.bounds.2 i.step) ↔ i.IsKept := by
  have hstep := i.step_pos'
  have hweek : ∀ v, v ∈ fieldDays 1 7 1 ↔ v ∈ weekDays 1 7 1 :=
    (sameDays_unshifted_iff Nat.one_pos le_rfl (by decide) le_rfl).2 ⟨rfl, rfl, rfl⟩
  have hone : (Day.number 1).IsWithin := ⟨le_rfl, by decide⟩
  rcases i with ⟨first, last?, step?, hordered, hpos⟩
  obtain rfl : first = .number n := hfirst
  cases last? with
  | none =>
    cases step? with
    | none => simp [isShifted, Day.isNumber] at hnot
    | some s =>
      constructor
      · rintro ⟨⟨⟨hn, hn'⟩, -⟩, h⟩
        obtain ⟨rfl, -, rfl⟩ := (sameDays_unshifted_iff hstep hn hn' le_rfl).1 h
        exact ⟨rfl, rfl⟩
      · rintro ⟨rfl, rfl⟩
        exact ⟨isWithin_none hone, hweek⟩
  | some d =>
    have hle : n ≤ d.position := hordered d rfl
    cases d with
    | number b =>
      cases step? with
      | none => simp [isShifted, Day.isNumber] at hnot
      | some s =>
        constructor
        · rintro ⟨⟨⟨hn, -⟩, hwithin⟩, h⟩
          exact (sameDays_unshifted_iff hstep hn hle (hwithin (.number b) rfl).2).1 h
        · rintro ⟨rfl, rfl, rfl⟩
          exact ⟨isWithin_some hone ⟨by decide, le_rfl⟩, hweek⟩
    | named k =>
      refine iff_of_false ?_ fun h => by cases step? <;> exact h
      rintro ⟨⟨⟨hn, -⟩, -⟩, h⟩
      -- the last day is counted from 0 by its name, and the first one is not
      exact not_sameDays_last hstep hn hle k.isLt (by cases step? <;> exact h)

/-- What starts with a name is kept unless its steps reach a number behind it. -/
lemma isKept_iff_of_named {k : Fin 7} (hfirst : i.first = .named k) (hlast : i.bounds.2 ≤ 7) :
    i.Means (fieldDays i.bounds.1 i.bounds.2 i.step) ↔ i.IsKept := by
  have hstep := i.step_pos'
  rcases i with ⟨first, last?, step?, hordered, hpos⟩
  obtain rfl : first = .named k := hfirst
  cases last? with
  | none =>
    cases step? with
    | none =>
      refine iff_of_true ⟨isWithin_none trivial, ?_⟩ trivial
      exact sameDays_of_shifted Nat.one_pos k.isLt
    | some s =>
      have h := sameDays_first_iff hstep (Nat.succ_le_of_lt k.isLt) le_rfl
      constructor
      · rintro ⟨-, hsame⟩
        exact (h.1 hsame).imp_left And.left
      · intro hkept
        exact ⟨isWithin_none trivial, h.2 (hkept.imp_left fun hk => ⟨hk, rfl⟩)⟩
  | some d =>
    have hle : k + 1 ≤ d.position := hordered d rfl
    cases d with
    | number b =>
      have hb : b ≤ 7 := by cases step? <;> exact hlast
      have h := sameDays_first_iff hstep hle hb
      have hwithin : (Day.number b).IsWithin := ⟨(Nat.le_add_left 1 k).trans hle, hb⟩
      cases step? <;>
        exact ⟨fun hsame => h.1 hsame.2, fun hkept => ⟨isWithin_some trivial hwithin, h.2 hkept⟩⟩
    | named l =>
      refine iff_of_true ⟨isWithin_some trivial trivial, ?_⟩ (by cases step? <;> trivial)
      have h := fun v => sameDays_of_shifted hstep l.isLt (a := k) v
      cases step? <;> exact h

/-- An item means the same days in the field that results exactly when it is one of those that keep
them. -/
theorem isKept_iff (hlast : i.bounds.2 ≤ 7) (hpos : i.isShifted = true → 1 ≤ i.first.position) :
    i.Means (fieldDays i.bounds.1 i.bounds.2 i.step) ↔ i.IsKept := by
  cases hshift : i.isShifted with
  | true => exact isKept_iff_of_isShifted hshift (hpos hshift)
  | false =>
    cases hfirst : i.first with
    | number n => exact isKept_iff_of_number hfirst hshift
    | named k => exact isKept_iff_of_named hfirst hlast

end Item

end WeekdayList

end Crontab
