import Crontab.Proofs.Dialect.RecasedWeekdays

/-!
# Walking through the week

A range of weekdays in a calendar event is a walk: one starts at its first weekday and goes on day by
day, from Saturday to Sunday, until its last weekday is reached.  `Meets` is this walk, one step at a
time.  The reader does not walk.  It takes the distance of the two weekdays modulo 7 and counts
(`weekdaysBetween`).

`mem_weekdaysBetween_iff` says that the reader finds the days that are met.  It rests on the two
equations that the list of days shares with the walk, `weekdaysBetween_self` where the walk ends and
`weekdaysBetween_of_ne` for its next step.  `weekdays_of_parts` is the statement for whole lists.  A part
that starts with no name of a weekday is passed over and leaves the days of the others alone, even
where a character outside ASCII has a letter for its lower case: no name has such a
letter (`exists_foreign_of_mem`).
-/

namespace Crontab.OnCalendar

/-! ## The walk -/

/-- The weekday behind another; behind Saturday comes Sunday. -/
def nextWeekday (d : ℕ) : ℕ := if d = 6 then 0 else d + 1

/-- Whoever walks forward from a weekday until `last` is reached meets a weekday. -/
inductive Meets (last : ℕ) : ℕ → ℕ → Prop
  | here (a : ℕ) : Meets last a a
  | ahead {a d : ℕ} (ha : a ≠ last) (h : Meets last (nextWeekday a) d) : Meets last a d

section Walk

variable {a b d : ℕ}

lemma nextWeekday_lt (ha : a < 7) : nextWeekday a < 7 := by
  unfold nextWeekday
  split <;> omega

lemma nextWeekday_add_mod (a i : ℕ) : (nextWeekday a + i) % 7 = (a + (i + 1)) % 7 := by
  unfold nextWeekday
  split <;> omega

/-- One step shortens the way by a day. -/
lemma distance_eq_succ (ha : a < 7) (hb : b < 7) (hne : a ≠ b) :
    (b + 7 - a) % 7 = (b + 7 - nextWeekday a) % 7 + 1 := by
  unfold nextWeekday
  split <;> omega

lemma weekdaysBetween_self (ha : a < 7) : weekdaysBetween a a = [a] := by
  rw [weekdaysBetween, Nat.add_sub_cancel_left]
  simp [Nat.mod_eq_of_lt ha]

lemma weekdaysBetween_of_ne (ha : a < 7) (hb : b < 7) (hne : a ≠ b) :
    weekdaysBetween a b = a :: weekdaysBetween (nextWeekday a) b := by
  rw [weekdaysBetween, distance_eq_succ ha hb hne, List.range_succ_eq_map, List.map_cons,
    List.map_map, Nat.add_zero, Nat.mod_eq_of_lt ha, weekdaysBetween]
  congr 1
  exact List.map_congr_left fun i _ => (nextWeekday_add_mod a i).symm

theorem mem_weekdaysBetween_iff (ha : a < 7) (hb : b < 7) : d ∈ weekdaysBetween a b ↔ Meets b a d := by
  constructor
  · -- along the days that are still to go
    intro hd
    induction hn : (b + 7 - a) % 7 generalizing a with
    | zero =>
      obtain rfl : a = b := by omega
      rw [weekdaysBetween_self ha, List.mem_singleton] at hd
      exact hd ▸ .here d
    | succ n ih =>
      have hne : a ≠ b := by
        rintro rfl
        simp at hn
      rw [weekdaysBetween_of_ne ha hb hne] at hd
      rcases List.mem_cons.1 hd with rfl | hd
      · exact .here d
      · have hshorter := distance_eq_succ ha hb hne
        exact .ahead hne (ih (nextWeekday_lt ha) hd (by omega))
  · intro hd
    induction hd with
    | here a =>
      by_cases hab : a = b
      · rw [← hab, weekdaysBetween_self ha]
        exact List.mem_singleton_self a
      · rw [weekdaysBetween_of_ne ha hb hab]
        exact List.mem_cons_self
    | ahead hne _ ih =>
      rw [weekdaysBetween_of_ne ha hb hne]
      exact List.mem_cons_of_mem _ (ih (nextWeekday_lt ha))

/-- Nobody walks longer than a week. -/
lemma length_weekdaysBetween_le (a b : ℕ) : (weekdaysBetween a b).length ≤ 7 := by
  rw [weekdaysBetween, List.length_map, List.length_range]
  omega

/-- No day is met twice. -/
lemma nodup_weekdaysBetween (a b : ℕ) : (weekdaysBetween a b).Nodup := by
  refine List.Nodup.map_on (fun i hi j hj hij => ?_) List.nodup_range
  rw [List.mem_range] at hi hj
  omega

end Walk

/-! ## The parts of a list -/

/-- A text is the full or the short name of a weekday, in any case of its letters. -/
def IsNameOf (t : Text) (d : ℕ) : Prop :=
  d < 7 ∧ (t.map Char.toLower = (dayName d).map Char.toLower ∨
    t.map Char.toLower = (shortName (dayName d)).map Char.toLower)

/-- A text starts with the name of a weekday, in any case of its letters.  Full names start with the
short ones. -/
def StartsWithDayName (t : Text) : Prop :=
  ∃ n ∈ weekdayNames, n.map Char.toLower <+: t.map Char.toLower

/-- The weekdays that a part of a list stands for: one that it names, or all that are met between two. -/
inductive Selects : Text → ℕ → Prop
  | name {t : Text} {d : ℕ} (ht : IsNameOf t d) : Selects t d
  | range {s t : Text} {a b d : ℕ} (hs : IsNameOf s a) (ht : IsNameOf t b) (hd : Meets b a d) :
    Selects (s ++ (".." ++ t)) d

section Parts

variable {s t : Text} {a b d : ℕ}

lemma exists_isNameOf_iff : (∃ d, IsNameOf t d) ↔ IsDayName t := by
  have hnames : ∀ d < 7, ∀ n ∈ [dayName d, shortName (dayName d)],
      n.map Char.toLower ∈ smallDayNames := by decide
  have hdays : ∀ n ∈ smallDayNames, ∃ d < 7, n = (dayName d).map Char.toLower ∨
      n = (shortName (dayName d)).map Char.toLower := by decide
  constructor
  · rintro ⟨d, hd, ht | ht⟩
    · rw [IsDayName, ht]
      exact hnames d hd _ (by simp)
    · rw [IsDayName, ht]
      exact hnames d hd _ (by simp)
  · intro ht
    obtain ⟨d, hd, hname⟩ := hdays _ ht
    exact ⟨d, hd, hname⟩

lemma IsNameOf.isDayName (ht : IsNameOf t d) : IsDayName t := exists_isNameOf_iff.1 ⟨d, ht⟩

lemma weekday?_of_isNameOf (ht : IsNameOf t d) : weekday? t = some d := by
  have hnames : ∀ d < 7, weekday? ((dayName d).map Char.toLower) = some d ∧
      weekday? ((shortName (dayName d)).map Char.toLower) = some d := by decide
  obtain ⟨hd, hname⟩ := ht
  rw [← weekday?_toLower (ascii_of_letters (IsNameOf.isDayName ⟨hd, hname⟩).chars)]
  rcases hname with hname | hname
  · rw [hname]
    exact (hnames d hd).1
  · rw [hname]
    exact (hnames d hd).2

lemma weekdaysOfPart_name (ht : IsNameOf t d) : weekdaysOfPart t = [d] := by
  have hcut : Text.cut ".." t = (t, none) :=
    Text.cut_of_notMem (notMem_of_letters rfl ht.isDayName.chars)
  simp only [weekdaysOfPart, hcut, weekday?_of_isNameOf ht, Option.toList_some]

lemma weekdaysOfPart_range (hs : IsNameOf s a) (ht : IsNameOf t b) :
    weekdaysOfPart (s ++ (".." ++ t)) = weekdaysBetween a b := by
  have hcut : Text.cut ".." (s ++ (".." ++ t)) = (s, some t) :=
    Text.cut_append_mark (notMem_of_letters rfl hs.isDayName.chars) ['.'] t
  simp only [weekdaysOfPart, hcut, weekday?_of_isNameOf hs, weekday?_of_isNameOf ht]

lemma mem_weekdaysOfPart_of_selects (h : Selects t d) : d ∈ weekdaysOfPart t := by
  cases h with
  | name ht =>
    rw [weekdaysOfPart_name ht]
    exact List.mem_singleton_self d
  | range hs ht hd =>
    rw [weekdaysOfPart_range hs ht]
    exact (mem_weekdaysBetween_iff hs.1 ht.1).2 hd

lemma mem_weekdaysOfPart_iff (ht : IsDayItem t) : d ∈ weekdaysOfPart t ↔ Selects t d := by
  refine ⟨fun hd => ?_, mem_weekdaysOfPart_of_selects⟩
  cases ht with
  | name ht =>
    obtain ⟨a, ha⟩ := exists_isNameOf_iff.2 ht
    rw [weekdaysOfPart_name ha, List.mem_singleton] at hd
    exact .name (hd ▸ ha)
  | range hs ht =>
    obtain ⟨a, ha⟩ := exists_isNameOf_iff.2 hs
    obtain ⟨b, hb⟩ := exists_isNameOf_iff.2 ht
    rw [weekdaysOfPart_range ha hb] at hd
    exact .range ha hb ((mem_weekdaysBetween_iff ha.1 hb.1).1 hd)

/-! ### Parts that are passed over -/

/-- What is read as a weekday starts with its name. -/
lemma startsWithDayName_of_weekday? (h : weekday? s = some d) : StartsWithDayName s := by
  obtain ⟨hd, hlower, -⟩ := List.findIdx?_eq_some_iff_getElem.1 h
  have hname : weekdayNames[d] ∈ weekdayNames := List.getElem_mem hd
  have hcodes : ∀ n ∈ weekdayNames, (∀ c ∈ n, c.toNat < 128) ∧
      ∀ c ∈ n.map Char.toLower, c.toNat < 128 ∧ c.toNat ≠ 'k'.toNat ∧ c.toNat ≠ 0 := by decide
  obtain ⟨hascii, hletters⟩ := hcodes _ hname
  rw [beq_iff_eq, Text.lower_of_ascii hascii] at hlower
  have hprefix : ∀ c ∈ s.take 3, c.toNat < 128 := by
    intro c hc
    by_contra houtside
    obtain ⟨f, hf, hcode⟩ := Field.exists_foreign_of_mem hc houtside
    obtain ⟨hlt, hk, hzero⟩ := hletters f (hlower ▸ hf)
    omega
  refine ⟨_, hname, ?_⟩
  rw [hlower, Text.lower_of_ascii hprefix]
  exact (List.take_prefix 3 s).map _

lemma StartsWithDayName.mono (hs : StartsWithDayName s) (hst : s <+: t) : StartsWithDayName t := by
  obtain ⟨n, hn, hprefix⟩ := hs
  exact ⟨n, hn, hprefix.trans (hst.map _)⟩

/-- A part that starts with no name has no days, whatever stands behind its dots. -/
lemma weekdaysOfPart_eq_nil (h : ¬ StartsWithDayName t) : weekdaysOfPart t = [] := by
  rcases hcut : Text.cut ".." t with ⟨first, last?⟩
  have hfirst : first <+: t := by
    cases last? with
    | none => exact Text.eq_of_cut_eq_none hcut ▸ List.prefix_refl first
    | some last => exact Text.eq_append_of_cut_eq_some hcut ▸ List.prefix_append first _
  have hnone : weekday? first = none := by
    by_contra hsome
    obtain ⟨d, hd⟩ := Option.ne_none_iff_exists'.1 hsome
    exact h ((startsWithDayName_of_weekday? hd).mono hfirst)
  cases last? <;> simp only [weekdaysOfPart, hcut, hnone, Option.toList_none]

end Parts

/-! ## Whole lists -/

/-- **The weekdays of a list are those that its parts stand for.**  Take a text whose parts between the
commas are names of weekdays, ranges of them, or anything that does not start with such a name.  What
is read is the strictly ascending list of the weekdays that are named or met on the way from the first
to the last weekday of a range.  Such a way takes in no day twice and seven days at most, and a single
day when it ends where it starts.  The other parts stand for no weekday. -/
theorem weekdays_of_parts {w : Text}
    (hw : ∀ t ∈ Text.pieces ',' w, IsDayItem t ∨ ¬ StartsWithDayName t) :
    (weekdays w).Pairwise (· < ·) ∧
      (∀ d, d ∈ weekdays w ↔ ∃ t ∈ Text.pieces ',' w, Selects t d) ∧
      (∀ t ∈ Text.pieces ',' w, ¬ StartsWithDayName t →
        weekdaysOfPart t = [] ∧ ∀ d, ¬ Selects t d) ∧
      ∀ (s t : Text) a b, s ++ (".." ++ t) ∈ Text.pieces ',' w → IsNameOf s a → IsNameOf t b →
        (weekdaysOfPart (s ++ (".." ++ t))).Nodup ∧
          (weekdaysOfPart (s ++ (".." ++ t))).length ≤ 7 ∧
          (a = b → weekdaysOfPart (s ++ (".." ++ t)) = [a]) := by
  have hpassed : ∀ t, ¬ StartsWithDayName t → ∀ d, ¬ Selects t d := fun t ht d hd => by
    have hmem := mem_weekdaysOfPart_of_selects hd
    rw [weekdaysOfPart_eq_nil ht] at hmem
    exact List.not_mem_nil hmem
  refine ⟨pairwise_weekdays w, fun d => ?_, fun t _ ht => ⟨weekdaysOfPart_eq_nil ht, hpassed t ht⟩,
    fun s t a b _ hs ht => ?_⟩
  · rw [weekdays, mem_ascending, List.mem_flatMap]
    refine exists_congr fun t => and_congr_right fun ht => ?_
    rcases hw t ht with hitem | hother
    · exact mem_weekdaysOfPart_iff hitem
    · rw [weekdaysOfPart_eq_nil hother]
      exact iff_of_false List.not_mem_nil (hpassed t hother d)
  · rw [weekdaysOfPart_range hs ht]
    refine ⟨nodup_weekdaysBetween a b, length_weekdaysBetween_le a b, ?_⟩
    rintro rfl
    exact weekdaysBetween_self hs.1

/-- From Saturday to Monday one meets Sunday, and the word in the middle is passed over. -/
theorem weekdays_of_parts_weekend :
    (∀ t ∈ Text.pieces ',' "SAT..monday,noon,Wed", IsDayItem t ∨ ¬ StartsWithDayName t) ∧
      weekdays "SAT..monday,noon,Wed" = [0, 1, 3, 6] ∧
      ∃ t ∈ Text.pieces ',' "SAT..monday,noon,Wed", Selects t 0 := by
  have hparts : Text.pieces ',' "SAT..monday,noon,Wed" =
      ["SAT..monday".toList, "noon".toList, "Wed".toList] := rfl
  have hword : ¬ StartsWithDayName "noon" := by
    unfold StartsWithDayName
    decide
  have hw : ∀ t ∈ Text.pieces ',' "SAT..monday,noon,Wed", IsDayItem t ∨ ¬ StartsWithDayName t := by
    rw [hparts]
    simp only [List.forall_mem_cons]
    exact ⟨.inl (.range (s := "SAT") (by decide) (by decide)), .inr hword, .inl (.name (by decide)),
      by simp⟩
  have hdays : weekdays "SAT..monday,noon,Wed" = [0, 1, 3, 6] := by decide
  obtain ⟨-, hmem, -⟩ := weekdays_of_parts hw
  exact ⟨hw, hdays, (hmem 0).1 (hdays ▸ List.mem_cons_self)⟩

end Crontab.OnCalendar
