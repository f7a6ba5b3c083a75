import Crontab.Dialect.QuestionMark
import Crontab.Proofs.Dialect.WeekdayList

/-!
# Weekdays on the way out and back

A weekday field is written either as a range or day by day (`Field.weekdaysFromOne_cases`).  Both
forms mean exactly the days of the field where the days count from 1 (`Field.exists_covers`), and both
are read back as these days, in a field that is written in the same form
again (`Field.exists_weekdayField`).
-/

namespace Crontab

/-! ## Numbers of days -/

lemma toOneBased_of_lt {v : Nat} (h : v < 7) : toOneBased v = v + 1 := by
  unfold toOneBased
  split <;> omega

lemma map_toOneBased {vs : List Nat} (h : ∀ v ∈ vs, v < 7) : vs.map toOneBased = vs.map (· + 1) :=
  List.map_congr_left fun v hv => toOneBased_of_lt (h v hv)

lemma map_succ_range' (a n : Nat) : (List.range' a n).map (· + 1) = List.range' (a + 1) n := by
  rw [Nat.add_comm a 1, ← List.map_add_range']
  exact List.map_congr_left fun v _ => Nat.add_comm v 1

lemma toZeroBased_succ (v : Nat) : toZeroBased (v + 1) = v := by
  unfold toZeroBased
  split <;> omega

lemma numericRange?_of_notMem {s : Text} (h : '-' ∉ s) : numericRange? s = none := by
  rw [numericRange?, show Text.cut "-" s = (s, none) from Text.cut_of_notMem h]

lemma numericRange?_digits {s t : Text} (hs : Text.isDigits s = true) (ht : Text.isDigits t = true) :
    numericRange? (s ++ '-' :: t) = some (s, t) := by
  have hcut : Text.cut "-" (s ++ '-' :: t) = (s, some t) :=
    Text.cut_append (Segment.notMem_of_isDigits hs (by decide)) t
  rw [numericRange?, hcut]
  simp [hs, ht]

lemma numericRange?_natText (a b : Nat) :
    numericRange? (natText a ++ "-" ++ natText b) = some (natText a, natText b) := by
  rw [List.append_assoc]
  exact numericRange?_digits (isDigits_natText a) (isDigits_natText b)

lemma tokenFromZero_natText {v : Nat} (h : v < 7) :
    tokenFromZero (natText (v + 1)) = .ok (natText v) := by
  rw [tokenFromZero, if_pos (isDigits_natText _), readDigits_natText (by omega)]
  simp only [ok_bind, toZeroBased_succ, intText_ofNat]
  rfl

lemma tokenFromZero_range {a b : Nat} (hab : a ≤ b) (hb : b < 7) :
    tokenFromZero (natText (a + 1) ++ "-" ++ natText (b + 1)) =
      .ok (natText a ++ "-" ++ natText b) := by
  have hdigits : ¬ Text.isDigits (natText (a + 1) ++ "-" ++ natText (b + 1)) = true := fun h =>
    absurd ((Text.isDigits_iff.1 h).2 '-' (by simp)) (by decide)
  rw [tokenFromZero, if_neg hdigits, numericRange?_natText]
  simp only [readDigits_natText (show a + 1 < 100 by omega),
    readDigits_natText (show b + 1 < 100 by omega), ok_bind, toZeroBased_succ, Nat.cast_le, hab,
    if_true, intText_ofNat]
  rfl

/-! ## A weekday field on the way out -/

namespace Field

variable {f : Field}

lemma weekdaysFromOne_of_notMem (h : '-' ∉ f.raw) :
    f.weekdaysFromOne = Text.join "," ((f.values.map toOneBased).map natText) := by
  rw [weekdaysFromOne, shiftedRange?, numericRange?_of_notMem h]
  rfl

lemma weekdaysFromOne_of_range {a b : Nat} (hab : a ≤ b) (hb : b < 7)
    (hraw : f.raw = natText a ++ "-" ++ natText b) (hvalues : f.values = List.range' a (b + 1 - a)) :
    f.weekdaysFromOne = natText (a + 1) ++ "-" ++ natText (b + 1) := by
  have hlt : ∀ v ∈ f.values, v < 7 := fun v hv => by
    have := (List.mem_range'_1.1 (hvalues ▸ hv)).2
    omega
  have hdays : List.range' (a + 1) (b + 1 + 1 - (a + 1)) = f.values.map toOneBased := by
    rw [map_toOneBased hlt, hvalues, map_succ_range', Nat.add_sub_add_right]
  rw [weekdaysFromOne, shiftedRange?, hraw, numericRange?_natText]
  simp only [Option.map_some, digitsValue_natText, toOneBased_of_lt hb,
    toOneBased_of_lt (lt_of_le_of_lt hab hb)]
  rw [if_pos ⟨by omega, hdays⟩]

/-- A weekday field is written as the range of its days, or day by day. -/
lemma weekdaysFromOne_cases (hlt : ∀ v ∈ f.values, v < 7) :
    (∃ a b, a ≤ b ∧ b < 7 ∧ f.values = List.range' a (b + 1 - a) ∧
        f.weekdaysFromOne = natText (a + 1) ++ "-" ++ natText (b + 1)) ∨
      f.weekdaysFromOne = Text.join "," (f.values.map fun v => natText (v + 1)) := by
  have hlisted : (f.values.map toOneBased).map natText = f.values.map fun v => natText (v + 1) := by
    rw [map_toOneBased hlt, List.map_map]
    rfl
  simp only [weekdaysFromOne, hlisted]
  split
  · next first last hrange =>
    split
    · next hdays =>
      -- the bounds of the range are days themselves, so both can be counted from 0 again
      obtain ⟨hle, hdays⟩ := hdays
      rw [map_toOneBased hlt] at hdays
      obtain ⟨a, ha, rfl⟩ := List.mem_map.1 (hdays ▸ List.mem_range'_1.2 ⟨le_rfl, by omega⟩)
      obtain ⟨b, hb, rfl⟩ := List.mem_map.1 (hdays ▸ List.mem_range'_1.2 ⟨hle, by omega⟩)
      refine .inl ⟨a, b, by omega, hlt b hb, ?_, rfl⟩
      rw [Nat.add_sub_add_right, ← map_succ_range'] at hdays
      exact (List.map_injective_iff.2 (add_left_injective 1) hdays).symm
    · exact .inr rfl
  · exact .inr rfl

/-- The characters of a field are enough for the way out. -/
lemma chars_weekdaysFromOne (hlt : ∀ v ∈ f.values, v < 7) :
    ∀ c ∈ f.weekdaysFromOne, isFieldChar c = true := by
  intro c hc
  rcases weekdaysFromOne_cases hlt with ⟨a, b, -, -, -, hwritten⟩ | hwritten
  · rw [hwritten] at hc
    rcases isDigit_or_eq_of_mem_range hc with hc | rfl
    · exact isFieldChar_of_isDigit hc
    · decide
  · have hnumbers : f.weekdaysFromOne = Text.join "," ((f.values.map (· + 1)).map natText) := by
      rw [hwritten, List.map_map]
      rfl
    rw [hnumbers] at hc
    rcases isDigit_or_eq_of_mem_numbers hc with hc | rfl
    · exact isFieldChar_of_isDigit hc
    · decide

lemma weekdaysFromOne_ne_nil (hlt : ∀ v ∈ f.values, v < 7) (hne : f.values ≠ []) :
    f.weekdaysFromOne ≠ [] := by
  obtain ⟨v, vs, hvs⟩ := List.exists_cons_of_ne_nil hne
  rcases weekdaysFromOne_cases hlt with ⟨a, b, -, -, -, hwritten⟩ | hwritten
  · simp [hwritten]
  · rw [hwritten, hvs]
    exact Text.join_ne_nil _ (natText_ne_nil _)

/-- What a weekday field is written as means exactly its days. -/
theorem exists_covers (hlt : ∀ v ∈ f.values, v < 7) (hne : f.values ≠ []) :
    ∃ items, WeekdayList.IsWritten items f.weekdaysFromOne ∧ WeekdayList.Covers items f.values := by
  rcases weekdaysFromOne_cases hlt with ⟨a, b, hab, hb, hvalues, hwritten⟩ | hwritten
  · refine ⟨[.ofRange (a + 1) (b + 1) (by omega)], ?_, ?_, ?_⟩
    · refine ⟨by simp, [f.weekdaysFromOne], .cons ⟨natText (a + 1), natText (b + 1), ?_⟩ .nil, rfl⟩
      exact ⟨⟨isDigits_natText _, digitsValue_natText _⟩, ⟨isDigits_natText _, digitsValue_natText _⟩,
        by simp [hwritten]⟩
    · simp only [List.mem_singleton, forall_eq]
      exact ⟨⟨by omega, by omega⟩, fun d hd => by
        obtain rfl := Option.mem_some.1 hd
        exact ⟨by omega, by omega⟩⟩
    · intro v
      simp only [List.mem_singleton, exists_eq_left, WeekdayList.Item.mem_weekdays, hvalues,
        List.mem_range'_1]
      constructor
      · rintro ⟨hav, hvb⟩
        exact ⟨v + 1, Nat.succ_le_succ hav, show v + 1 ≤ b + 1 by omega, one_dvd _, rfl⟩
      · rintro ⟨u, hu, hub, -, rfl⟩
        have hu : a + 1 ≤ u := hu
        have hub : u ≤ b + 1 := hub
        omega
  · refine ⟨f.values.map fun v => .ofNumber (v + 1), ?_, ?_, ?_⟩
    · refine ⟨by simpa using hne, f.values.map fun v => natText (v + 1), ?_, hwritten⟩
      rw [List.forall₂_map_left_iff, List.forall₂_map_right_iff, List.forall₂_same]
      exact fun v _ => ⟨isDigits_natText _, digitsValue_natText _⟩
    · intro i hi
      obtain ⟨v, hv, rfl⟩ := List.mem_map.1 hi
      have := hlt v hv
      exact ⟨⟨by omega, by omega⟩, by simp [WeekdayList.Item.ofNumber]⟩
    · intro v
      simp only [List.mem_map, exists_exists_and_eq_and, WeekdayList.Item.mem_weekdays]
      constructor
      · intro hv
        exact ⟨v, hv, v + 1, le_rfl, le_rfl, one_dvd _, rfl⟩
      · rintro ⟨w, hw, u, hwu, huw, -, rfl⟩
        obtain rfl : u = w + 1 := le_antisymm huw hwu
        exact hw

end Field

/-- The weekday field of a text in one of the notations with weekdays that count from 1. -/
def Dialect.weekdayText? (d : Dialect) (s : Text) : Option Text :=
  match d with
  | .aws =>
    match Aws.callWords? s with
    | some [_, _, _, _, w, _] => some w
    | _ => none
  | .quartz | .jenkins =>
    match Text.words s with
    | [_, _, _, _, _, w] => some w
    | [_, _, _, _, _, w, _] => some w
    | _ => none
  | _ => none

/-! ## A weekday field on the way back -/

namespace Field

variable {f : Field}

/-- A field that holds neither of the marks for a whole field is counted from 0. -/
lemma weekdayField_eq {w : Text} (hquestion : '?' ∉ w) (hstar : '*' ∉ w) :
    weekdayField w = weekdaysFromZero w := by
  have hne : w ≠ "?" := fun h => hquestion (by rw [h]; decide)
  have hne' : w ≠ "*" := fun h => hstar (by rw [h]; decide)
  rw [weekdayField, withoutQuestionMark, if_neg hne, if_neg hne']

/-- What a weekday field is written as is read back as a field with the same days, which is not `*`
and is written in the same way again. -/
theorem exists_weekdayField (hf : f.IsStored .dayOfWeek) (hne : f.values ≠ []) :
    ∃ g : Field, weekdayField f.weekdaysFromOne = .ok g.raw ∧ g.IsStored .dayOfWeek ∧
      g.values = f.values ∧ g.isAny = false ∧ g.weekdaysFromOne = f.weekdaysFromOne := by
  have hlt : ∀ v ∈ f.values, v < 7 := fun v hv => lt_seven_of_mem_values hf.read_raw hv
  rcases weekdaysFromOne_cases hlt with ⟨a, b, hab, hb, hvalues, hwritten⟩ | hwritten
  · refine ⟨⟨natText a ++ "-" ++ natText b, f.values, [], []⟩, ?_, ?_, rfl,
      isAny_eq_false_of_notMem (notMem_range (by decide) (by decide)), ?_⟩
    · rw [hwritten, weekdayField_eq (notMem_range (by decide) (by decide))
          (notMem_range (by decide) (by decide)),
        weekdaysFromZero, Text.pieces_of_notMem (notMem_range (by decide) (by decide))]
      simp only [List.mapM_cons, List.mapM_nil, tokenFromZero_range hab hb]
      rfl
    · rw [hvalues]
      refine isStored_range hab fun v hav hvb => ?_
      have hv : v ∈ f.values := hvalues ▸ List.mem_range'_1.2 ⟨hav, by omega⟩
      exact stored_of_mem_values hf.read_raw v hv
    · rw [hwritten]
      exact weekdaysFromOne_of_range hab hb rfl hvalues
  · have hwords : (f.values.map fun v => natText (v + 1)) = (f.values.map (· + 1)).map natText := by
      rw [List.map_map]
      rfl
    -- the tokens of the list are counted from 0 one by one
    have hback : ((f.values.map (· + 1)).map natText).mapM tokenFromZero =
        .ok (f.values.map natText) := by
      rw [mapM_eq_ok_iff, List.forall₂_map_left_iff, List.forall₂_map_left_iff,
        List.forall₂_map_right_iff, List.forall₂_same]
      exact fun v hv => tokenFromZero_natText (hlt v hv)
    refine ⟨⟨Text.join "," (f.values.map natText), f.values, [], []⟩, ?_, hf.listed hne, rfl,
      isAny_eq_false_of_notMem (notMem_numbers (by decide) (by decide)), ?_⟩
    · rw [hwritten, hwords, weekdayField_eq (notMem_numbers (by decide) (by decide))
          (notMem_numbers (by decide) (by decide)),
        weekdaysFromZero, pieces_numbers (by simpa using hne), hback]
      rfl
    · rw [weekdaysFromOne_of_notMem (notMem_numbers (by decide) (by decide)), hwritten, hwords,
        ← map_toOneBased hlt]

end Field

end Crontab
