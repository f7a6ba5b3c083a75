import Mathlib.Data.List.TakeWhile
import Crontab.Proofs.Field.Stored
import Crontab.Proofs.Text.Runs

/-!
# The grammar of segments

How segments are written, as a relation between texts and segments: `Spelling.Writes` has one rule for
each form of a span and one for the step behind it.  What counts as a number, and what may stand behind
the stroke, is left to a `Spelling`, so that the same rules serve the stored text of a field, where
numbers are digits, and the text of an expression, where names stand for numbers as well.

As no number holds one of the marks, the rules can be told apart by the marks of a text, and a text is
written for one segment at most (`Spelling.Writes.unique`).  `Segment.read?` reads the stored
texts: what it answers is the segment that the text is written for, if there is one
(`Segment.read?_eq_some_iff`).
-/

namespace Crontab

/-! ## Spellings -/

/-- How the numbers and the steps of segments are written. -/
structure Spelling where
  /-- The text stands for the number. -/
  number : Text → Nat → Prop
  /-- The text behind a stroke stands for the step, or for no step. -/
  step : Text → Option Nat → Prop
  /-- No number holds a mark. -/
  apart : ∀ {t v}, number t v → '*' ∉ t ∧ '-' ∉ t ∧ '/' ∉ t

namespace Spelling

variable {w : Spelling} {s t : Text} {a b v : Nat} {span : Span} {g : Segment}

/-- The text is written for the span. -/
inductive WritesSpan (w : Spelling) : Text → Span → Prop
  | all : WritesSpan w ['*'] .all
  | single {t : Text} {v : Nat} (ht : w.number t v) : WritesSpan w t (.single v)
  | range {s t : Text} {a b : Nat} (hs : w.number s a) (ht : w.number t b) :
    WritesSpan w (s ++ '-' :: t) (.range a b)

/-- The text is written for the segment. -/
inductive Writes (w : Spelling) : Text → Segment → Prop
  | plain {t : Text} {span : Span} (ht : w.WritesSpan t span) : Writes w t ⟨span, none⟩
  | stepped {t s : Text} {span : Span} {step : Option Nat} (ht : w.WritesSpan t span)
    (hs : w.step s step) : Writes w (t ++ '/' :: s) ⟨span, step⟩

/-! ### Which rule a text falls under -/

lemma WritesSpan.notMem (h : w.WritesSpan t span) : '/' ∉ t := by
  cases h with
  | all => decide
  | single ht => exact (w.apart ht).2.2
  | range hs ht => simp [(w.apart hs).2.2, (w.apart ht).2.2]

/-- No span is written with two hyphens. -/
lemma WritesSpan.count_hyphen_le (h : w.WritesSpan t span) : t.count '-' ≤ 1 := by
  have hnone : ∀ {t : Text} {v : Nat}, w.number t v → t.count '-' = 0 := fun ht =>
    List.count_eq_zero.2 (w.apart ht).2.1
  cases h with
  | all => simp
  | single ht => simp [hnone ht]
  | range hs ht => simp [hnone hs, hnone ht]

/-- `*` is written for every number, and for nothing else. -/
lemma writesSpan_star_iff : w.WritesSpan ['*'] span ↔ span = .all := by
  refine ⟨fun h => ?_, fun h => h ▸ .all⟩
  generalize ht : ['*'] = t at h
  cases h with
  | all => rfl
  | single h =>
    subst ht
    exact absurd List.mem_cons_self (w.apart h).1
  | @range s u a b hs hu =>
    have hmem : '-' ∈ ['*'] := ht ▸ by simp
    exact absurd hmem (by decide)

/-- Without a hyphen, what is not `*` is one number. -/
lemma writesSpan_iff_of_notMem (hstar : t ≠ ['*']) (ht : '-' ∉ t) :
    w.WritesSpan t span ↔ ∃ v, w.number t v ∧ span = .single v := by
  constructor
  · intro h
    cases h with
    | all => exact absurd rfl hstar
    | single h => exact ⟨_, h, rfl⟩
    | range hs hu => exact absurd (by simp) ht
  · rintro ⟨v, h, rfl⟩
    exact .single h

/-- With a hyphen, a span is a range, and the first hyphen is its mark. -/
lemma writesSpan_range_iff (hs : '-' ∉ s) :
    w.WritesSpan (s ++ '-' :: t) span ↔
      ∃ a b, w.number s a ∧ w.number t b ∧ span = .range a b := by
  constructor
  · intro h
    generalize hst : s ++ '-' :: t = u at h
    cases h with
    | all =>
      have hmem : '-' ∈ ['*'] := hst ▸ by simp
      exact absurd hmem (by decide)
    | single h => exact absurd (hst ▸ by simp) (w.apart h).2.1
    | @range s' t' a b hs' ht' =>
      have hcut := Text.cut_append hs t
      rw [hst, Text.cut_append (w.apart hs').2.1, Prod.mk.injEq, Option.some.injEq] at hcut
      obtain ⟨rfl, rfl⟩ := hcut
      exact ⟨a, b, hs', ht', rfl⟩
  · rintro ⟨a, b, ha, hb, rfl⟩
    exact .range ha hb

/-- Without a stroke, a segment is its span. -/
lemma writes_iff_of_notMem (ht : '/' ∉ t) :
    w.Writes t g ↔ ∃ span, w.WritesSpan t span ∧ g = ⟨span, none⟩ := by
  constructor
  · intro h
    cases h with
    | plain h => exact ⟨_, h, rfl⟩
    | stepped h hs => exact absurd (by simp) ht
  · rintro ⟨span, h, rfl⟩
    exact .plain h

/-- With a stroke, the step stands behind the first of them. -/
lemma writes_step_iff (ht : '/' ∉ t) :
    w.Writes (t ++ '/' :: s) g ↔
      ∃ span step, w.WritesSpan t span ∧ w.step s step ∧ g = ⟨span, step⟩ := by
  constructor
  · intro h
    generalize hts : t ++ '/' :: s = u at h
    cases h with
    | plain h => exact absurd (hts ▸ by simp) h.notMem
    | @stepped t' s' span step h hs =>
      have hcut := Text.cut_append ht s
      rw [hts, Text.cut_append h.notMem, Prod.mk.injEq, Option.some.injEq] at hcut
      obtain ⟨rfl, rfl⟩ := hcut
      exact ⟨span, step, h, hs, rfl⟩
  · rintro ⟨span, step, h, hs, rfl⟩
    exact .stepped h hs

/-! ### One segment for a text -/

/-- No text is written for two numbers or for two steps. -/
structure IsFunctional (w : Spelling) : Prop where
  number : ∀ {t a b}, w.number t a → w.number t b → a = b
  step : ∀ {t a b}, w.step t a → w.step t b → a = b

lemma WritesSpan.unique (hw : w.IsFunctional) {span' : Span} (h : w.WritesSpan t span)
    (h' : w.WritesSpan t span') : span = span' := by
  cases h with
  | all => exact (writesSpan_star_iff.1 h').symm
  | single ht =>
    have hstar : t ≠ ['*'] := by
      rintro rfl
      exact (w.apart ht).1 List.mem_cons_self
    obtain ⟨v, hv, rfl⟩ := (writesSpan_iff_of_notMem hstar (w.apart ht).2.1).1 h'
    rw [hw.number ht hv]
  | range hs ht =>
    obtain ⟨a, b, ha, hb, rfl⟩ := (writesSpan_range_iff (w.apart hs).2.1).1 h'
    rw [hw.number hs ha, hw.number ht hb]

theorem Writes.unique (hw : w.IsFunctional) {g' : Segment} (h : w.Writes t g)
    (h' : w.Writes t g') : g = g' := by
  cases h with
  | plain ht =>
    obtain ⟨span, hspan, rfl⟩ := (writes_iff_of_notMem ht.notMem).1 h'
    rw [ht.unique hw hspan]
  | stepped ht hs =>
    obtain ⟨span, step, hspan, hstep, rfl⟩ := (writes_step_iff ht.notMem).1 h'
    rw [ht.unique hw hspan, hw.step hs hstep]

/-! ### The stored text -/

lemma mem_trim {s : Text} {c : Char} (hc : c ∈ s) (hblank : Text.isBlank c = false) :
    c ∈ Text.trim s := by
  have hdrop : ∀ u : Text, c ∈ u → c ∈ u.dropWhile Text.isBlank := by
    intro u hu
    rw [← List.takeWhile_append_dropWhile (p := Text.isBlank) (l := u), List.mem_append] at hu
    refine hu.resolve_left fun h => ?_
    exact absurd (List.mem_takeWhile_imp h) (by simp [hblank])
  rw [Text.trim, Text.trimRight, List.mem_reverse]
  exact hdrop _ (List.mem_reverse.2 (hdrop s hc))

/-- In a stored text numbers are ASCII digits, with blanks around them allowed, and the text behind a
stroke is a number or nothing.  A step of zero counts as one. -/
def stored : Spelling where
  number t v := Text.isDigits (Text.trim t) = true ∧ digitsValue (Text.trim t) = v
  step t k :=
    t = [] ∧ k = none ∨ Text.isDigits (Text.trim t) = true ∧ k = some (max (digitsValue (Text.trim t)) 1)
  apart := by
    rintro t v ⟨ht, -⟩
    have hnone : ∀ c, Text.isBlank c = false → c.isDigit = false → c ∉ t := fun c hblank hc hmem =>
      Segment.notMem_of_isDigits ht hc (mem_trim hmem hblank)
    exact ⟨hnone _ (by decide) (by decide), hnone _ (by decide) (by decide),
      hnone _ (by decide) (by decide)⟩

lemma stored_number_iff {t : Text} {v : ℕ} :
    stored.number t v ↔ Text.isDigits (Text.trim t) = true ∧ digitsValue (Text.trim t) = v := Iff.rfl

lemma stored_step_iff {t : Text} {k : Option ℕ} :
    stored.step t k ↔ t = [] ∧ k = none ∨
      Text.isDigits (Text.trim t) = true ∧ k = some (max (digitsValue (Text.trim t)) 1) := Iff.rfl

lemma isFunctional_stored : stored.IsFunctional where
  number h h' := h.2.symm.trans h'.2
  step := by
    rintro t a b (⟨rfl, rfl⟩ | ⟨ht, rfl⟩) (⟨ht', rfl⟩ | ⟨ht', rfl⟩)
    · rfl
    · simp at ht'
    · simp [ht'] at ht
    · rfl

end Spelling

/-! ## Reading a segment -/

namespace Segment

open Spelling

variable {t : Text} {g : Segment} {o : Option Segment}

/-- A number that is read is the number that the text stands for. -/
lemma readNat?_eq_some_iff {o : Option Nat} (h : readNat? t = .ok o) (v : Nat) :
    o = some v ↔ stored.number t v := by
  unfold readNat? at h
  split at h
  · next hdigits =>
    obtain ⟨u, hu, h⟩ := bind_eq_ok_iff.1 h
    obtain rfl := pure_eq_ok_iff.1 h
    unfold readDigits at hu
    split at hu
    · obtain rfl := Except.ok.inj hu
      simp [stored, hdigits]
    · simp at hu
  · next hdigits =>
    obtain rfl := pure_eq_ok_iff.1 h
    simp [stored, hdigits]

lemma readSpan?_eq_some_iff {step : Option Nat} (h : readSpan? step t = .ok o) :
    o = some g ↔ ∃ span, stored.WritesSpan t span ∧ g = ⟨span, step⟩ := by
  unfold readSpan? at h
  split at h
  · next hstar =>
    obtain rfl := pure_eq_ok_iff.1 h
    rw [show t = ['*'] from hstar]
    simp [writesSpan_star_iff, eq_comm]
  · next hstar =>
    split at h
    · next body hcut =>
      -- without a hyphen it can only be a single number
      obtain ⟨rfl, hhyphen⟩ := Text.cut_eq_none_iff.1 hcut
      obtain ⟨v, hv, h⟩ := bind_eq_ok_iff.1 h
      obtain rfl := pure_eq_ok_iff.1 h
      simp only [Option.map_eq_some_iff, readNat?_eq_some_iff hv,
        writesSpan_iff_of_notMem hstar hhyphen]
      constructor
      · rintro ⟨v, hv, rfl⟩
        exact ⟨.single v, ⟨v, hv, rfl⟩, rfl⟩
      · rintro ⟨-, ⟨v, hv, rfl⟩, rfl⟩
        exact ⟨v, hv, rfl⟩
    · next first last hcut =>
      -- a numeral holds no hyphen, so the first one is where the range is cut
      obtain ⟨rfl, hhyphen⟩ : t = first ++ '-' :: last ∧ '-' ∉ first := Text.cut_eq_some_iff.1 hcut
      obtain ⟨a, ha, h⟩ := bind_eq_ok_iff.1 h
      obtain ⟨b, hb, h⟩ := bind_eq_ok_iff.1 h
      simp only [writesSpan_range_iff hhyphen, ← readNat?_eq_some_iff ha, ← readNat?_eq_some_iff hb]
      cases a with
      | none =>
        obtain rfl := pure_eq_ok_iff.1 h
        simp
      | some a =>
        cases b with
        | none =>
          obtain rfl := pure_eq_ok_iff.1 h
          simp
        | some b =>
          obtain rfl := pure_eq_ok_iff.1 h
          simp [eq_comm]

/-- What is read is the segment that the text is written for, and nothing is read from a text that is
written for no segment. -/
theorem read?_eq_some_iff (h : read? t = .ok o) : o = some g ↔ stored.Writes t g := by
  unfold read? at h
  split at h
  · next body hcut =>
    obtain ⟨rfl, hstroke⟩ := Text.cut_eq_none_iff.1 hcut
    rw [writes_iff_of_notMem hstroke, readSpan?_eq_some_iff h]
  · next body hcut =>
    -- a step that is left out counts as none
    obtain ⟨rfl, hstroke⟩ : t = body ++ '/' :: [] ∧ '/' ∉ body := Text.cut_eq_some_iff.1 hcut
    rw [writes_step_iff hstroke, readSpan?_eq_some_iff h]
    simp [stored]
  · next body c u hcut =>
    obtain ⟨rfl, hstroke⟩ : t = body ++ '/' :: c :: u ∧ '/' ∉ body := Text.cut_eq_some_iff.1 hcut
    obtain ⟨k, hk, h⟩ := bind_eq_ok_iff.1 h
    rw [writes_step_iff hstroke]
    have hstep : ∀ step, stored.step (c :: u) step ↔ ∃ v, k = some v ∧ step = some (max v 1) := by
      intro step
      simp [readNat?_eq_some_iff hk, stored, and_comm]
    cases k with
    | none =>
      obtain rfl := pure_eq_ok_iff.1 h
      simp [hstep]
    | some k =>
      rw [readSpan?_eq_some_iff h]
      simp [hstep]

/-! ### When reading stops -/

lemma comesFrom_of_readSpan? {step : Option Nat} {e : Fault} (h : readSpan? step t = .error e) :
    e.ComesFrom t := by
  unfold readSpan? at h
  split at h
  · exact absurd h pure_ne_error
  · split at h
    · next body hcut =>
      obtain ⟨rfl, -⟩ := Text.cut_eq_none_iff.1 hcut
      rcases bind_eq_error_iff.1 h with h | ⟨v, -, h⟩
      · exact Fault.ComesFrom.of_readNat? h
      · exact absurd h pure_ne_error
    · next first last hcut =>
      obtain ⟨rfl, -⟩ := Text.cut_eq_some_iff.1 hcut
      rcases bind_eq_error_iff.1 h with h | ⟨a, -, h⟩
      · exact (Fault.ComesFrom.of_readNat? h).of_part (List.prefix_append _ _).isInfix
      · rcases bind_eq_error_iff.1 h with h | ⟨b, -, h⟩
        · exact (Fault.ComesFrom.of_readNat? h).of_part (Text.isInfix_append_cons _ _ _)
        · split at h <;> exact absurd h pure_ne_error

/-- Reading a segment stops at nothing but a run of digits that is too long. -/
theorem comesFrom_of_read? {e : Fault} (h : read? t = .error e) : e.ComesFrom t := by
  unfold read? at h
  split at h
  · next body hcut =>
    obtain ⟨rfl, -⟩ := Text.cut_eq_none_iff.1 hcut
    exact comesFrom_of_readSpan? h
  · next body hcut =>
    obtain ⟨rfl, -⟩ := Text.cut_eq_some_iff.1 hcut
    exact (comesFrom_of_readSpan? h).of_part (List.prefix_append _ _).isInfix
  · next body c u hcut =>
    obtain ⟨rfl, -⟩ := Text.cut_eq_some_iff.1 hcut
    rcases bind_eq_error_iff.1 h with h | ⟨k, -, h⟩
    · exact (Fault.ComesFrom.of_readNat? h).of_part (Text.isInfix_append_cons _ _ _)
    · cases k with
      | none => exact absurd h pure_ne_error
      | some k => exact (comesFrom_of_readSpan? h).of_part (List.prefix_append _ _).isInfix

end Segment

end Crontab
