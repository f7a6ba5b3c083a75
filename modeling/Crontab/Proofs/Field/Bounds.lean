import Crontab.Expression
import Crontab.Proofs.Answer

/-!
# Bounds of the selected numbers

Whatever a field is written as, the numbers that it selects lie within the bounds of its position,
and Sunday is among them as 0 only (`exists_stored_of_mem_values`).  Nothing has to be known about
the text for this: a step that leads out of the bounds selects nothing there, and numbers outside of
them are recorded apart.

`Expression.areRead_of_read` carries this over to expressions, also to those that stand for
an alias: their fields have been read, each at its position.
-/

namespace Crontab

/-! ## Steps -/

lemma mem_stepped {first last step v : Nat} (hstep : 0 < step) :
    v ∈ stepped first last step ↔ first ≤ v ∧ v ≤ last ∧ step ∣ v - first := by
  rw [stepped, List.mem_range']
  constructor
  · rintro ⟨i, hi, rfl⟩
    have hcount := (Nat.le_div_iff_mul_le hstep).1 (Nat.succ_le_of_lt hi)
    rw [Nat.succ_mul, Nat.mul_comm] at hcount
    exact ⟨by omega, by omega, by simp⟩
  · rintro ⟨hfirst, hlast, i, hi⟩
    refine ⟨i, Nat.lt_of_succ_le ((Nat.le_div_iff_mul_le hstep).2 ?_), by omega⟩
    rw [Nat.succ_mul, Nat.mul_comm]
    omega

lemma le_of_mem_stepped {first last step v : Nat} (h : v ∈ stepped first last step) :
    first ≤ v ∧ v ≤ last := by
  rcases Nat.eq_zero_or_pos step with rfl | hstep
  · simp [stepped] at h
  · obtain ⟨hfirst, hlast, -⟩ := (mem_stepped hstep).1 h
    exact ⟨hfirst, hlast⟩

lemma le_aligned (least first : Nat) {step : Nat} (hstep : 0 < step) :
    least ≤ aligned least first step := by
  unfold aligned
  split
  · have hup := Nat.lt_div_mul_add (a := least - first + (step - 1)) hstep
    omega
  · omega

/-! ## Segments -/

namespace Segment

/-- A number that a segment selects is stored for one within the bounds of the position. -/
lemma exists_stored_of_mem_values {p : Position} {s : Segment} {v : Nat} (h : v ∈ s.values p) :
    ∃ u, p.inBounds u = true ∧ v = p.stored u := by
  rcases s with ⟨_ | ⟨a, b⟩ | a, step⟩
  · obtain ⟨u, hu, rfl⟩ := List.mem_map.1 h
    exact ⟨u, Position.inBounds_iff.2 (le_of_mem_stepped hu), rfl⟩
  · obtain ⟨u, hu, rfl⟩ := List.mem_map.1 h
    have hbounds : aligned p.least a (step.getD 1) ≤ u ∧ u ≤ min b p.greatest :=
      le_of_mem_stepped hu
    -- a step of zero would select nothing at all
    have hstep : 0 < step.getD 1 := by
      by_contra hzero
      have hnone : stepped (aligned p.least a (step.getD 1)) (min b p.greatest) (step.getD 1) = [] := by
        simp [show step.getD 1 = 0 by omega, stepped]
      exact List.not_mem_nil (hnone ▸ hu)
    have hleast := le_aligned p.least a hstep
    exact ⟨u, Position.inBounds_iff.2 ⟨by omega, by omega⟩, rfl⟩
  · rw [values] at h
    dsimp only at h
    split at h
    · next ha =>
      cases step with
      | none => exact ⟨a, ha, by simpa using h⟩
      | some k =>
        obtain ⟨u, hu, rfl⟩ := List.mem_map.1 h
        have hbounds := le_of_mem_stepped hu
        have hleast := (Position.inBounds_iff.1 ha).1
        exact ⟨u, Position.inBounds_iff.2 ⟨by omega, hbounds.2⟩, rfl⟩
    · simp at h

end Segment

/-! ## Fields -/

namespace Position

lemma stored_of_ne_dayOfWeek {p : Position} (hp : p ≠ dayOfWeek) (v : Nat) : p.stored v = v := by
  simp [stored, hp]

lemma stored_dayOfWeek_lt {v : Nat} (h : dayOfWeek.inBounds v = true) : dayOfWeek.stored v < 7 := by
  have hv := (inBounds_iff.1 h).2
  simp only [greatest] at hv
  simp only [stored, true_and]
  split <;> omega

end Position

namespace Field

variable {p : Position} {s : Text} {f : Field}

lemma isAny_iff : f.isAny = true ↔ f.raw = "*" := by
  simp [isAny]

lemma isAny_eq_false_of_notMem (h : '*' ∉ f.raw) : f.isAny = false := by
  rw [Bool.eq_false_iff, Ne, isAny_iff]
  intro hraw
  exact h (by rw [hraw]; decide)

lemma exists_stored_of_mem_values (h : Field.read p s = .ok f) {v : Nat} (hv : v ∈ f.values) :
    ∃ u, p.inBounds u = true ∧ v = p.stored u := by
  obtain ⟨segments, -, hf⟩ := bind_eq_ok_iff.1 h
  rw [← pure_eq_ok_iff.1 hf, mem_ascending, List.mem_flatMap] at hv
  obtain ⟨segment, -, hv⟩ := hv
  exact Segment.exists_stored_of_mem_values hv

/-- Outside of the day of the week, what is selected lies within the bounds as it is stored. -/
lemma bounds_of_mem_values (h : Field.read p s = .ok f) (hp : p ≠ .dayOfWeek) {v : Nat}
    (hv : v ∈ f.values) : p.least ≤ v ∧ v ≤ p.greatest := by
  obtain ⟨u, hu, rfl⟩ := exists_stored_of_mem_values h hv
  rw [Position.stored_of_ne_dayOfWeek hp]
  exact Position.inBounds_iff.1 hu

lemma lt_seven_of_mem_values (h : Field.read .dayOfWeek s = .ok f) {v : Nat} (hv : v ∈ f.values) :
    v < 7 := by
  obtain ⟨u, hu, rfl⟩ := exists_stored_of_mem_values h hv
  exact Position.stored_dayOfWeek_lt hu

end Field

/-! ## Expressions -/

namespace Fields

variable {f : Fields}

/-- Fields that have been read have been read one by one. -/
lemma exists_read_of_read {m h d mo w : Text} (hread : Fields.read m h d mo w = .ok f)
    (p : Position) : ∃ s ∈ [m, h, d, mo, w], Field.read p s = .ok (f.get p) := by
  obtain ⟨minute, hminute, hread⟩ := bind_eq_ok_iff.1 hread
  obtain ⟨hour, hhour, hread⟩ := bind_eq_ok_iff.1 hread
  obtain ⟨dayOfMonth, hdayOfMonth, hread⟩ := bind_eq_ok_iff.1 hread
  obtain ⟨month, hmonth, hread⟩ := bind_eq_ok_iff.1 hread
  obtain ⟨dayOfWeek, hdayOfWeek, hread⟩ := bind_eq_ok_iff.1 hread
  rw [← pure_eq_ok_iff.1 hread]
  cases p
  · exact ⟨m, by simp, hminute⟩
  · exact ⟨h, by simp, hhour⟩
  · exact ⟨d, by simp, hdayOfMonth⟩
  · exact ⟨mo, by simp, hmonth⟩
  · exact ⟨w, by simp, hdayOfWeek⟩

/-- Each field has been read at its position. -/
def AreRead (f : Fields) : Prop := ∀ p, ∃ s, Field.read p s = .ok (f.get p)

namespace AreRead

lemma bounds (h : f.AreRead) {p : Position} (hp : p ≠ .dayOfWeek) {v : Nat}
    (hv : v ∈ (f.get p).values) : p.least ≤ v ∧ v ≤ p.greatest := by
  obtain ⟨s, hs⟩ := h p
  exact Field.bounds_of_mem_values hs hp hv

lemma weekday_lt (h : f.AreRead) {v : Nat} (hv : v ∈ f.dayOfWeek.values) : v < 7 := by
  obtain ⟨s, hs⟩ := h .dayOfWeek
  exact Field.lt_seven_of_mem_values hs hv

end AreRead

end Fields

/-- Fields that were found in a text have been read from words of it. -/
lemma Content.exists_word_of_ofFields {s : Text} {f : Fields} {ignored : Bool}
    (h : Content.ofFields s = .ok (.timed f ignored)) (p : Position) :
    ∃ w ∈ Text.words s, Field.read p w = .ok (f.get p) := by
  unfold ofFields at h
  split at h
  · next hwords =>
    obtain ⟨f', hf', h⟩ := bind_eq_ok_iff.1 h
    obtain ⟨rfl, -⟩ := Content.timed.inj (pure_eq_ok_iff.1 h)
    rw [hwords]
    exact Fields.exists_read_of_read hf' p
  · next hwords =>
    obtain ⟨f', hf', h⟩ := bind_eq_ok_iff.1 h
    obtain ⟨rfl, -⟩ := Content.timed.inj (pure_eq_ok_iff.1 h)
    obtain ⟨w, hw, hread⟩ := Fields.exists_read_of_read hf' p
    exact ⟨w, hwords ▸ List.mem_cons_of_mem _ hw, hread⟩
  · simp [pure, Except.pure] at h

lemma Content.exists_word_of_ofAlias {s : Text} {f : Fields} {ignored : Bool}
    (h : Content.ofAlias s = .ok (.timed f ignored)) (p : Position) :
    ∃ t, ∃ w ∈ Text.words t, Field.read p w = .ok (f.get p) := by
  unfold ofAlias at h
  split at h
  · simp [pure, Except.pure] at h
  · simp [pure, Except.pure] at h
  · exact ⟨_, exists_word_of_ofFields h p⟩

namespace Expression

variable {e : Expression} {f : Fields}

lemma content_of_schedule? (h : e.schedule? = some f) :
    ∃ ignored, e.content = .timed f ignored ∧ f.errors = [] := by
  unfold schedule? at h
  split at h
  · next g ignored hcontent =>
    split at h
    · next herrors =>
      obtain rfl := Option.some.inj h
      exact ⟨ignored, hcontent, List.isEmpty_iff.1 herrors⟩
    · simp at h
  · simp at h

/-- Each field of an expression has been read from a word: of the text itself, or of the expression
that an alias stands for. -/
lemma exists_word_of_read {s : Text} (hread : Expression.read s = .ok e)
    (hf : e.schedule? = some f) (p : Position) :
    ∃ t, ∃ w ∈ Text.words t, Field.read p w = .ok (f.get p) := by
  obtain ⟨ignored, hcontent, -⟩ := content_of_schedule? hf
  unfold read at hread
  split at hread
  all_goals
    obtain ⟨content, hc, he⟩ := bind_eq_ok_iff.1 hread
    obtain rfl := pure_eq_ok_iff.1 he
    obtain rfl : content = .timed f ignored := hcontent
  · exact Content.exists_word_of_ofAlias hc p
  · exact ⟨s, Content.exists_word_of_ofFields hc p⟩

/-- The fields of an expression that has been read have been read. -/
theorem areRead_of_read {s : Text} (hread : Expression.read s = .ok e)
    (hf : e.schedule? = some f) : f.AreRead := fun p => by
  obtain ⟨t, w, -, hw⟩ := exists_word_of_read hread hf p
  exact ⟨w, hw⟩

end Expression

end Crontab
