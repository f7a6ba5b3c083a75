import Crontab.Proofs.Field.Bounds
import Crontab.Proofs.Field.Grammar

/-!
# What a field means

The meaning of a field, apart from how it is computed.  A segment selects a number when the number is
within the bounds and is reached in steps (`Segment.Selects`); a field holds the numbers that some
segment of it selects, and it records what cannot be used, piece by piece (`Field.IsMeaning`).  A text
has one meaning at most at a position (`Field.IsMeaning.unique`).

`Field.read_meaning` says that reading computes the meaning, whatever the text, unless a run of more
than `digitLimit` digits stands in the text once names have been replaced.  Such a run need not stand
in the text that was given: `Field.sundays_stop` is a text without any digit that stops the reading.
-/

namespace Crontab

/-! ## Segments -/

/-- The numbers that a span is written with. -/
def Span.literals : Span → List ℕ
  | .all => []
  | .range a b => [a, b]
  | .single a => [a]

namespace Segment

variable {p : Position} {g : Segment} {v : ℕ}

/-- The number is selected by the segment.  The bounds of the position are the bounds of what can be
selected, but the steps of a range are counted from its first number, wherever that is. -/
def Selects (p : Position) (g : Segment) (v : ℕ) : Prop :=
  p.inBounds v = true ∧
    match g.span, g.step with
    | .all, step => ∃ i, v = p.least + i * step.getD 1
    | .range a b, step => a ≤ v ∧ v ≤ b ∧ step.getD 1 ∣ v - a
    | .single a, none => v = a
    | .single a, some k => p.inBounds a = true ∧ a ≤ v ∧ k ∣ v - a

/-- `*` selects the least number whatever its step. -/
lemma selects_least (p : Position) (step : Option ℕ) : Selects p ⟨.all, step⟩ p.least := by
  have hbounds : p.least ≤ p.greatest := by cases p <;> decide
  exact ⟨Position.inBounds_iff.2 ⟨le_rfl, hbounds⟩, 0, by simp⟩

lemma outOfRange_eq (p : Position) (g : Segment) :
    g.outOfRange p = g.span.literals.filter fun v => !p.inBounds v := by
  rcases g with ⟨_ | ⟨a, b⟩ | a, step⟩ <;> rfl

/-- A first number below the bounds is moved up by whole steps. -/
lemma exists_aligned_eq (least first : ℕ) {step : ℕ} (hstep : 0 < step) :
    ∃ i, aligned least first step = first + i * step ∧
      (i = 0 ∨ aligned least first step < least + step) := by
  unfold aligned
  split
  · refine ⟨_, rfl, .inr ?_⟩
    have hdown := Nat.div_mul_le_self (least - first + (step - 1)) step
    omega
  · exact ⟨0, by simp, .inl rfl⟩

/-- Moving the first number into the bounds loses nothing there. -/
lemma mem_stepped_aligned {least first last step : ℕ} (hstep : 0 < step) :
    v ∈ stepped (aligned least first step) last step ↔
      least ≤ v ∧ first ≤ v ∧ v ≤ last ∧ step ∣ v - first := by
  obtain ⟨i, hi, hnear⟩ := exists_aligned_eq least first hstep
  have hleast := le_aligned least first hstep
  rw [mem_stepped hstep]
  constructor
  · rintro ⟨hv, hlast, hdvd⟩
    refine ⟨by omega, by omega, hlast, ?_⟩
    have hsplit : v - first = (v - aligned least first step) + i * step := by omega
    rw [hsplit]
    exact Nat.dvd_add hdvd (Nat.dvd_mul_left step i)
  · rintro ⟨hv, hfirst, hlast, hdvd⟩
    -- the aligned number is less than a step behind the least one, and so not behind `v`
    have hreached : aligned least first step ≤ v := by
      by_contra hpassed
      obtain ⟨k, hk⟩ := hdvd
      have hki : step * k < i * step := by omega
      have hlt : k < i := Nat.lt_of_mul_lt_mul_left (Nat.mul_comm i step ▸ hki)
      have hnext : (k + 1) * step ≤ i * step := Nat.mul_le_mul_right step hlt
      rw [Nat.succ_mul, Nat.mul_comm k step] at hnext
      rcases hnear with rfl | hnear <;> omega
    refine ⟨hreached, hlast, ?_⟩
    have hsplit : v - aligned least first step = (v - first) - i * step := by omega
    rw [hsplit]
    exact Nat.dvd_sub hdvd (Nat.dvd_mul_left step i)

/-- The values of a segment are what it selects, as it is stored. -/
theorem mem_values_iff (hstep : 0 < g.step.getD 1) :
    v ∈ g.values p ↔ ∃ u, g.Selects p u ∧ p.stored u = v := by
  rcases g with ⟨_ | ⟨a, b⟩ | a, step⟩
  · simp only [values, Selects, List.mem_map, mem_stepped hstep, Position.inBounds_iff]
    refine exists_congr fun u => and_congr_left fun _ => ?_
    constructor
    · rintro ⟨hfirst, hlast, i, hi⟩
      exact ⟨⟨hfirst, hlast⟩, i, by rw [Nat.mul_comm i]; omega⟩
    · rintro ⟨⟨hfirst, hlast⟩, i, rfl⟩
      exact ⟨hfirst, hlast, by simp⟩
  · simp only [values, Selects, List.mem_map, mem_stepped_aligned hstep, Position.inBounds_iff,
      le_min_iff]
    refine exists_congr fun u => and_congr_left fun _ => ?_
    tauto
  · by_cases ha : p.inBounds a = true
    · cases step with
      | none =>
        rw [show values p ⟨.single a, none⟩ = [p.stored a] by simp [values, ha], List.mem_singleton]
        constructor
        · rintro rfl
          exact ⟨a, ⟨ha, rfl⟩, rfl⟩
        · rintro ⟨u, ⟨-, rfl⟩, rfl⟩
          rfl
      | some k =>
        have hvalues : values p ⟨.single a, some k⟩ = (stepped a p.greatest k).map p.stored := by
          simp [values, ha]
        have hleast := (Position.inBounds_iff.1 ha).1
        rw [hvalues, List.mem_map]
        refine exists_congr fun u => and_congr_left fun _ => ?_
        rw [mem_stepped (show 0 < k from hstep), Selects, Position.inBounds_iff]
        constructor
        · rintro ⟨hfirst, hlast, hdvd⟩
          exact ⟨⟨hleast.trans hfirst, hlast⟩, ha, hfirst, hdvd⟩
        · rintro ⟨⟨-, hlast⟩, -, hfirst, hdvd⟩
          exact ⟨hfirst, hlast, hdvd⟩
    · -- a number outside the bounds selects nothing, with a step or without one
      have hvalues : values p ⟨.single a, step⟩ = [] := by simp [values, ha]
      rw [hvalues]
      refine iff_of_false List.not_mem_nil ?_
      rintro ⟨u, ⟨hu, hsingle⟩, -⟩
      cases step with
      | none => exact ha (hsingle ▸ hu)
      | some k => exact ha hsingle.1

end Segment

/-- A step that is written advances. -/
lemma Spelling.Writes.step_pos {t : Text} {g : Segment} (h : Spelling.stored.Writes t g) :
    0 < g.step.getD 1 := by
  cases h with
  | plain => exact Nat.one_pos
  | stepped _ hs =>
    rcases hs with ⟨-, rfl⟩ | ⟨-, rfl⟩
    · exact Nat.one_pos
    · exact Nat.lt_of_lt_of_le Nat.one_pos (Nat.le_max_right _ _)

/-! ## Fields -/

namespace Field

open Spelling

variable {p : Position} {s : Text} {f : Field}

/-- What is recorded about the pieces of a field, one after the other: the numbers outside the bounds
that its segments are written with, and the pieces that are no segments. -/
inductive Records (p : Position) : List Text → List ℕ → List Text → Prop
  | nil : Records p [] [] []
  | segment {t : Text} {ts : List Text} {g : Segment} {outside : List ℕ} {unread : List Text}
    (ht : stored.Writes t g) (h : Records p ts outside unread) :
    Records p (t :: ts) ((g.span.literals.filter fun v => !p.inBounds v) ++ outside) unread
  | other {t : Text} {ts : List Text} {outside : List ℕ} {unread : List Text}
    (ht : ∀ g, ¬ stored.Writes t g) (h : Records p ts outside unread) :
    Records p (t :: ts) outside (t :: unread)

/-- The field is what the text means at the position. -/
structure IsMeaning (p : Position) (s : Text) (f : Field) : Prop where
  raw : f.raw = normalize p s
  sorted : f.values.Pairwise (· < ·)
  mem_values : ∀ v, v ∈ f.values ↔
    ∃ t ∈ Text.pieces ',' (normalize p s), ∃ g, stored.Writes t g ∧
      ∃ u, g.Selects p u ∧ p.stored u = v
  recorded : Records p (Text.pieces ',' (normalize p s)) f.outOfRange f.invalid

lemma Records.unique {ts : List Text} {outside outside' : List ℕ} {unread unread' : List Text}
    (h : Records p ts outside unread) (h' : Records p ts outside' unread') :
    outside = outside' ∧ unread = unread' := by
  induction h generalizing outside' unread' with
  | nil =>
    cases h'
    exact ⟨rfl, rfl⟩
  | segment ht _ ih =>
    cases h' with
    | segment ht' h' =>
      obtain ⟨rfl, rfl⟩ := ih h'
      rw [ht.unique isFunctional_stored ht']
      exact ⟨rfl, rfl⟩
    | other ht' => exact absurd ht (ht' _)
  | other ht _ ih =>
    cases h' with
    | segment ht' => exact absurd ht' (ht _)
    | other _ h' =>
      obtain ⟨rfl, rfl⟩ := ih h'
      exact ⟨rfl, rfl⟩

/-- A text has one meaning at most. -/
theorem IsMeaning.unique {g : Field} (hf : f.IsMeaning p s) (hg : g.IsMeaning p s) : f = g := by
  have hvalues : f.values = g.values :=
    hf.sorted.eq_of_mem_iff hg.sorted fun v => (hf.mem_values v).trans (hg.mem_values v).symm
  obtain ⟨houtside, hunread⟩ := hf.recorded.unique hg.recorded
  have hraw : f.raw = g.raw := hf.raw.trans hg.raw.symm
  cases f
  cases g
  simp_all

/-! ### What reading records -/

/-- The pieces of a text with what each of them is read as. -/
lemma records_of_forall₂ {ts : List Text} {found : List (Option Segment)}
    (h : List.Forall₂ (fun t o => Segment.read? t = .ok o) ts found) :
    Records p ts ((found.filterMap id).flatMap (Segment.outOfRange p))
      ((ts.zip found).filterMap fun x => if x.2.isNone then some x.1 else none) := by
  induction h with
  | nil => exact .nil
  | @cons t o ts found ht _ ih =>
    cases o with
    | none =>
      refine .other (fun g hg => ?_) ih
      exact absurd ((Segment.read?_eq_some_iff ht).2 hg) (by simp)
    | some g =>
      have hrecord := Records.segment ((Segment.read?_eq_some_iff ht).1 rfl) ih
      rw [← Segment.outOfRange_eq] at hrecord
      exact hrecord

/-- What is found are the segments that the pieces are written for. -/
lemma mem_found_iff {ts : List Text} {found : List (Option Segment)}
    (h : List.Forall₂ (fun t o => Segment.read? t = .ok o) ts found) (g : Segment) :
    some g ∈ found ↔ ∃ t ∈ ts, stored.Writes t g := by
  induction h with
  | nil => simp
  | cons ht _ ih =>
    rw [List.mem_cons, List.exists_mem_cons_iff, ih, eq_comm, Segment.read?_eq_some_iff ht]

lemma mem_values_of_forall₂ {ts : List Text} {found : List (Option Segment)}
    (h : List.Forall₂ (fun t o => Segment.read? t = .ok o) ts found) (v : ℕ) :
    v ∈ (found.filterMap id).flatMap (Segment.values p) ↔
      ∃ t ∈ ts, ∃ g, stored.Writes t g ∧ ∃ u, g.Selects p u ∧ p.stored u = v := by
  rw [List.mem_flatMap]
  constructor
  · rintro ⟨g, hg, hv⟩
    obtain ⟨o, ho, rfl⟩ := List.mem_filterMap.1 hg
    obtain ⟨t, ht, hwrites⟩ := (mem_found_iff h g).1 ho
    exact ⟨t, ht, g, hwrites, (Segment.mem_values_iff hwrites.step_pos).1 hv⟩
  · rintro ⟨t, ht, g, hwrites, hv⟩
    refine ⟨g, List.mem_filterMap.2 ⟨some g, (mem_found_iff h g).2 ⟨t, ht, hwrites⟩, rfl⟩, ?_⟩
    exact (Segment.mem_values_iff hwrites.step_pos).2 hv

/-- A field that is read is the meaning of its text. -/
theorem isMeaning_of_read (h : Field.read p s = .ok f) : f.IsMeaning p s := by
  obtain ⟨found, hfound, hf⟩ := bind_eq_ok_iff.1 h
  rw [← pure_eq_ok_iff.1 hf]
  have hpieces := mapM_eq_ok_iff.1 hfound
  exact {
    raw := rfl
    sorted := pairwise_ascending _
    mem_values := fun v => mem_ascending.trans (mem_values_of_forall₂ hpieces v)
    recorded := records_of_forall₂ hpieces }

/-- Reading a field stops at nothing but a run of digits that is too long, in the text with numbers for
names. -/
theorem comesFrom_of_read {e : Fault} (h : Field.read p s = .error e) :
    e.ComesFrom (normalize p s) := by
  rcases bind_eq_error_iff.1 h with h | ⟨found, -, h⟩
  · obtain ⟨t, ht, hstop⟩ := exists_of_mapM_eq_error h
    exact (Segment.comesFrom_of_read? hstop).of_part (Text.isInfix_of_mem_pieces ht)
  · exact absurd h pure_ne_error

/-! ### How long runs can get -/

/-- Replacing names does not make runs longer: a number has no more digits than its name has letters. -/
lemma runsWithin_replaceNames {n : ℕ} (h : Text.RunsWithin Char.isAlphanum n s) :
    Text.RunsWithin Char.isAlphanum n (replaceNames p s) := by
  have hnames : ∀ m ∈ p.names, m.1 ≠ [] ∧ (∀ c ∈ m.1, c.isAlphanum = true) ∧
      (natText m.2).length ≤ m.1.length := by
    cases p <;> decide
  unfold replaceNames
  generalize p.names = names at hnames
  induction names generalizing s with
  | nil => exact h
  | cons m names ih =>
    obtain ⟨hne, hmark, hlength⟩ := hnames m List.mem_cons_self
    exact ih (h.replaceAll hne hmark hlength) fun x hx => hnames x (List.mem_cons_of_mem m hx)

/-- Without names there are no more digits than were given. -/
lemma runsWithin_normalize_of_names {n : ℕ} (hp : p.names = [])
    (h : Text.RunsWithin Char.isDigit n s) : Text.RunsWithin Char.isDigit n (normalize p s) := by
  rw [normalize, replaceNames, hp]
  exact (h.of_imp fun c _ => Text.isDigit_of_lowersTo).lower ⟨by decide, by decide⟩

lemma runsWithin_normalize {n : ℕ} (h : Text.RunsWithin (Text.lowersTo Char.isAlphanum) n s) :
    Text.RunsWithin Char.isDigit n (normalize p s) :=
  (runsWithin_replaceNames (h.lower ⟨by decide, by decide⟩)).of_imp fun c _ hc => by
    simp [Char.isAlphanum, hc]

/-- A text whose runs of digits are short enough once names have been replaced is read. -/
lemma exists_read {s : Text} (h : Text.RunsWithin Char.isDigit digitLimit (normalize p s)) :
    ∃ f, Field.read p s = .ok f := by
  cases hread : Field.read p s with
  | ok f => exact ⟨f, rfl⟩
  | error e => exact absurd h (comesFrom_of_read hread).not_runsWithin

/-- **Reading a field computes what it means.**  When a text is read as a field, then the field is its
meaning and nothing else is; when the reading stops, a run of too many digits stands in the text with
numbers for names.  Where there are no names, no such run comes up unless it is there from the
beginning; where there are, short runs of letters and digits are enough. -/
theorem read_meaning (p : Position) (s : Text) :
    (∀ f, Field.read p s = .ok f → ∀ g : Field, g.IsMeaning p s ↔ g = f) ∧
    (∀ e, Field.read p s = .error e → e.ComesFrom (normalize p s)) ∧
    (p.names = [] → Text.RunsWithin Char.isDigit digitLimit s → ∃ f, Field.read p s = .ok f) ∧
    (Text.RunsWithin (Text.lowersTo Char.isAlphanum) digitLimit s →
      ∃ f, Field.read p s = .ok f) := by
  refine ⟨fun f hf g => ⟨fun hg => ?_, fun hg => hg ▸ isMeaning_of_read hf⟩,
    fun e => comesFrom_of_read, fun hp h => ?_, fun h => ?_⟩
  · exact hg.unique (isMeaning_of_read hf)
  · exact exists_read (runsWithin_normalize_of_names hp h)
  · exact exists_read (runsWithin_normalize h)

/-- A name, a range with a step that leaves the week, and a piece that is no segment. -/
theorem read_meaning_mixed :
    let s : Text := "Sun,1-9/3,x"
    let f : Field := ⟨"0,1-9/3,x", [0, 1, 4], [9], ["x"]⟩
    Field.read .dayOfWeek s = .ok f ∧ f.IsMeaning .dayOfWeek s := by
  intro s f
  have h : Field.read .dayOfWeek s = .ok f := rfl
  exact ⟨h, ((read_meaning .dayOfWeek s).1 f h f).2 rfl⟩

/-! ### Digits that were not written -/

/-- The name of Sunday, several times. -/
def sundays : ℕ → Text
  | 0 => []
  | n + 1 => "sun" ++ sundays n

lemma chars_of_mem_sundays {n : ℕ} {c : Char} (hc : c ∈ sundays n) :
    c.isDigit = false ∧ c.toNat < 128 ∧ c.toLower = c := by
  induction n with
  | zero => simp [sundays] at hc
  | succ n ih =>
    have hname : ∀ c ∈ ("sun" : Text), c.isDigit = false ∧ c.toNat < 128 ∧ c.toLower = c := by decide
    exact (List.mem_append.1 hc).elim (hname c) ih

lemma replaceAll_sundays (n : ℕ) : Text.replaceAll "sun" "0" (sundays n) = List.replicate n '0' := by
  induction n with
  | zero => rfl
  | succ n ih => exact congrArg (List.cons '0') ih

lemma normalize_sundays (n : ℕ) : normalize .dayOfWeek (sundays n) = List.replicate n '0' := by
  have hlower : Text.lower (sundays n) = sundays n := by
    rw [Text.lower_of_ascii fun c hc => (chars_of_mem_sundays hc).2.1]
    exact (List.map_congr_left fun c hc => (chars_of_mem_sundays hc).2.2).trans (List.map_id _)
  have hzeros : replaceNames .dayOfWeek (List.replicate n '0') = List.replicate n '0' :=
    replaceNames_of_chars fun c hc => by rw [List.eq_of_mem_replicate hc]; decide
  have honce : Text.replaceAll "sun" "0" (List.replicate n '0') = List.replicate n '0' :=
    Text.replaceAll_of_notMem fun h => absurd (List.eq_of_mem_replicate h) (by decide)
  -- the name of Sunday is the first that is replaced, and behind it there are no letters left
  have hfirst : replaceNames .dayOfWeek (sundays n) =
      replaceNames .dayOfWeek (Text.replaceAll "sun" "0" (sundays n)) := by
    obtain ⟨names, hnames⟩ : ∃ names, Position.dayOfWeek.names = ("sun".toList, 0) :: names := ⟨_, rfl⟩
    have hzero : natText 0 = "0" := rfl
    rw [replaceNames, replaceNames, hnames, List.foldl_cons, List.foldl_cons, hzero,
      replaceAll_sundays, honce]
  rw [normalize, hlower, hfirst, replaceAll_sundays, hzeros]

lemma isDigits_zeros (n : ℕ) : Text.isDigits (List.replicate (n + 1) '0') = true :=
  Text.isDigits_iff.2 ⟨by simp, fun c hc => by rw [List.eq_of_mem_replicate hc]; decide⟩

/-- However often the name of Sunday is written, the field means Sunday. -/
lemma isMeaning_sundays (n : ℕ) :
    (⟨List.replicate (n + 1) '0', [0], [], []⟩ : Field).IsMeaning .dayOfWeek (sundays (n + 1)) := by
  have hzero : '0' ≠ ',' := by decide
  have hdigits := isDigits_zeros n
  have htrim : Text.trim (List.replicate (n + 1) '0') = List.replicate (n + 1) '0' :=
    Text.trim_of_noBlank (noBlank_of_isDigits hdigits)
  have hwrites : stored.Writes (List.replicate (n + 1) '0') ⟨.single 0, none⟩ := by
    refine .plain (.single ⟨?_, ?_⟩)
    · rw [htrim, hdigits]
    · rw [htrim, digitsValue_zeros]
  -- the stored text is a single numeral, though of many zeros
  have hpieces : Text.pieces ',' (normalize .dayOfWeek (sundays (n + 1))) =
      [List.replicate (n + 1) '0'] := by
    rw [normalize_sundays]
    exact Text.pieces_of_notMem fun h => hzero (List.eq_of_mem_replicate h).symm
  refine ⟨(normalize_sundays _).symm, List.pairwise_singleton _ _, fun v => ?_, ?_⟩
  · rw [hpieces]
    constructor
    · intro hv
      obtain rfl := List.mem_singleton.1 hv
      exact ⟨_, List.mem_singleton_self _, _, hwrites, 0, ⟨by decide, rfl⟩, rfl⟩
    · rintro ⟨t, ht, g, hg, u, hu, rfl⟩
      obtain rfl := List.mem_singleton.1 ht
      obtain rfl := hwrites.unique isFunctional_stored hg
      rw [show u = 0 from hu.2]
      exact List.mem_singleton_self _
  · rw [hpieces]
    exact .segment hwrites .nil

/-- One zero too many stops the reading. -/
lemma read_of_normalize_zeros (h : normalize p s = List.replicate 4301 '0') :
    Field.read p s = .error (.numeralTooLong 4301) := by
  have hdigits := isDigits_zeros 4300
  have hread : Segment.read? (List.replicate 4301 '0') = .error (.numeralTooLong 4301) := by
    rw [Segment.read?_of_notMem (Segment.notMem_of_isDigits hdigits (by decide)),
      Segment.readSpan?_digits hdigits, readDigits, List.length_replicate]
    rfl
  rw [Field.read, h, Text.pieces_of_notMem (Segment.notMem_of_isDigits hdigits (by decide)),
    List.mapM_cons, hread]
  rfl

/-- A text without any digit can stop the reading: its names are replaced by digits that make one
number, and as a number these are too many, although their meaning is plain. -/
theorem sundays_stop :
    Text.RunsWithin Char.isDigit digitLimit (sundays 4301) ∧
    (∃ f : Field, f.IsMeaning .dayOfWeek (sundays 4301)) ∧
    Field.read .dayOfWeek (sundays 4301) = .error (.numeralTooLong 4301) :=
  ⟨Text.runsWithin_of_forall fun _ hc => (chars_of_mem_sundays hc).1,
    ⟨_, isMeaning_sundays 4300⟩, read_of_normalize_zeros (normalize_sundays 4301)⟩

end Field

end Crontab
