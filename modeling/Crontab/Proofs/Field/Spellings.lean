import Crontab.Proofs.Field.Meaning
import Crontab.Proofs.Field.Names

/-!
# How fields may be written

Two spellings of the same segments.  In the *documented* one a number is a run of digits or one name,
and a step is a run of digits.  The *tolerated* one is what is accepted: names are replaced wherever
they stand, so that a number may also be names and digits in one (`janfeb`, `sun1`), and so may a step,
which may even be left empty.

`Field.isSound_iff` says that a field is sound exactly when its text is written in the tolerated
spelling, and `Field.mem_values_iff` that it then holds what its segments select, so that each name
counts for its own number.  Every documented text is tolerated (`writes_tolerated`); a tolerated text is
documented when no letters and digits touch that make more than one name (`Field.IsPlain`).
-/

namespace Crontab

/-! ## Lists that are written entry by entry -/

namespace Spelling

variable {w w' : Spelling} {t : Text} {g : Segment}

/-- The text is a list of segments. -/
def WritesField (w : Spelling) (t : Text) (gs : List Segment) : Prop :=
  List.Forall₂ w.Writes (Text.pieces ',' t) gs

lemma WritesSpan.mono (hnumber : ∀ t v, w.number t v → w'.number t v) {span : Span}
    (h : w.WritesSpan t span) : w'.WritesSpan t span := by
  cases h with
  | all => exact .all
  | single ht => exact .single (hnumber _ _ ht)
  | range hs ht => exact .range (hnumber _ _ hs) (hnumber _ _ ht)

/-- What is written in one spelling is written in every spelling that allows more. -/
lemma Writes.mono (hnumber : ∀ t v, w.number t v → w'.number t v)
    (hstep : ∀ t k, w.step t k → w'.step t k) (h : w.Writes t g) : w'.Writes t g := by
  cases h with
  | plain ht => exact .plain (ht.mono hnumber)
  | stepped ht hs => exact .stepped (ht.mono hnumber) (hstep _ _ hs)

end Spelling

/-- What holds for the marks, for numbers and for steps holds for every character of a segment. -/
lemma Spelling.Writes.forall_mem {w : Spelling} {P : Char → Prop} {t : Text} {g : Segment}
    (hmarks : P '*' ∧ P '-' ∧ P '/') (hnumber : ∀ t v, w.number t v → ∀ c ∈ t, P c)
    (hstep : ∀ t k, w.step t k → ∀ c ∈ t, P c) (h : w.Writes t g) : ∀ c ∈ t, P c := by
  have hspan : ∀ t span, w.WritesSpan t span → ∀ c ∈ t, P c := by
    intro t span ht
    cases ht with
    | all => simpa using hmarks.1
    | single ht => exact hnumber _ _ ht
    | range hs ht =>
      rw [List.forall_mem_append, List.forall_mem_cons]
      exact ⟨hnumber _ _ hs, hmarks.2.1, hnumber _ _ ht⟩
  cases h with
  | plain ht => exact hspan _ _ ht
  | stepped ht hs =>
    rw [List.forall_mem_append, List.forall_mem_cons]
    exact ⟨hspan _ _ ht, hmarks.2.2, hstep _ _ hs⟩

/-! ## Two spellings -/

lemma isAlphanum_of_glued {p : Position} {t d : Text} (h : Glued p.names t d) :
    ∀ c ∈ t, c.isAlphanum = true := by
  have hnames : ∀ n ∈ p.names, ∀ c ∈ n.1, c.isAlphanum = true := by
    cases p <;> decide
  induction h with
  | nil => simp
  | digit hc _ ih => exact List.forall_mem_cons.2 ⟨by simp [Char.isAlphanum, hc], ih⟩
  | name hn _ ih => exact List.forall_mem_append.2 ⟨hnames _ hn, ih⟩

namespace Position

variable {p : Position} {t : Text} {d : Text} {v : ℕ}

/-- The text, in any case, is names and digits one after the other, and these are the digits. -/
def Spells (p : Position) (t d : Text) : Prop := Glued p.names (t.map Char.toLower) d

namespace Spells

lemma isAlphanum_of_mem (h : p.Spells t d) : ∀ c ∈ t, c.isAlphanum = true := fun c hc =>
  Text.isAlphanum_of_toLower (isAlphanum_of_glued h _ (List.mem_map.2 ⟨c, hc, rfl⟩))

lemma apart (h : p.Spells t d) : '*' ∉ t ∧ '-' ∉ t ∧ '/' ∉ t := by
  have hnone : ∀ c : Char, c.isAlphanum = false → c ∉ t := fun c hc hmem => by
    rw [h.isAlphanum_of_mem c hmem] at hc
    simp at hc
  exact ⟨hnone _ (by decide), hnone _ (by decide), hnone _ (by decide)⟩

lemma of_isDigits (ht : Text.isDigits t = true) : p.Spells t t := by
  have hdigits := (Text.isDigits_iff.1 ht).2
  have hlower : t.map Char.toLower = t :=
    (List.map_congr_left fun c hc => (plain_of_isFieldChar (isFieldChar_of_isDigit
      (hdigits c hc))).2.1).trans (List.map_id t)
  have h : Glued p.names (t ++ []) (t ++ []) := .digits hdigits .nil
  rw [List.append_nil] at h
  rwa [Spells, hlower]

lemma of_name (ht : (t.map Char.toLower, v) ∈ p.names) : p.Spells t (natText v) := by
  have h : Glued p.names (t.map Char.toLower ++ []) (natText v ++ []) := .name ht .nil
  rwa [List.append_nil, List.append_nil] at h

/-- Names and digits are read in one way only. -/
lemma unique {d' : Text} (h : p.Spells t d) (h' : p.Spells t d') : d = d' :=
  (glued_iff.1 h).1.symm.trans (glued_iff.1 h').1

end Spells

/-- A number as it is documented: a run of digits, or one name of the position in any case. -/
def IsAtom (p : Position) (t : Text) (v : ℕ) : Prop :=
  Text.isDigits t = true ∧ digitsValue t = v ∨ (t.map Char.toLower, v) ∈ p.names

lemma IsAtom.spells (h : p.IsAtom t v) : ∃ d, p.Spells t d ∧ d ≠ [] ∧ digitsValue d = v := by
  rcases h with ⟨ht, rfl⟩ | ht
  · exact ⟨t, .of_isDigits ht, (Text.isDigits_iff.1 ht).1, rfl⟩
  · exact ⟨natText v, .of_name ht, natText_ne_nil v, digitsValue_natText v⟩

/-- Numbers within the bounds, as digits or as one name, and steps as digits. -/
def documented (p : Position) : Spelling where
  number t v := p.IsAtom t v ∧ p.inBounds v = true
  step t k := Text.isDigits t = true ∧ k = some (max (digitsValue t) 1)
  apart h := by
    obtain ⟨d, hd, -⟩ := h.1.spells
    exact hd.apart

/-- Numbers within the bounds and steps, as names and digits in one; a step may be left empty. -/
def tolerated (p : Position) : Spelling where
  number t v := (∃ d, p.Spells t d ∧ d ≠ [] ∧ digitsValue d = v) ∧ p.inBounds v = true
  step t k := ∃ d, p.Spells t d ∧ k = if d = [] then none else some (max (digitsValue d) 1)
  apart h := by
    obtain ⟨⟨d, hd, -⟩, -⟩ := h
    exact hd.apart

/-- What is documented is tolerated. -/
theorem writes_tolerated {g : Segment} (h : p.documented.Writes t g) : p.tolerated.Writes t g := by
  refine h.mono ?_ ?_
  · rintro t v ⟨ht, hbounds⟩
    exact ⟨ht.spells, hbounds⟩
  · rintro t k ⟨ht, rfl⟩
    exact ⟨t, .of_isDigits ht, by rw [if_neg (Text.isDigits_iff.1 ht).1]⟩

end Position

/-! ## The text as it is stored -/

namespace Field

variable {p : Position} {s t : Text}

lemma normalize_of_ascii (hs : ∀ c ∈ s, c.toNat < 128) :
    normalize p s = replaceNames p (s.map Char.toLower) := by
  rw [normalize, Text.lower_of_ascii hs]

/-- A mark stands in the stored text only where it was written. -/
lemma notMem_normalize {m : Char} (hm : m.isAlphanum = false) (hs : ∀ c ∈ s, c.toNat < 128)
    (h : m ∉ s) : m ∉ normalize p s := by
  rw [normalize_of_ascii hs]
  intro hmem
  rcases mem_replaceNames hmem with hmem | hdigit
  · obtain ⟨c, hc, hlower⟩ := List.mem_map.1 hmem
    exact h ((Text.toLower_eq_iff hm).1 hlower ▸ hc)
  · simp [Char.isAlphanum, hdigit] at hm

/-- The digits that a text spells are its stored form. -/
lemma spells_iff {d : Text} (hs : ∀ c ∈ s, c.toNat < 128) :
    p.Spells s d ↔ normalize p s = d ∧ ∀ c ∈ d, c.isDigit = true := by
  rw [normalize_of_ascii hs]
  exact glued_iff

/-- Replacing names leaves nothing only of nothing. -/
lemma eq_nil_of_normalize (hs : ∀ c ∈ s, c.toNat < 128) (h : normalize p s = []) : s = [] := by
  have hspells : p.Spells s [] := (spells_iff hs).2 ⟨h, by simp⟩
  generalize hd : ([] : Text) = d at hspells
  unfold Position.Spells at hspells
  generalize hu : s.map Char.toLower = u at hspells
  cases hspells with
  | nil => exact List.map_eq_nil_iff.1 hu
  | digit => simp at hd
  | name => exact absurd (List.append_eq_nil_iff.1 hd.symm).1 (natText_ne_nil _)

/-! ### Segments and their stored form -/

section Segments

variable (hs : ∀ c ∈ s, c.toNat < 128 ∧ Text.isBlank c = false)

include hs

lemma ascii_of_plain : ∀ c ∈ s, c.toNat < 128 := fun c hc => (hs c hc).1

lemma trim_normalize : Text.trim (normalize p s) = normalize p s :=
  Text.trim_of_noBlank (noBlank_normalize fun c hc => (hs c hc).2)

/-- A number that is tolerated is one whose stored form is a number within the bounds. -/
lemma number_tolerated_iff {v : ℕ} :
    p.tolerated.number s v ↔ Spelling.stored.number (normalize p s) v ∧ p.inBounds v = true := by
  have hascii := ascii_of_plain hs
  refine and_congr_left fun _ => ?_
  rw [Spelling.stored_number_iff, trim_normalize hs, Text.isDigits_iff]
  constructor
  · rintro ⟨d, hd, hne, rfl⟩
    obtain ⟨rfl, hdigits⟩ := (spells_iff hascii).1 hd
    exact ⟨⟨hne, hdigits⟩, rfl⟩
  · rintro ⟨⟨hne, hdigits⟩, rfl⟩
    exact ⟨_, (spells_iff hascii).2 ⟨rfl, hdigits⟩, hne, rfl⟩

lemma step_tolerated_iff {k : Option ℕ} :
    p.tolerated.step s k ↔ Spelling.stored.step (normalize p s) k := by
  have hascii := ascii_of_plain hs
  rw [Spelling.stored_step_iff, trim_normalize hs, Text.isDigits_iff]
  constructor
  · rintro ⟨d, hd, rfl⟩
    obtain ⟨rfl, hdigits⟩ := (spells_iff hascii).1 hd
    by_cases hnil : normalize p s = []
    · exact .inl ⟨hnil, by rw [if_pos hnil]⟩
    · exact .inr ⟨⟨hnil, hdigits⟩, by rw [if_neg hnil]⟩
  · rintro (⟨hnil, rfl⟩ | ⟨⟨hne, hdigits⟩, rfl⟩)
    · exact ⟨[], (spells_iff hascii).2 ⟨hnil, by simp⟩, rfl⟩
    · exact ⟨_, (spells_iff hascii).2 ⟨rfl, hdigits⟩, by rw [if_neg hne]⟩

end Segments

lemma normalize_star : normalize p ['*'] = ['*'] := normalize_of_chars (by decide)

/-- Only `*` is stored as `*`. -/
lemma eq_star_of_normalize (hs : ∀ c ∈ s, c.toNat < 128) (h : normalize p s = ['*']) :
    s = ['*'] := by
  have hstar : '*' ∈ s := by
    by_contra hnone
    exact notMem_normalize (by decide) hs hnone (h ▸ List.mem_singleton_self _)
  obtain ⟨a, b, rfl⟩ := List.append_of_mem hstar
  rw [List.forall_mem_append, List.forall_mem_cons] at hs
  rw [normalize_append (by decide) hs.1 hs.2.2, List.append_eq_singleton_iff] at h
  rcases h with ⟨ha, hb⟩ | ⟨-, hb⟩
  · rw [eq_nil_of_normalize hs.1 ha, eq_nil_of_normalize hs.2.2 (List.cons.inj hb).2]
    rfl
  · simp at hb

lemma writesSpan_tolerated_iff (hs : ∀ c ∈ s, c.toNat < 128 ∧ Text.isBlank c = false) {span : Span} :
    p.tolerated.WritesSpan s span ↔
      Spelling.stored.WritesSpan (normalize p s) span ∧ ∀ v ∈ span.literals, p.inBounds v = true := by
  have hascii := ascii_of_plain hs
  by_cases hstar : s = ['*']
  · subst hstar
    rw [normalize_star, Spelling.writesSpan_star_iff, Spelling.writesSpan_star_iff]
    constructor
    · rintro rfl
      exact ⟨rfl, by simp [Span.literals]⟩
    · exact fun h => h.1
  · -- only `*` is stored as `*`
    have hstored : normalize p s ≠ ['*'] := fun h => hstar (eq_star_of_normalize hascii h)
    by_cases hhyphen : '-' ∈ s
    · -- no name goes over a hyphen, so the two ends of a range are stored each on its own
      obtain ⟨a, b, rfl, ha⟩ := Text.eq_append_of_mem hhyphen
      rw [List.forall_mem_append, List.forall_mem_cons] at hs
      rw [normalize_append (by decide) (ascii_of_plain hs.1) (ascii_of_plain hs.2.2),
        Spelling.writesSpan_range_iff ha, Spelling.writesSpan_range_iff
          (notMem_normalize (by decide) (ascii_of_plain hs.1) ha)]
      simp only [number_tolerated_iff hs.1, number_tolerated_iff hs.2.2]
      constructor
      · rintro ⟨v, w, ⟨hv, hvb⟩, ⟨hw, hwb⟩, rfl⟩
        exact ⟨⟨v, w, hv, hw, rfl⟩, by simp [Span.literals, hvb, hwb]⟩
      · rintro ⟨⟨v, w, hv, hw, rfl⟩, hbounds⟩
        exact ⟨v, w, ⟨hv, hbounds v (by simp [Span.literals])⟩,
          ⟨hw, hbounds w (by simp [Span.literals])⟩, rfl⟩
    · rw [Spelling.writesSpan_iff_of_notMem hstar hhyphen, Spelling.writesSpan_iff_of_notMem hstored
        (notMem_normalize (by decide) hascii hhyphen)]
      simp only [number_tolerated_iff hs]
      constructor
      · rintro ⟨v, ⟨hv, hbounds⟩, rfl⟩
        exact ⟨⟨v, hv, rfl⟩, by simp [Span.literals, hbounds]⟩
      · rintro ⟨⟨v, hv, rfl⟩, hbounds⟩
        exact ⟨v, ⟨hv, hbounds v (by simp [Span.literals])⟩, rfl⟩

/-- A segment is tolerated exactly when its stored form is a segment within the bounds. -/
theorem writes_tolerated_iff (hs : ∀ c ∈ s, c.toNat < 128 ∧ Text.isBlank c = false) {g : Segment} :
    p.tolerated.Writes s g ↔
      Spelling.stored.Writes (normalize p s) g ∧ ∀ v ∈ g.span.literals, p.inBounds v = true := by
  -- the stroke of a step is in no name, so that span and step are stored each on its own
  by_cases hstroke : '/' ∈ s
  · obtain ⟨a, b, rfl, ha⟩ := Text.eq_append_of_mem hstroke
    rw [List.forall_mem_append, List.forall_mem_cons] at hs
    rw [normalize_append (by decide) (ascii_of_plain hs.1) (ascii_of_plain hs.2.2),
      Spelling.writes_step_iff ha, Spelling.writes_step_iff
        (notMem_normalize (by decide) (ascii_of_plain hs.1) ha)]
    simp only [writesSpan_tolerated_iff hs.1, step_tolerated_iff hs.2.2]
    constructor
    · rintro ⟨span, step, ⟨hspan, hbounds⟩, hstep, rfl⟩
      exact ⟨⟨span, step, hspan, hstep, rfl⟩, hbounds⟩
    · rintro ⟨⟨span, step, hspan, hstep, rfl⟩, hbounds⟩
      exact ⟨span, step, ⟨hspan, hbounds⟩, hstep, rfl⟩
  · rw [Spelling.writes_iff_of_notMem hstroke, Spelling.writes_iff_of_notMem
      (notMem_normalize (by decide) (ascii_of_plain hs) hstroke)]
    simp only [writesSpan_tolerated_iff hs]
    constructor
    · rintro ⟨span, ⟨hspan, hbounds⟩, rfl⟩
      exact ⟨⟨span, hspan, rfl⟩, hbounds⟩
    · rintro ⟨⟨span, hspan, rfl⟩, hbounds⟩
      exact ⟨span, ⟨hspan, hbounds⟩, rfl⟩

/-- The pieces of a text are stored by themselves. -/
lemma pieces_normalize (hs : ∀ c ∈ s, c.toNat < 128) :
    Text.pieces ',' (normalize p s) = (Text.pieces ',' s).map (normalize p) := by
  induction s using Text.pieces_induction ',' with
  | last s h =>
    rw [Text.pieces_of_notMem h, Text.pieces_of_notMem (notMem_normalize (by decide) hs h)]
    rfl
  | more s t h ih =>
    rw [List.forall_mem_append, List.forall_mem_cons] at hs
    rw [normalize_append (by decide) hs.1 hs.2.2, Text.pieces_append h,
      Text.pieces_append (notMem_normalize (by decide) hs.1 h), ih hs.2.2]
    rfl

/-! ## Which fields are sound -/

variable {f : Field} {ts : List Text} {gs : List Segment}

/-- Nothing is recorded exactly when every piece is a segment within the bounds. -/
lemma records_nil_iff : Records p ts [] [] ↔ ∃ gs, List.Forall₂ (fun t g =>
    Spelling.stored.Writes t g ∧ ∀ v ∈ g.span.literals, p.inBounds v = true) ts gs := by
  constructor
  · generalize houtside : ([] : List ℕ) = outside
    generalize hunread : ([] : List Text) = unread
    intro h
    induction h with
    | nil => exact ⟨[], .nil⟩
    | @segment t ts g outside unread ht _ ih =>
      obtain ⟨hbounds, hrest⟩ := List.append_eq_nil_iff.1 houtside.symm
      obtain ⟨gs, hgs⟩ := ih hrest.symm hunread
      refine ⟨g :: gs, .cons ⟨ht, fun v hv => ?_⟩ hgs⟩
      simpa using List.filter_eq_nil_iff.1 hbounds v hv
    | other => simp at hunread
  · rintro ⟨gs, h⟩
    induction h with
    | nil => exact .nil
    | @cons t g ts gs hg _ ih =>
      have hbounds : g.span.literals.filter (fun v => !p.inBounds v) = [] :=
        List.filter_eq_nil_iff.2 fun v hv => by simp [hg.2 v hv]
      have hrecord := Records.segment hg.1 ih
      rwa [hbounds] at hrecord

/-- A list in the tolerated spelling is, piece by piece, stored as segments within the bounds. -/
lemma writesField_tolerated_iff (ht : ∀ c ∈ t, c.toNat < 128 ∧ Text.isBlank c = false) :
    p.tolerated.WritesField t gs ↔ List.Forall₂ (fun u g =>
      Spelling.stored.Writes u g ∧ ∀ v ∈ g.span.literals, p.inBounds v = true)
        (Text.pieces ',' (normalize p t)) gs := by
  rw [pieces_normalize (ascii_of_plain ht), List.forall₂_map_left_iff]
  exact forall₂_congr_of_mem fun u hu g =>
    writes_tolerated_iff fun c hc => ht c (Text.mem_of_mem_pieces hu hc)

lemma ascii_of_writes {g : Segment} (h : p.tolerated.Writes t g) : ∀ c ∈ t, c.toNat < 128 := by
  refine h.forall_mem (P := fun c => c.toNat < 128) ⟨by decide, by decide, by decide⟩ ?_ ?_
  · rintro t v ⟨⟨d, hd, -⟩, -⟩ c hc
    exact Text.toNat_lt_of_isAlphanum (hd.isAlphanum_of_mem c hc)
  · rintro t k ⟨d, hd, -⟩ c hc
    exact Text.toNat_lt_of_isAlphanum (hd.isAlphanum_of_mem c hc)

lemma ascii_of_writesField (h : p.tolerated.WritesField t gs) : ∀ c ∈ t, c.toNat < 128 := by
  intro c hc
  rcases Text.mem_pieces_of_mem ',' hc with rfl | ⟨u, hu, hcu⟩
  · decide
  · obtain ⟨g, -, hg⟩ := exists_of_forall₂ h hu
    exact ascii_of_writes hg c hcu

/-- **A field is sound exactly when it is written in the tolerated spelling.** -/
theorem isSound_iff (hblank : ∀ c ∈ t, Text.isBlank c = false) (hread : Field.read p t = .ok f) :
    f.isSound = true ↔ ∃ gs, p.tolerated.WritesField t gs := by
  have hmeaning := isMeaning_of_read hread
  constructor
  · intro hsound
    have hchars := (isStored_of_read hblank hread hsound).chars
    rw [hmeaning.raw] at hchars
    have hplain : ∀ c ∈ t, c.toNat < 128 ∧ Text.isBlank c = false := fun c hc =>
      ⟨ascii_of_normalize hchars c hc, hblank c hc⟩
    simp only [isSound, Bool.and_eq_true, List.isEmpty_iff] at hsound
    have hrecord := hmeaning.recorded
    rw [hsound.1, hsound.2] at hrecord
    obtain ⟨gs, hgs⟩ := records_nil_iff.1 hrecord
    exact ⟨gs, (writesField_tolerated_iff hplain).2 hgs⟩
  · rintro ⟨gs, hgs⟩
    have hplain : ∀ c ∈ t, c.toNat < 128 ∧ Text.isBlank c = false := fun c hc =>
      ⟨ascii_of_writesField hgs c hc, hblank c hc⟩
    have hrecord := records_nil_iff.2 ⟨gs, (writesField_tolerated_iff hplain).1 hgs⟩
    obtain ⟨houtside, hunread⟩ := hmeaning.recorded.unique hrecord
    rw [isSound, houtside, hunread]
    rfl

/-- The numbers of a sound field are what its segments select. -/
theorem mem_values_iff (hblank : ∀ c ∈ t, Text.isBlank c = false) (hread : Field.read p t = .ok f)
    (hgs : p.tolerated.WritesField t gs) (v : ℕ) :
    v ∈ f.values ↔ ∃ g ∈ gs, ∃ u, g.Selects p u ∧ p.stored u = v := by
  have hplain : ∀ c ∈ t, c.toNat < 128 ∧ Text.isBlank c = false := fun c hc =>
    ⟨ascii_of_writesField hgs c hc, hblank c hc⟩
  have hstored := (writesField_tolerated_iff hplain).1 hgs
  rw [(isMeaning_of_read hread).mem_values]
  constructor
  · rintro ⟨u, hu, g, hg, hv⟩
    obtain ⟨g', hg', hwrites, -⟩ := exists_of_forall₂ hstored hu
    exact ⟨g', hg', hwrites.unique Spelling.isFunctional_stored hg ▸ hv⟩
  · rintro ⟨g, hg, hv⟩
    obtain ⟨u, hu, hwrites, -⟩ := exists_of_forall₂_right hstored hg
    exact ⟨u, hu, g, hwrites, hv⟩

/-! ## What is documented is read -/

section Documented

variable {v : ℕ} {g : Segment}

/-- The stored form of a documented number is its digits, and not too many of them. -/
lemma readDigits_of_isAtom (h : p.documented.number t v)
    (hruns : Text.RunsWithin Char.isDigit digitLimit t) :
    Text.isDigits (normalize p t) = true ∧ readDigits (normalize p t) = .ok v := by
  obtain ⟨⟨hdigits, rfl⟩ | hname, hbounds⟩ := h
  · have hchars := (Text.isDigits_iff.1 hdigits).2
    rw [normalize_of_chars fun c hc => isFieldChar_of_isDigit (hchars c hc)]
    exact ⟨hdigits, readDigits_of_length_le (hruns t (List.infix_refl t) hchars)⟩
  · have hspells := Position.Spells.of_name hname
    have hascii : ∀ c ∈ t, c.toNat < 128 := fun c hc =>
      Text.toNat_lt_of_isAlphanum (hspells.isAlphanum_of_mem c hc)
    rw [((spells_iff hascii).1 hspells).1]
    exact ⟨isDigits_natText v, readDigits_natText (lt_hundred_of_inBounds hbounds)⟩

lemma ascii_of_writesSpan {span : Span} (h : p.documented.WritesSpan t span) :
    ∀ c ∈ t, c.toNat < 128 :=
  ascii_of_writes (Position.writes_tolerated (.plain h))

lemma readSpan?_of_documented {span : Span} (h : p.documented.WritesSpan t span)
    (hruns : Text.RunsWithin Char.isDigit digitLimit t) (step : Option ℕ) :
    Segment.readSpan? step (normalize p t) = .ok (some ⟨span, step⟩) := by
  cases h with
  | all => rw [normalize_star]; rfl
  | single ht =>
    obtain ⟨hdigits, hread⟩ := readDigits_of_isAtom ht hruns
    rw [Segment.readSpan?_digits hdigits, hread]
    rfl
  | range hs ht =>
    obtain ⟨hsdigits, hsread⟩ := readDigits_of_isAtom hs
      (hruns.of_part (List.prefix_append _ _).isInfix)
    obtain ⟨htdigits, htread⟩ := readDigits_of_isAtom ht
      (hruns.of_part (Text.isInfix_append_cons _ _ _))
    rw [normalize_append (by decide) (ascii_of_writesSpan (.single hs)) (ascii_of_writesSpan (.single ht)),
      Segment.readSpan?_range hsdigits htdigits, hsread, htread]
    rfl

lemma read?_of_documented (h : p.documented.Writes t g)
    (hruns : Text.RunsWithin Char.isDigit digitLimit t) :
    Segment.read? (normalize p t) = .ok (some g) := by
  have hstroke : ∀ {u : Text} {span : Span}, p.documented.WritesSpan u span → '/' ∉ normalize p u :=
    fun hu => notMem_normalize (by decide) (ascii_of_writesSpan hu) hu.notMem
  cases h with
  | plain ht => rw [Segment.read?_of_notMem (hstroke ht), readSpan?_of_documented ht hruns]
  | @stepped u s span k ht hs =>
    obtain ⟨hdigits, rfl⟩ := hs
    have hchars := (Text.isDigits_iff.1 hdigits).2
    have hstored : normalize p s = s :=
      normalize_of_chars fun c hc => isFieldChar_of_isDigit (hchars c hc)
    have hshort := hruns s (Text.isInfix_append_cons _ _ _) hchars
    rw [normalize_append (by decide) (ascii_of_writesSpan ht) fun c hc =>
        Text.toNat_lt_of_isDigit (hchars c hc), hstored, Segment.read?_step (hstroke ht) hdigits,
      readDigits_of_length_le hshort, ok_bind,
      readSpan?_of_documented ht (hruns.of_part (List.prefix_append _ _).isInfix)]

lemma writesField_tolerated (h : p.documented.WritesField t gs) : p.tolerated.WritesField t gs :=
  h.imp fun _ _ => Position.writes_tolerated

/-- **What is documented is read**, unless a run of digits in it is too long. -/
theorem exists_read_of_documented (h : p.documented.WritesField t gs)
    (hruns : Text.RunsWithin Char.isDigit digitLimit t) : ∃ f, Field.read p t = .ok f := by
  have hascii := ascii_of_writesField (writesField_tolerated h)
  cases hread : Field.read p t with
  | ok f => exact ⟨f, rfl⟩
  | error e =>
    rcases bind_eq_error_iff.1 hread with hread | ⟨found, -, hread⟩
    · rw [pieces_normalize hascii] at hread
      obtain ⟨_, hstored, hstop⟩ := exists_of_mapM_eq_error hread
      obtain ⟨u, hu, rfl⟩ := List.mem_map.1 hstored
      obtain ⟨g, -, hg⟩ := exists_of_forall₂ h hu
      rw [read?_of_documented hg (hruns.of_part (Text.isInfix_of_mem_pieces hu))] at hstop
      simp at hstop
    · exact absurd hread pure_ne_error

end Documented

/-! ## Where both spellings agree -/

/-- A segment without names and digits in one: where a letter stands among letters and digits, these are
three at most, and behind a stroke stands a digit. -/
structure IsPlain (t : Text) : Prop where
  short : ∀ r : Text, r <:+: t → (∀ c ∈ r, c.isAlphanum = true) → (∃ c ∈ r, c.isDigit = false) →
    r.length ≤ 3
  stepped : ∀ a b, t = a ++ '/' :: b → ∃ c ∈ b.head?, c.isDigit = true

/-- What is spelled is digits, or it holds a name. -/
lemma eq_or_exists_name {names : List (Text × ℕ)} {u d : Text} (h : Glued names u d) :
    (u = d ∧ ∀ c ∈ u, c.isDigit = true) ∨ ∃ n ∈ names, n.1 <:+: u := by
  induction h with
  | nil => exact .inl ⟨rfl, by simp⟩
  | digit hc _ ih =>
    rcases ih with ⟨rfl, hdigits⟩ | ⟨n, hn, hpart⟩
    · exact .inl ⟨rfl, List.forall_mem_cons.2 ⟨hc, hdigits⟩⟩
    · exact .inr ⟨n, hn, List.infix_cons hpart⟩
  | name hn => exact .inr ⟨_, hn, (List.prefix_append _ _).isInfix⟩

namespace IsPlain

variable {g : Segment} {v : ℕ} {d : Text}

/-- In a plain segment, what is spelled is digits or one name. -/
lemma digits_or_name (ht : IsPlain t) (hs : s <:+: t) (h : p.Spells s d) :
    (s = d ∧ ∀ c ∈ s, c.isDigit = true) ∨ ∃ n ∈ p.names, s.map Char.toLower = n.1 := by
  have halphanum := h.isAlphanum_of_mem
  rcases eq_or_exists_name h with ⟨heq, hdigits⟩ | ⟨n, hn, hpart⟩
  · have hsame : ∀ c ∈ s, c.toLower = c := fun c hc =>
      Text.toLower_of_isDigit (hdigits _ (List.mem_map.2 ⟨c, hc, rfl⟩))
    have hmap : s.map Char.toLower = s := (List.map_congr_left hsame).trans (List.map_id s)
    rw [hmap] at heq hdigits
    exact .inl ⟨heq, hdigits⟩
  · -- a letter of the name stands in the text, which is therefore no longer than the name
    have hletter : ∃ c ∈ s, c.isDigit = false := by
      obtain ⟨a, as, ha⟩ := List.exists_cons_of_ne_nil ((namesApart p).ne_nil hn)
      have hmem : a ∈ n.1 := ha ▸ List.mem_cons_self
      obtain ⟨c, hc, rfl⟩ := List.mem_map.1 (hpart.subset hmem)
      refine ⟨c, hc, ?_⟩
      by_contra hdigit
      rw [Bool.not_eq_false] at hdigit
      have hlower := (plain_of_isFieldChar (isFieldChar_of_isDigit hdigit)).2.1
      have hname := (namesApart p).letters n hn _ hmem
      rw [hlower, hdigit] at hname
      exact absurd hname (by simp)
    have hshort := ht.short s hs halphanum hletter
    have hlength := (namesApart p).length n hn
    refine .inr ⟨n, hn, (hpart.eq_of_length_le ?_).symm⟩
    rw [List.length_map, hlength]
    exact hshort

/-- A plain segment that is tolerated is documented. -/
lemma number (ht : IsPlain t) (hs : s <:+: t) (h : p.tolerated.number s v) :
    p.documented.number s v := by
  obtain ⟨⟨d, hd, hne, rfl⟩, hbounds⟩ := h
  refine ⟨?_, hbounds⟩
  rcases ht.digits_or_name hs hd with ⟨rfl, hdigits⟩ | ⟨n, hn, hname⟩
  · exact .inl ⟨Text.isDigits_iff.2 ⟨hne, hdigits⟩, rfl⟩
  · have hmem : (s.map Char.toLower, n.2) ∈ p.names := by rwa [hname]
    rw [hd.unique (.of_name hmem), digitsValue_natText]
    exact .inr hmem

lemma writesSpan (ht : IsPlain t) (hs : s <:+: t) {span : Span} (h : p.tolerated.WritesSpan s span) :
    p.documented.WritesSpan s span := by
  cases h with
  | all => exact .all
  | single h => exact .single (ht.number hs h)
  | range h₁ h₂ =>
    exact .range (ht.number ((List.prefix_append _ _).isInfix.trans hs) h₁)
      (ht.number ((Text.isInfix_append_cons _ _ _).trans hs) h₂)

/-- **A plain segment that is tolerated is documented.** -/
theorem writes_documented (ht : IsPlain t) (h : p.tolerated.Writes t g) : p.documented.Writes t g := by
  cases h with
  | plain h => exact .plain (ht.writesSpan (List.infix_refl _) h)
  | @stepped u s span k h hk =>
    refine .stepped (ht.writesSpan (List.prefix_append _ _).isInfix h) ?_
    obtain ⟨d, hd, rfl⟩ := hk
    obtain ⟨c, hc, hdigit⟩ := ht.stepped u s rfl
    have hmem := List.mem_of_mem_head? hc
    have hpart := Text.isInfix_append_cons u '/' s
    rcases ht.digits_or_name hpart hd with ⟨rfl, hdigits⟩ | ⟨n, hn, hname⟩
    · have hne : s ≠ [] := List.ne_nil_of_mem hmem
      exact ⟨Text.isDigits_iff.2 ⟨hne, hdigits⟩, by rw [if_neg hne]⟩
    · -- a name does not start with a digit
      have hlower := (plain_of_isFieldChar (isFieldChar_of_isDigit hdigit)).2.1
      have hletter := (namesApart p).letters n hn c (hname ▸ List.mem_map.2 ⟨c, hmem, hlower⟩)
      rw [hdigit] at hletter
      exact absurd hletter (by simp)

end IsPlain

/-- A list of plain segments that is tolerated is documented. -/
lemma writesField_documented (hplain : ∀ u ∈ Text.pieces ',' t, IsPlain u)
    (h : p.tolerated.WritesField t gs) : p.documented.WritesField t gs := by
  refine (forall₂_congr_of_mem fun u hu g => ?_).1 h
  exact ⟨(hplain u hu).writes_documented, Position.writes_tolerated⟩

end Field

end Crontab
