import Crontab.Dialect.Conversion
import Crontab.Proofs.Dialect.Weekday
import Crontab.Proofs.Dialect.WeekdayKept

/-!
# The items of a list of weekdays as they are read

What an item is written as holds letters, digits, hyphens and strokes only (`isItemChar`), so that no
item is cut apart.  Its text is first counted from 0 where it is a number or a range of numbers
(`Item.single_of_tokenFromZero`, `Item.range_of_tokenFromZero`), and stays the same where it holds any
other character (`tokenFromZero_of_mem`).  What results is read as a segment of the weekday field, whose
numbers are those between the bounds of the item (`Item.values_of_isShifted`,
`Item.values_of_not_isShifted`).
-/

namespace Crontab.WeekdayList

/-! ## The characters of a list -/

/-- The characters of an item. -/
def isItemChar (c : Char) : Bool := c.isAlphanum || c == '-' || c == '/'

lemma isItemChar_of_isAlphanum {c : Char} (h : c.isAlphanum = true) : isItemChar c = true := by
  simp [isItemChar, h]

lemma Day.chars_of_isWritten {d : Day} {t : Text} (h : d.IsWritten t) :
    t ≠ [] ∧ ∀ c ∈ t, c.isAlphanum = true := by
  cases d with
  | number n =>
    obtain ⟨hne, hdigits⟩ := Text.isDigits_iff.1 h.1
    exact ⟨hne, fun c hc => by simp [Char.isAlphanum, hdigits c hc]⟩
  | named k =>
    have hnames : ∀ n ∈ Position.dayOfWeek.names, n.1 ≠ [] ∧ ∀ c ∈ n.1, c.isAlpha = true := by decide
    obtain ⟨hne, halpha⟩ := hnames _ h
    refine ⟨by simpa using hne, fun c hc => ?_⟩
    have hc := Text.isAlpha_of_toLower (halpha _ (List.mem_map.2 ⟨c, hc, rfl⟩))
    simp [Char.isAlphanum, hc]

lemma toNat_lt_of_isItemChar {c : Char} (h : isItemChar c = true) : c.toNat < 128 := by
  simp only [isItemChar, Bool.or_eq_true, beq_iff_eq] at h
  rcases h with (h | rfl) | rfl
  · exact Text.toNat_lt_of_isAlphanum h
  · decide
  · decide

/-- A character of an item is no comma, no mark for a whole field and no blank. -/
lemma apart_of_isItemChar {c : Char} (h : isItemChar c = true) :
    c ≠ ',' ∧ c ≠ '?' ∧ c ≠ '*' ∧ Text.isBlank c = false ∧ isItemChar c.toLower = true :=
  Text.forall_ascii (P := fun c => isItemChar c = true →
      c ≠ ',' ∧ c ≠ '?' ∧ c ≠ '*' ∧ Text.isBlank c = false ∧ isItemChar c.toLower = true)
    (by decide +kernel) (toNat_lt_of_isItemChar h) h

namespace Item

variable {i : Item} {t : Text}

lemma chars_of_spanIsWritten (h : i.SpanIsWritten t) : t ≠ [] ∧ ∀ c ∈ t, isItemChar c = true := by
  have hday : ∀ {d : Day} {s : Text}, d.IsWritten s → s ≠ [] ∧ ∀ c ∈ s, isItemChar c = true :=
    fun h => ⟨(Day.chars_of_isWritten h).1, fun c hc =>
      isItemChar_of_isAlphanum ((Day.chars_of_isWritten h).2 c hc)⟩
  unfold SpanIsWritten at h
  split at h
  · exact hday h
  · obtain ⟨s, u, hs, hu, rfl⟩ := h
    refine ⟨by simp, ?_⟩
    rw [List.forall_mem_append, List.forall_mem_cons]
    exact ⟨(hday hs).2, by decide, (hday hu).2⟩

lemma chars_of_isWritten (h : i.IsWritten t) : t ≠ [] ∧ ∀ c ∈ t, isItemChar c = true := by
  unfold IsWritten at h
  split at h
  · exact chars_of_spanIsWritten h
  · obtain ⟨s, u, hs, hu, -, rfl⟩ := h
    refine ⟨by simp, ?_⟩
    rw [List.forall_mem_append, List.forall_mem_cons]
    refine ⟨(chars_of_spanIsWritten hs).2, by decide, fun c hc => isItemChar_of_isAlphanum ?_⟩
    simp [Char.isAlphanum, (Text.isDigits_iff.1 hu).2 c hc]

end Item

/-! ## What an item is read as -/

section Reading

variable {s t u : Text} {g : Segment}

lemma eq_digitsValue_of_readDigits {v : Nat} (h : readDigits s = .ok v) : v = digitsValue s := by
  unfold readDigits at h
  split at h
  · exact (Except.ok.inj h).symm
  · simp at h

lemma map_readDigits_eq_ok {α : Type} {k : Nat → α} {a : α} (h : k <$> readDigits s = .ok a) :
    a = k (digitsValue s) := by
  cases hs : readDigits s with
  | error fault => simp [hs] at h
  | ok v =>
    rw [hs] at h
    rw [← eq_digitsValue_of_readDigits hs]
    exact (Except.ok.inj h).symm

lemma span_of_readSpan?_digits (hs : Text.isDigits s = true) {step : Option Nat}
    (h : Segment.readSpan? step s = .ok (some g)) : g = ⟨.single (digitsValue s), step⟩ := by
  rw [Segment.readSpan?_digits hs] at h
  exact Option.some.inj (map_readDigits_eq_ok h)

lemma span_of_readSpan?_range (hs : Text.isDigits s = true) (ht : Text.isDigits t = true)
    {step : Option Nat} (h : Segment.readSpan? step (s ++ '-' :: t) = .ok (some g)) :
    g = ⟨.range (digitsValue s) (digitsValue t), step⟩ := by
  rw [Segment.readSpan?_range hs ht] at h
  obtain ⟨a, ha, h⟩ := bind_eq_ok_iff.1 h
  obtain ⟨b, hb, h⟩ := bind_eq_ok_iff.1 h
  rw [← eq_digitsValue_of_readDigits ha, ← eq_digitsValue_of_readDigits hb]
  exact (Option.some.inj (pure_eq_ok_iff.1 h)).symm

lemma Day.ascii_of_isWritten {d : Day} (h : d.IsWritten t) : ∀ c ∈ t, c.toNat < 128 := fun c hc =>
  Text.toNat_lt_of_isAlphanum ((Day.chars_of_isWritten h).2 c hc)

lemma isDigit_or_eq_of_mem_intText {z : Int} {c : Char} (h : c ∈ intText z) :
    c.isDigit = true ∨ c = '-' := by
  cases z with
  | ofNat n => exact .inl (isDigit_of_mem_natText h)
  | negSucc n =>
    rcases List.mem_cons.1 h with rfl | h
    · exact .inr rfl
    · exact .inl (isDigit_of_mem_natText h)

lemma isFieldChar_of_mem_intText {z : Int} {c : Char} (h : c ∈ intText z) : isFieldChar c = true := by
  rcases isDigit_or_eq_of_mem_intText h with h | rfl
  · exact isFieldChar_of_isDigit h
  · decide

/-- A text that starts with a hyphen is no segment. -/
lemma not_read?_hyphen (hs : '/' ∉ s) : Segment.read? ('-' :: s) ≠ .ok (some g) := by
  intro h
  rw [Segment.read?_of_notMem (by simpa using hs), Segment.readSpan?] at h
  have hstar : ('-' :: s : Text) ≠ "*" := fun e => absurd (List.cons.inj e).1 (by decide)
  have hcut : Text.cut "-" ('-' :: s) = ([], some s) := @Text.cut_append '-' [] (by simp) s
  rw [if_neg hstar, hcut] at h
  simp only [readNat?_nil, ok_bind] at h
  obtain ⟨b, -, h⟩ := bind_eq_ok_iff.1 h
  exact absurd (pure_eq_ok_iff.1 h) (by simp)

/-- The stored form of a day is its number. -/
lemma Day.normalize_of_isWritten {d : Day} (h : d.IsWritten t) :
    Text.isDigits (Field.normalize .dayOfWeek t) = true ∧
      digitsValue (Field.normalize .dayOfWeek t) = d.code := by
  cases d with
  | number n =>
    have hchars : ∀ c ∈ t, isFieldChar c = true := fun c hc =>
      isFieldChar_of_isDigit ((Text.isDigits_iff.1 h.1).2 c hc)
    rw [Field.normalize_of_chars hchars]
    exact h
  | named k =>
    have hnames : ∀ n ∈ Position.dayOfWeek.names,
        Field.replaceNames .dayOfWeek n.1 = natText n.2 := by
      decide +kernel
    have hstored : Field.normalize .dayOfWeek t = natText k := by
      rw [Field.normalize, Text.lower_of_ascii (Day.ascii_of_isWritten h)]
      exact hnames _ h
    rw [hstored]
    exact ⟨isDigits_natText _, digitsValue_natText _⟩

namespace Item

variable {i : Item}

/-- The span of an item as a field reads it. -/
def span (i : Item) : Span :=
  match i.last? with
  | none => .single i.first.code
  | some d => .range i.first.code d.code

lemma ascii_of_spanIsWritten (h : i.SpanIsWritten t) : ∀ c ∈ t, c.toNat < 128 := fun c hc =>
  toNat_lt_of_isItemChar ((chars_of_spanIsWritten h).2 c hc)

/-- The stored form of a span has digits and hyphens only, and is read as the span. -/
lemma span_of_readSpan? (hw : i.SpanIsWritten t) :
    '/' ∉ Field.normalize .dayOfWeek t ∧
      ∀ {step : Option Nat}, Segment.readSpan? step (Field.normalize .dayOfWeek t) = .ok (some g) →
        g = ⟨i.span, step⟩ := by
  unfold SpanIsWritten at hw
  unfold span
  cases hlast : i.last? with
  | none =>
    rw [hlast] at hw
    obtain ⟨hdigits, hvalue⟩ := Day.normalize_of_isWritten hw
    refine ⟨Segment.notMem_of_isDigits hdigits (by decide), fun h => ?_⟩
    rw [← hvalue]
    exact span_of_readSpan?_digits hdigits h
  | some d =>
    rw [hlast] at hw
    obtain ⟨s, u, hs, hu, rfl⟩ := hw
    obtain ⟨hsdigits, hsvalue⟩ := Day.normalize_of_isWritten hs
    obtain ⟨hudigits, huvalue⟩ := Day.normalize_of_isWritten hu
    rw [Field.normalize_append (by decide) (Day.ascii_of_isWritten hs) (Day.ascii_of_isWritten hu)]
    constructor
    · rw [List.mem_append, List.mem_cons]
      rintro (h | h | h)
      · exact Segment.notMem_of_isDigits hsdigits (by decide) h
      · exact absurd h (by decide)
      · exact Segment.notMem_of_isDigits hudigits (by decide) h
    · intro step h
      rw [span_of_readSpan?_range hsdigits hudigits h, hsvalue, huvalue]

/-- An item that is left as it is is read as its span with its step. -/
lemma segment_of_read? (hw : i.IsWritten t)
    (h : Segment.read? (Field.normalize .dayOfWeek t) = .ok (some g)) : g = ⟨i.span, i.step?⟩ := by
  unfold IsWritten at hw
  cases hstep : i.step? with
  | none =>
    rw [hstep] at hw
    obtain ⟨hstroke, hspan⟩ := span_of_readSpan? (g := g) hw
    rw [Segment.read?_of_notMem hstroke] at h
    exact hspan h
  | some k =>
    rw [hstep] at hw
    obtain ⟨s, u, hs, hu, rfl, rfl⟩ := hw
    obtain ⟨hstroke, hspan⟩ := span_of_readSpan? (g := g) hs
    have huchars : ∀ c ∈ u, isFieldChar c = true := fun c hc =>
      isFieldChar_of_isDigit ((Text.isDigits_iff.1 hu).2 c hc)
    rw [Field.normalize_append (by decide) (ascii_of_spanIsWritten hs) fun c hc =>
        toNat_lt_of_isFieldChar (huchars c hc), Field.normalize_of_chars huchars,
      Segment.read?_step hstroke hu] at h
    obtain ⟨v, hv, h⟩ := bind_eq_ok_iff.1 h
    -- a step of zero would be read as one, but the steps of items advance
    have hpos : 1 ≤ digitsValue u := i.step_pos _ hstep
    rw [eq_digitsValue_of_readDigits hv, max_eq_left hpos] at h
    exact hspan h

/-! ### Tokens -/

lemma apart_of_isAlpha {c : Char} (h : c.isAlpha = true) : c.isDigit = false ∧ c ≠ '-' := by
  refine ⟨Text.isDigit_eq_false_of_isAlpha h, ?_⟩
  rintro rfl
  exact absurd h (by decide)

/-- A name, and a step, hold a character that no range of numbers holds. -/
lemma exists_mem_of_not_isShifted (hw : i.IsWritten t) (hnot : i.isShifted = false) :
    ∃ c ∈ t, c.isDigit = false ∧ c ≠ '-' := by
  have hnamed : ∀ {k : Fin 7} {s : Text}, (Day.named k).IsWritten s →
      ∃ c ∈ s, c.isDigit = false ∧ c ≠ '-' := by
    intro k s hs
    obtain ⟨hne, -⟩ := Day.chars_of_isWritten hs
    have hnames : ∀ n ∈ Position.dayOfWeek.names, ∀ c ∈ n.1, c.isAlpha = true := by decide
    obtain ⟨c, rest, rfl⟩ := List.exists_cons_of_ne_nil hne
    have halpha := Text.isAlpha_of_toLower (hnames _ hs c.toLower (by simp))
    exact ⟨c, List.mem_cons_self, apart_of_isAlpha halpha⟩
  -- what keeps an item from being shifted is a step or a name
  rcases i with ⟨first, last?, step?, hordered, hpos⟩
  cases step? with
  | some k =>
    obtain ⟨s, u, -, -, -, rfl⟩ := hw
    exact ⟨'/', by simp, by decide, by decide⟩
  | none =>
    cases first with
    | named k =>
      cases last? with
      | none => exact hnamed hw
      | some d =>
        obtain ⟨s, u, hs, -, rfl⟩ := hw
        obtain ⟨c, hc, hfacts⟩ := hnamed hs
        exact ⟨c, by simp [hc], hfacts⟩
    | number n =>
      cases last? with
      | none => simp [isShifted, Day.isNumber] at hnot
      | some d =>
        cases d with
        | number b => simp [isShifted, Day.isNumber] at hnot
        | named k =>
          obtain ⟨s, u, -, hu, rfl⟩ := hw
          obtain ⟨c, hc, hfacts⟩ := hnamed hu
          exact ⟨c, by simp [hc], hfacts⟩

end Item

lemma numericRange?_eq_some {a b : Text} (h : numericRange? t = some (a, b)) :
    t = a ++ '-' :: b ∧ Text.isDigits a = true ∧ Text.isDigits b = true := by
  unfold numericRange? at h
  split at h
  · next first last hcut =>
    split at h
    · next hdigits =>
      obtain ⟨rfl, rfl⟩ := Prod.mk.inj (Option.some.inj h)
      obtain ⟨ha, hb⟩ := Bool.and_eq_true_iff.1 hdigits
      exact ⟨(Text.cut_eq_some_iff.1 hcut).1, ha, hb⟩
    · simp at h
  · simp at h

/-- A token with any other character than digits and hyphens stays as it is. -/
lemma tokenFromZero_of_mem {c : Char} (hc : c ∈ t) (hdigit : c.isDigit = false) (hne : c ≠ '-') :
    tokenFromZero t = .ok t := by
  have hdigits : ¬ Text.isDigits t = true := fun h => Segment.notMem_of_isDigits h hdigit hc
  have hrange : numericRange? t = none := by
    cases h : numericRange? t with
    | none => rfl
    | some r =>
      obtain ⟨rfl, ha, hb⟩ := numericRange?_eq_some h
      rw [List.mem_append, List.mem_cons] at hc
      rcases hc with hc | hc | hc
      · exact absurd hc (Segment.notMem_of_isDigits ha hdigit)
      · exact absurd hc hne
      · exact absurd hc (Segment.notMem_of_isDigits hb hdigit)
  rw [tokenFromZero, if_neg hdigits, hrange]
  rfl

/-! ### The days of an item that was read -/

/-- The numbers of a segment within the bounds. -/
lemma values_single {v : Nat} (hv : v ≤ 7) (step? : Option Nat) :
    (⟨.single v, step?⟩ : Segment).values .dayOfWeek =
      fieldDays v (if step?.isSome then 7 else v) (step?.getD 1) := by
  have hbounds : Position.dayOfWeek.inBounds v = true := Position.inBounds_iff.2 ⟨Nat.zero_le v, hv⟩
  cases step? with
  | none => simp [Segment.values, hbounds, fieldDays, stepped]
  | some k => simp [Segment.values, hbounds, fieldDays, Position.greatest]

lemma values_range {a b : Nat} (hb : b ≤ 7) (step? : Option Nat) :
    (⟨.range a b, step?⟩ : Segment).values .dayOfWeek = fieldDays a b (step?.getD 1) := by
  have hgreatest : min b Position.dayOfWeek.greatest = b := min_eq_left hb
  simp [Segment.values, hgreatest, fieldDays, aligned, Position.least]

lemma le_seven_of_outOfRange {vs : List Nat}
    (h : (vs.filter fun v => !Position.dayOfWeek.inBounds v) = []) : ∀ v ∈ vs, v ≤ 7 := by
  intro v hv
  rw [List.filter_eq_nil_iff] at h
  have hbounds : Position.dayOfWeek.inBounds v = true := by simpa using h v hv
  exact (Position.inBounds_iff.1 hbounds).2

namespace Item

variable {i : Item}

/-- An item that is left as it is selects the days between its bounds. -/
lemma values_of_not_isShifted (hnot : i.isShifted = false)
    (hrange : (⟨i.span, i.step?⟩ : Segment).outOfRange .dayOfWeek = []) :
    i.bounds.2 ≤ 7 ∧
      (⟨i.span, i.step?⟩ : Segment).values .dayOfWeek = fieldDays i.bounds.1 i.bounds.2 i.step := by
  rcases i with ⟨first, last?, step?, hordered, hpos⟩
  unfold bounds
  rw [hnot]
  cases last? with
  | none =>
    have hfirst := le_seven_of_outOfRange hrange first.code (by simp)
    have hvalues := values_single hfirst step?
    cases step? with
    | none => exact ⟨hfirst, hvalues⟩
    | some k => exact ⟨le_rfl, hvalues⟩
  | some d =>
    have hlast := le_seven_of_outOfRange hrange d.code (by simp)
    have hvalues := values_range (a := first.code) hlast step?
    cases step? <;> exact ⟨hlast, hvalues⟩

lemma single_of_tokenFromZero (ht : Text.isDigits t = true) (h : tokenFromZero t = .ok u) :
    u = intText (toZeroBased (digitsValue t)) := by
  rw [tokenFromZero, if_pos ht] at h
  obtain ⟨v, hv, h⟩ := bind_eq_ok_iff.1 h
  rw [← eq_digitsValue_of_readDigits hv]
  exact (pure_eq_ok_iff.1 h).symm

lemma range_of_tokenFromZero (hs : Text.isDigits s = true) (ht : Text.isDigits t = true)
    (hle : digitsValue s ≤ digitsValue t) (h : tokenFromZero (s ++ '-' :: t) = .ok u) :
    u = intText (toZeroBased (digitsValue s)) ++ "-" ++ intText (toZeroBased (digitsValue t)) := by
  have hzero : toZeroBased (digitsValue s) ≤ toZeroBased (digitsValue t) := by
    unfold toZeroBased
    split <;> split <;> omega
  have hdigits : ¬ Text.isDigits (s ++ '-' :: t) = true := fun h =>
    Segment.notMem_of_isDigits h (show ('-' : Char).isDigit = false by decide) (by simp)
  rw [tokenFromZero, if_neg hdigits, numericRange?_digits hs ht] at h
  obtain ⟨v, hv, h⟩ := bind_eq_ok_iff.1 h
  obtain ⟨w, hw, h⟩ := bind_eq_ok_iff.1 h
  obtain rfl := eq_digitsValue_of_readDigits hv
  obtain rfl := eq_digitsValue_of_readDigits hw
  rw [if_pos hzero] at h
  exact (pure_eq_ok_iff.1 h).symm

/-- A number counted from 0 is read as the number before it; nothing comes before Sunday. -/
lemma single_of_read? {n : Nat}
    (h : Segment.read? (Field.normalize .dayOfWeek (intText (toZeroBased n))) = .ok (some g)) :
    1 ≤ n ∧ g = ⟨.single (n - 1), none⟩ := by
  have hchars : ∀ c ∈ intText (toZeroBased n), isFieldChar c = true := fun c hc =>
    isFieldChar_of_mem_intText hc
  rw [Field.normalize_of_chars hchars] at h
  cases n with
  | zero => exact absurd h (not_read?_hyphen (by decide))
  | succ m =>
    rw [toZeroBased_succ, intText_ofNat,
      Segment.read?_of_notMem (Field.notMem_natText (by decide))] at h
    rw [span_of_readSpan?_digits (isDigits_natText m) h, digitsValue_natText]
    exact ⟨Nat.le_add_left 1 m, rfl⟩

/-- A range counted from 0 is read as the range of the numbers before. -/
lemma range_of_read? {a b : Nat}
    (h : Segment.read? (Field.normalize .dayOfWeek
      (intText (toZeroBased a) ++ "-" ++ intText (toZeroBased b))) = .ok (some g)) (hab : a ≤ b) :
    1 ≤ a ∧ g = ⟨.range (a - 1) (b - 1), none⟩ := by
  have hword : intText (toZeroBased a) ++ "-" ++ intText (toZeroBased b) =
      intText (toZeroBased a) ++ '-' :: intText (toZeroBased b) := by simp
  have hchars : ∀ c ∈ intText (toZeroBased a) ++ '-' :: intText (toZeroBased b),
      isFieldChar c = true := by
    rw [List.forall_mem_append, List.forall_mem_cons]
    exact ⟨fun _ => isFieldChar_of_mem_intText, by decide, fun _ => isFieldChar_of_mem_intText⟩
  have hstroke : ∀ z, '/' ∉ intText z := fun z hc => by
    rcases isDigit_or_eq_of_mem_intText hc with hc | hc <;> exact absurd hc (by decide)
  rw [hword, Field.normalize_of_chars hchars] at h
  cases a with
  | zero =>
    -- zero becomes minus one, and its sign is taken for the hyphen of a range
    have hstroke' : '/' ∉ '1' :: '-' :: intText (toZeroBased b) := by simp [hstroke]
    exact absurd h (not_read?_hyphen hstroke')
  | succ m =>
    obtain ⟨c, rfl⟩ := Nat.exists_eq_add_of_le' ((Nat.le_add_left 1 m).trans hab)
    have hstroke' : '/' ∉ intText (toZeroBased (m + 1)) ++ '-' :: intText (toZeroBased (c + 1)) := by
      simp [hstroke]
    rw [Segment.read?_of_notMem hstroke', toZeroBased_succ, toZeroBased_succ, intText_ofNat,
      intText_ofNat] at h
    rw [span_of_readSpan?_range (isDigits_natText m) (isDigits_natText c) h, digitsValue_natText,
      digitsValue_natText]
    exact ⟨Nat.le_add_left 1 m, rfl⟩

/-- An item of numbers, counted from 0, selects the days between its bounds. -/
lemma values_of_isShifted (hw : i.IsWritten t) (hshift : i.isShifted = true)
    (htoken : tokenFromZero t = .ok u)
    (hread : Segment.read? (Field.normalize .dayOfWeek u) = .ok (some g))
    (hrange : g.outOfRange .dayOfWeek = []) :
    1 ≤ i.first.position ∧ i.bounds.2 ≤ 7 ∧
      g.values .dayOfWeek = fieldDays i.bounds.1 i.bounds.2 i.step := by
  rcases eq_of_isShifted hshift with ⟨n, rfl⟩ | ⟨a, b, hab, rfl⟩
  · obtain ⟨hdigits, rfl⟩ := hw
    obtain rfl := single_of_tokenFromZero hdigits htoken
    obtain ⟨hn, rfl⟩ := single_of_read? hread
    have hle := le_seven_of_outOfRange hrange _ (List.mem_singleton.2 rfl)
    exact ⟨hn, hle, values_single hle none⟩
  · obtain ⟨x, y, ⟨hx, rfl⟩, ⟨hy, rfl⟩, rfl⟩ := hw
    obtain rfl := range_of_tokenFromZero hx hy hab htoken
    obtain ⟨hn, rfl⟩ := range_of_read? hread hab
    have hlast := le_seven_of_outOfRange hrange (digitsValue y - 1) (by simp)
    exact ⟨hn, hlast, values_range hlast none⟩

/-- An item that was read means the same days as before exactly when it is one of those that keep
them. -/
theorem isKept_iff_of_read (hw : i.IsWritten t) (htoken : tokenFromZero t = .ok u)
    (hread : Segment.read? (Field.normalize .dayOfWeek u) = .ok (some g))
    (hrange : g.outOfRange .dayOfWeek = []) :
    i.Means (g.values .dayOfWeek) ↔ i.IsKept := by
  cases hshift : i.isShifted with
  | true =>
    obtain ⟨hpos, hlast, hvalues⟩ := values_of_isShifted hw hshift htoken hread hrange
    rw [hvalues]
    exact isKept_iff hlast fun _ => hpos
  | false =>
    obtain ⟨c, hc, hdigit, hne⟩ := exists_mem_of_not_isShifted hw hshift
    obtain rfl := Except.ok.inj ((tokenFromZero_of_mem hc hdigit hne).symm.trans htoken)
    obtain rfl := segment_of_read? hw hread
    obtain ⟨hlast, hvalues⟩ := values_of_not_isShifted hshift hrange
    rw [hvalues]
    exact isKept_iff hlast fun h => absurd h (by simp [hshift])

end Item

end Reading

end Crontab.WeekdayList
