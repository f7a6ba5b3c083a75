import Crontab.Proofs.Dialect.OnCalendar
import Crontab.Proofs.Dialect.QuestionMark
import Crontab.Proofs.Field.Meaning

/-!
# The layout of what is written

What a text has to look like to be read by another scheduler: six fields for AWS and for Quartz
(`Aws.IsLayout`, `Quartz.IsLayout`), and an optional list of days, a date and a time for a calendar
event (`OnCalendar.IsLayout`).

Every schedule is written, but not always in the layout (`fromCron_layout`).  A field may be valid and
select nothing, and the list of its numbers is then nothing between two marks.  And a time is written
with its steps as they stand in the field, so that `9-17/2` brings a hyphen where a calendar event has
none (`fromCron_leaves_layout`).  These are the only ways out: the conditions of `fromCron_layout` are
exact, because what is written can be taken apart at the marks between its parts, which occur in none
of them.
-/

namespace Crontab

lemma Field.values_ne_nil_of_isAny {p : Position} {f : Field} (hf : f.IsStored p)
    (hany : f.isAny = true) : f.values ≠ [] := by
  have hraw : f.raw = "*" := Field.isAny_iff.1 hany
  refine List.ne_nil_of_mem (a := p.stored p.least) ?_
  rw [(Field.isMeaning_of_read hf.read_raw).mem_values, Field.normalize_of_chars hf.chars, hraw]
  exact ⟨['*'], by decide, ⟨.all, none⟩, .plain .all, p.least, Segment.selects_least p none, rfl⟩

/-- A list in which nothing is empty is not empty itself. -/
lemma Text.join_ne_nil_of_forall {sep : Char} {ts : List Text} (hne : ts ≠ [])
    (h : ∀ t ∈ ts, t ≠ []) : Text.join [sep] ts ≠ [] := by
  obtain ⟨t, ts, rfl⟩ := List.exists_cons_of_ne_nil hne
  exact Text.join_ne_nil ts (h t List.mem_cons_self)

/-- Texts with a mark between them are the only ones that give the whole, if the mark is in none. -/
lemma Text.join_injective {sep : Char} {ts us : List Text} (hts : ts ≠ []) (hus : us ≠ [])
    (ht : ∀ t ∈ ts, sep ∉ t) (hu : ∀ u ∈ us, sep ∉ u)
    (h : Text.join [sep] ts = Text.join [sep] us) : ts = us := by
  rw [← Text.pieces_join hts ht, h, Text.pieces_join hus hu]

/-! ## AWS and Quartz -/

/-- A weekday field counted from 1: no condition, a range, or a list that is not empty. -/
inductive IsWeekdayField : Text → Prop
  | free : IsWeekdayField "?"
  | range {a b : ℕ} (ha : 1 ≤ a) (hab : a ≤ b) (hb : b ≤ 7) :
    IsWeekdayField (natText a ++ "-" ++ natText b)
  | list {vs : List ℕ} (hne : vs ≠ []) (hvs : ∀ v ∈ vs, 1 ≤ v ∧ v ≤ 7) :
    IsWeekdayField (Text.join "," (vs.map natText))

/-- Six fields, none of them empty, of which not both day fields are `*`. -/
structure AreSixFields (fields : List Text) (dayOfMonth dayOfWeek : Text) : Prop where
  six : fields.length = 6
  solid : ∀ t ∈ fields, Text.IsSolid t
  days : ¬ (dayOfMonth = "*" ∧ dayOfWeek = "*")
  weekday : IsWeekdayField dayOfWeek

/-- The layout of AWS: the fields in brackets, with the year behind them. -/
def Aws.IsLayout (s : Text) : Prop :=
  ∃ minute hour dayOfMonth month dayOfWeek year : Text,
    s = "cron(" ++ Text.join " " [minute, hour, dayOfMonth, month, dayOfWeek, year] ++ ")" ∧
      AreSixFields [minute, hour, dayOfMonth, month, dayOfWeek, year] dayOfMonth dayOfWeek

/-- The layout of Quartz: the fields with the second in front of them. -/
def Quartz.IsLayout (s : Text) : Prop :=
  ∃ second minute hour dayOfMonth month dayOfWeek : Text,
    s = Text.join " " [second, minute, hour, dayOfMonth, month, dayOfWeek] ∧
      AreSixFields [second, minute, hour, dayOfMonth, month, dayOfWeek] dayOfMonth dayOfWeek

namespace IsWeekdayField

variable {t : Text}

lemma ne_nil (h : IsWeekdayField t) : t ≠ [] := by
  cases h with
  | free => decide
  | range => simp
  | list hne =>
    refine Text.join_ne_nil_of_forall (by simpa using hne) ?_
    exact List.forall_mem_map.2 fun v _ => natText_ne_nil v

lemma ne_star (h : IsWeekdayField t) : t ≠ "*" := by
  have hstar : '*' ∉ t := by
    cases h with
    | free => decide
    | range => exact Field.notMem_range (by decide) (by decide)
    | list => exact Field.notMem_numbers (by decide) (by decide)
  rintro rfl
  exact hstar (by decide)

end IsWeekdayField

section QuestionMark

variable {f : Fields} (hf : ∀ p, (f.get p).IsStored p)

include hf

/-- The weekday field is one as long as a weekday is selected. -/
lemma isWeekdayField_questionMarkDays_iff :
    IsWeekdayField f.questionMarkDays.2 ↔ f.dayOfWeek.values ≠ [] := by
  have hlt : ∀ v ∈ f.dayOfWeek.values, v < 7 := fun v hv =>
    Field.lt_seven_of_mem_values (hf .dayOfWeek).read_raw hv
  rw [questionMarkDays_snd]
  cases hany : f.dayOfWeek.isAny with
  | true => exact iff_of_true .free (Field.values_ne_nil_of_isAny (hf .dayOfWeek) hany)
  | false =>
    rcases Field.weekdaysFromOne_cases hlt with ⟨a, b, hab, hb, hvalues, hwritten⟩ | hwritten
    · rw [if_neg (by simp), hwritten, hvalues]
      refine iff_of_true (.range (by omega) (by omega) (by omega)) ?_
      simpa using show b + 1 - a ≠ 0 by omega
    · have hlisted : (f.dayOfWeek.values.map fun v => natText (v + 1)) =
          (f.dayOfWeek.values.map (· + 1)).map natText := by
        rw [List.map_map]
        rfl
      rw [if_neg (by simp), hwritten, hlisted]
      constructor
      · intro h hnil
        exact h.ne_nil (by simp [hnil])
      · intro hne
        refine .list (by simpa using hne) (List.forall_mem_map.2 fun v hv => ?_)
        have := hlt v hv
        omega

/-- The five fields with one in front of them or behind are six fields as long as a weekday is
selected. -/
lemma areSixFields_iff {fields : List Text} (hsix : fields.length = 6)
    (hmem : ∀ t ∈ fields, Text.IsSolid t ∨ t ∈ f.questionMarkTexts) :
    AreSixFields fields f.questionMarkDays.1 f.questionMarkDays.2 ↔ f.dayOfWeek.values ≠ [] := by
  refine ⟨fun h => (isWeekdayField_questionMarkDays_iff hf).1 h.weekday, fun hne => ?_⟩
  have hweekday := (isWeekdayField_questionMarkDays_iff hf).2 hne
  refine ⟨hsix, fun t ht => ?_, fun h => hweekday.ne_star h.2, hweekday⟩
  exact (hmem t ht).elim id fun ht => isSolid_questionMarkTexts hf ht hne

lemma space_notMem_questionMarkTexts : ∀ t ∈ f.questionMarkTexts, ' ' ∉ t := fun _ ht =>
  notMem_questionMarkTexts hf ht (by decide) (by decide)

omit hf in
lemma AreSixFields.space_notMem {fields : List Text} {dayOfMonth dayOfWeek : Text}
    (h : AreSixFields fields dayOfMonth dayOfWeek) : ∀ t ∈ fields, ' ' ∉ t := fun t ht hmem =>
  absurd ((h.solid t ht).2 ' ' hmem) (by decide)

/-- The text for AWS has the layout exactly when a weekday is selected. -/
theorem Aws.isLayout_write_iff : Aws.IsLayout (Aws.write f) ↔ f.dayOfWeek.values ≠ [] := by
  have hmem : ∀ t ∈ f.questionMarkTexts ++ ["*".toList], Text.IsSolid t ∨ t ∈ f.questionMarkTexts := by
    rw [List.forall_mem_append]
    exact ⟨fun t ht => .inr ht, List.forall_mem_singleton.2 (.inl ⟨by decide, by decide⟩)⟩
  rw [← areSixFields_iff hf rfl hmem]
  constructor
  · rintro ⟨minute, hour, dayOfMonth, month, dayOfWeek, year, hs, hfields⟩
    have hspace : ∀ t ∈ f.questionMarkTexts ++ ["*".toList], ' ' ∉ t := by
      rw [List.forall_mem_append]
      exact ⟨space_notMem_questionMarkTexts hf, by decide⟩
    have hwritten := Text.join_injective (by simp) (by simp) hspace hfields.space_notMem
      (List.append_cancel_left (List.append_cancel_right hs))
    rw [hwritten]
    simp only [Fields.questionMarkTexts, List.cons_append, List.nil_append, List.cons.injEq] at hwritten
    obtain ⟨-, -, hday, -, hweekday, -⟩ := hwritten
    rwa [hday, hweekday]
  · intro h
    exact ⟨_, _, _, _, _, _, rfl, h⟩

/-- The text for Quartz has the layout exactly when a weekday is selected. -/
theorem Quartz.isLayout_write_iff : Quartz.IsLayout (Quartz.write f) ↔ f.dayOfWeek.values ≠ [] := by
  have hmem : ∀ t ∈ "0".toList :: f.questionMarkTexts, Text.IsSolid t ∨ t ∈ f.questionMarkTexts := by
    rw [List.forall_mem_cons]
    exact ⟨.inl ⟨by decide, by decide⟩, fun t ht => .inr ht⟩
  rw [← areSixFields_iff hf rfl hmem]
  constructor
  · rintro ⟨second, minute, hour, dayOfMonth, month, dayOfWeek, hs, hfields⟩
    have hspace : ∀ t ∈ "0".toList :: f.questionMarkTexts, ' ' ∉ t := by
      rw [List.forall_mem_cons]
      exact ⟨by decide, space_notMem_questionMarkTexts hf⟩
    have hwritten := Text.join_injective (by simp) (by simp) hspace hfields.space_notMem hs
    rw [hwritten]
    simp only [Fields.questionMarkTexts, List.cons.injEq] at hwritten
    obtain ⟨-, -, -, hday, -, hweekday, -⟩ := hwritten
    rwa [hday, hweekday]
  · intro h
    exact ⟨_, _, _, _, _, _, rfl, h⟩

end QuestionMark

/-! ## Calendar events -/

namespace OnCalendar

/-- Names of weekdays with commas between them, at least one. -/
def IsDays (t : Text) : Prop :=
  ∃ names : List Text, names ≠ [] ∧ (∀ n ∈ names, n ∈ weekdayNames) ∧ t = Text.join "," names

/-- A month or a day: any, or numbers with commas between them, at least one. -/
inductive IsDateComponent : Text → Prop
  | any : IsDateComponent "*"
  | list {vs : List ℕ} (hne : vs ≠ []) : IsDateComponent (Text.join "," (vs.map natText))

/-- A date: any, or the months and the days of any year. -/
inductive IsDate : Text → Prop
  | any : IsDate "*"
  | on {month day : Text} (hmonth : IsDateComponent month) (hday : IsDateComponent day) :
    IsDate ("*-" ++ month ++ "-" ++ day)

/-- One item of an hour or a minute: any or a number, with a step or without. -/
inductive IsTimeItem : Text → Prop
  | any : IsTimeItem "*"
  | number {n : Text} (hn : Text.isDigits n = true) : IsTimeItem n
  | stepped {t k : Text} (ht : t = "*" ∨ Text.isDigits t = true) (hk : Text.isDigits k = true) :
    IsTimeItem (t ++ '/' :: k)

/-- An hour or a minute: items with commas between them, at least one. -/
def IsTimeComponent (t : Text) : Prop :=
  ∃ items : List Text, items ≠ [] ∧ (∀ i ∈ items, IsTimeItem i) ∧ t = Text.join "," items

/-- A time of day, to the minute. -/
def IsTime (t : Text) : Prop :=
  ∃ hour minute : Text, IsTimeComponent hour ∧ IsTimeComponent minute ∧
    t = hour ++ ":" ++ minute ++ ":00"

/-- The layout of a calendar event: days, if it has any, a date and a time, with single spaces between
them. -/
def IsLayout (s : Text) : Prop :=
  ∃ (days? : Option Text) (date time : Text), (∀ days ∈ days?, IsDays days) ∧ IsDate date ∧
    IsTime time ∧ s = Text.join " " (days?.toList ++ [date, time])

/-- What an hour or a minute needs for its place in a time.  With a step the field is written as it is,
so there must be no range in it and no step may be left empty; otherwise it must select something. -/
structure SuitsTime (f : Field) : Prop where
  listed : f.hasStep = false → f.values ≠ []
  noRange : f.hasStep = true → '-' ∉ f.raw
  noEmptyStep : f.hasStep = true → ∀ t ∈ Text.pieces ',' f.raw, t.getLast? ≠ some '/'

/-! ### Characters of the parts -/

section Characters

variable {t : Text} {c : Char}

lemma IsDays.plain (h : IsDays t) (hc : c ∈ t) : c ≠ ' ' := by
  have hnames : ∀ n ∈ weekdayNames, ∀ c ∈ n, c ≠ ' ' := by decide
  obtain ⟨names, -, hmem, rfl⟩ := h
  rcases Text.mem_join hc with hc | ⟨n, hn, hc⟩
  · rw [List.mem_singleton.1 hc]
    decide
  · exact hnames n (hmem n hn) c hc

lemma IsDateComponent.plain (h : IsDateComponent t) (hc : c ∈ t) : c ≠ ' ' ∧ c ≠ '-' := by
  cases h with
  | any =>
    rw [List.mem_singleton.1 hc]
    decide
  | list =>
    rcases Field.isDigit_or_eq_of_mem_numbers hc with hc | rfl
    · exact ⟨by rintro rfl; simp at hc, by rintro rfl; simp at hc⟩
    · decide

lemma IsDate.plain (h : IsDate t) (hc : c ∈ t) : c ≠ ' ' := by
  cases h with
  | any =>
    rw [List.mem_singleton.1 hc]
    decide
  | on hmonth hday =>
    simp only [List.mem_append] at hc
    rcases hc with ((hc | hc) | hc) | hc
    · have hmark : ∀ c ∈ ("*-" : Text), c ≠ ' ' := by decide
      exact hmark c hc
    · exact (hmonth.plain hc).1
    · rw [List.mem_singleton.1 hc]
      decide
    · exact (hday.plain hc).1

lemma IsTimeItem.chars (h : IsTimeItem t) (hc : c ∈ t) : c.isDigit = true ∨ c = '*' ∨ c = '/' := by
  have hnumber : ∀ {n : Text}, Text.isDigits n = true → c ∈ n → c.isDigit = true := fun hn hc =>
    (Text.isDigits_iff.1 hn).2 c hc
  cases h with
  | any => exact .inr (.inl (List.mem_singleton.1 hc))
  | number hn => exact .inl (hnumber hn hc)
  | stepped ht hk =>
    rcases List.mem_append.1 hc with hc | hc
    · rcases ht with rfl | ht
      · exact .inr (.inl (List.mem_singleton.1 hc))
      · exact .inl (hnumber ht hc)
    · rcases List.mem_cons.1 hc with rfl | hc
      · exact .inr (.inr rfl)
      · exact .inl (hnumber hk hc)

lemma IsTimeItem.notMem (h : IsTimeItem t) {m : Char} (hm : m.isDigit = false) (hstar : m ≠ '*')
    (hstroke : m ≠ '/') : m ∉ t := fun hmem => by
  rcases h.chars hmem with hdigit | rfl | rfl
  · simp [hm] at hdigit
  · exact hstar rfl
  · exact hstroke rfl

lemma IsTimeItem.ne_nil (h : IsTimeItem t) : t ≠ [] := by
  cases h with
  | any => decide
  | number hn => exact (Text.isDigits_iff.1 hn).1
  | stepped => simp

/-- No step of an item is left empty. -/
lemma IsTimeItem.getLast? (h : IsTimeItem t) : t.getLast? ≠ some '/' := by
  have hnumber : ∀ {n : Text}, Text.isDigits n = true → n.getLast? ≠ some '/' := fun hn hlast =>
    absurd ((Text.isDigits_iff.1 hn).2 _ (List.mem_of_mem_getLast? hlast)) (by decide)
  cases h with
  | any => decide
  | number hn => exact hnumber hn
  | @stepped t k ht hk =>
    have hne := (Text.isDigits_iff.1 hk).1
    rw [List.getLast?_append_of_ne_nil _ (List.cons_ne_nil _ _),
      show '/' :: k = ['/'] ++ k from rfl, List.getLast?_append_of_ne_nil _ hne]
    exact hnumber hk

lemma IsTimeComponent.plain (h : IsTimeComponent t) (hc : c ∈ t) :
    c ≠ ' ' ∧ c ≠ '-' ∧ c ≠ ':' := by
  obtain ⟨items, -, hitems, rfl⟩ := h
  rcases Text.mem_join hc with hc | ⟨i, hi, hc⟩
  · rw [List.mem_singleton.1 hc]
    decide
  · refine ⟨?_, ?_, ?_⟩ <;> rintro rfl <;>
      exact (hitems i hi).notMem (by decide) (by decide) (by decide) hc

lemma IsTime.plain (h : IsTime t) (hc : c ∈ t) : c ≠ ' ' := by
  obtain ⟨hour, minute, hhour, hminute, rfl⟩ := h
  simp only [List.mem_append] at hc
  rcases hc with ((hc | hc) | hc) | hc
  · exact (hhour.plain hc).1
  · rw [List.mem_singleton.1 hc]
    decide
  · exact (hminute.plain hc).1
  · have hmark : ∀ c ∈ (":00" : Text), c ≠ ' ' := by decide
    exact hmark c hc

end Characters

/-! ### The parts that are written -/

section Parts

variable {p : Position} {f : Field} (hf : f.IsStored p)

include hf

lemma isDateComponent_values_iff : IsDateComponent (values f) ↔ f.values ≠ [] := by
  unfold values
  split
  · next hany => exact iff_of_true .any (Field.values_ne_nil_of_isAny hf hany)
  · refine ⟨fun h hnil => ?_, .list⟩
    rw [hnil] at h
    generalize hs : Text.join "," (([] : List ℕ).map natText) = s at h
    cases h with
    | any => simp at hs
    | list hne =>
      refine Text.join_ne_nil_of_forall (by simpa using hne) ?_ hs.symm
      exact List.forall_mem_map.2 fun v _ => natText_ne_nil v

/-- A piece of a field that has no range and no empty step is an item of a time. -/
lemma isTimeItem_of_mem_pieces {t : Text} (ht : t ∈ Text.pieces ',' f.raw) (hrange : '-' ∉ t)
    (hstep : t.getLast? ≠ some '/') : IsTimeItem t := by
  obtain ⟨segments, hsegments, -, -⟩ := Field.read_iff.1 ⟨hf.read_raw, hf.sound⟩
  rw [Field.normalize_of_chars hf.chars] at hsegments
  obtain ⟨g, -, hg⟩ := exists_of_forall₂ hsegments ht
  have hblank : ∀ c ∈ t, Text.isBlank c = false := fun c hc =>
    (plain_of_isFieldChar (hf.chars c (Text.mem_of_mem_pieces ht hc))).1
  have hdigits : ∀ u, u <:+: t → Text.isDigits (Text.trim u) = true → Text.isDigits u = true :=
    fun u hu h => by rwa [Text.trim_of_noBlank fun c hc => hblank c (hu.subset hc)] at h
  have hspan : ∀ u span, u <:+: t → Spelling.stored.WritesSpan u span →
      u = "*" ∨ Text.isDigits u = true := by
    intro u span hu hwrites
    cases hwrites with
    | all => exact .inl rfl
    | single hnumber => exact .inr (hdigits u hu hnumber.1)
    | range => exact absurd (hu.subset (by simp)) hrange
  cases (Segment.read?_eq_some_iff hg).1 rfl with
  | plain hwrites =>
    rcases hspan t _ (List.infix_refl t) hwrites with rfl | hnumber
    · exact .any
    · exact .number hnumber
  | @stepped u k span step hwrites hk =>
    refine .stepped (hspan u span (List.prefix_append _ _).isInfix hwrites) ?_
    -- a field may leave the number of a step out, which a layout may not
    rcases hk with ⟨rfl, -⟩ | ⟨hk, -⟩
    · simp at hstep
    · exact hdigits k (Text.isInfix_append_cons u '/' k) hk

/-- A field with a step stands as it is, and is a component of a time exactly when it suits one. -/
lemma isTimeComponent_raw_iff (hstep : f.hasStep = true) : IsTimeComponent f.raw ↔ SuitsTime f := by
  constructor
  · intro h
    have hrange : '-' ∉ f.raw := fun hmem => (h.plain hmem).2.1 rfl
    obtain ⟨items, hne, hitems, hraw⟩ := h
    -- no item holds a comma, so the items are the pieces of the field
    have hpieces : Text.pieces ',' f.raw = items := by
      rw [hraw]
      exact Text.pieces_join hne fun i hi =>
        (hitems i hi).notMem (by decide) (by decide) (by decide)
    refine ⟨by simp [hstep], fun _ => hrange, fun _ t ht => ?_⟩
    exact (hitems t (hpieces ▸ ht)).getLast?
  · intro h
    refine ⟨Text.pieces ',' f.raw, Text.pieces_ne_nil _ _, fun t ht => ?_, ?_⟩
    · have hrange : '-' ∉ t := fun hmem =>
        h.noRange hstep (Text.mem_of_mem_pieces ht hmem)
      exact isTimeItem_of_mem_pieces hf ht hrange (h.noEmptyStep hstep t ht)
    · exact (Text.join_pieces ',' f.raw).symm

/-- A field without a step is written by its numbers, which are a component unless there are none. -/
lemma isTimeComponent_values_iff (hstep : f.hasStep = false) :
    IsTimeComponent (values f) ↔ SuitsTime f := by
  have hsuits : SuitsTime f ↔ f.values ≠ [] :=
    ⟨fun h => h.listed hstep, fun h => ⟨fun _ => h, by simp [hstep], by simp [hstep]⟩⟩
  rw [hsuits]
  unfold values
  split
  · next hany =>
    refine iff_of_true ⟨["*".toList], by simp, by simpa using .any, rfl⟩ ?_
    exact Field.values_ne_nil_of_isAny hf hany
  · constructor
    · rintro ⟨items, hne, hitems, hs⟩ hnil
      rw [hnil] at hs
      exact Text.join_ne_nil_of_forall hne (fun i hi => (hitems i hi).ne_nil) hs.symm
    · intro hne
      refine ⟨f.values.map natText, by simpa using hne, ?_, rfl⟩
      exact List.forall_mem_map.2 fun v _ => .number (isDigits_natText v)

/-- An hour or a minute is in the layout exactly when it suits a time. -/
lemma isTimeComponent_valuesOrStep_iff : IsTimeComponent (valuesOrStep f) ↔ SuitsTime f := by
  cases hstep : f.hasStep with
  | true =>
    have hany : f.isAny = false := by
      rw [Bool.eq_false_iff]
      intro hany
      rw [Field.hasStep, Field.isAny_iff.1 hany] at hstep
      exact absurd hstep (by decide)
    have hwritten : valuesOrStep f = f.raw := by simp [valuesOrStep, hany, hstep]
    rw [hwritten, isTimeComponent_raw_iff hf hstep]
  | false =>
    have hwritten : valuesOrStep f = values f := by simp [valuesOrStep, hstep]
    rw [hwritten, isTimeComponent_values_iff hf hstep]

end Parts

section Event

variable {f : Fields} (hf : ∀ p, (f.get p).IsStored p)

include hf

lemma isDays_weekdayPart_iff : (∀ d ∈ weekdayPart f, IsDays d) ↔ f.dayOfWeek.values ≠ [] := by
  rw [weekdayPart_eq]
  split
  · next hany =>
    exact iff_of_true (by simp) (Field.values_ne_nil_of_isAny (hf .dayOfWeek) hany)
  · rw [List.forall_mem_singleton]
    constructor
    · rintro ⟨names, hne, hnames, hs⟩ hnil
      have hvisible : ∀ n ∈ weekdayNames, n ≠ [] := by decide
      rw [hnil] at hs
      exact Text.join_ne_nil_of_forall hne (fun n hn => hvisible n (hnames n hn)) hs.symm
    · intro hne
      refine ⟨f.dayOfWeek.values.map nameOf, by simpa using hne, ?_, rfl⟩
      exact List.forall_mem_map.2 fun v hv =>
        nameOf_mem v (Field.lt_seven_of_mem_values (hf .dayOfWeek).read_raw hv)

lemma isDate_datePart_iff :
    IsDate (datePart f) ↔ f.month.values ≠ [] ∧ f.dayOfMonth.values ≠ [] := by
  unfold datePart
  split
  · next hany =>
    obtain ⟨hmonth, hday⟩ := Bool.and_eq_true_iff.1 hany
    exact iff_of_true .any ⟨Field.values_ne_nil_of_isAny (hf .month) hmonth,
      Field.values_ne_nil_of_isAny (hf .dayOfMonth) hday⟩
  · have hmonth : f.month.IsStored .month := hf .month
    have hday : f.dayOfMonth.IsStored .dayOfMonth := hf .dayOfMonth
    rw [← isDateComponent_values_iff hmonth, ← isDateComponent_values_iff hday]
    refine ⟨fun h => ?_, fun h => .on h.1 h.2⟩
    generalize hs : "*-".toList ++ values f.month ++ "-" ++ values f.dayOfMonth = s at h
    cases h with
    | any => simp at hs
    | @on month day hmonth hday =>
      have hparts : ∀ a b : Text, "*-".toList ++ a ++ "-" ++ b = Text.join ['-'] ["*", a, b] :=
        fun a b => by simp [Text.join]
      have hapart : ∀ a b : Text, '-' ∉ a → '-' ∉ b → ∀ t ∈ ["*".toList, a, b], '-' ∉ t :=
        fun a b ha hb => by simp [ha, hb]
      -- no component of a date holds a hyphen, so the text determines its components
      have hsame := Text.join_injective (by simp) (by simp)
        (hapart _ _ (hyphen_notMem_values f.month) (hyphen_notMem_values f.dayOfMonth))
        (hapart month day (fun hmem => (hmonth.plain hmem).2 rfl) fun hmem => (hday.plain hmem).2 rfl)
        ((hparts _ _).symm.trans (hs.trans (hparts _ _)))
      simp only [List.cons.injEq, and_true, true_and] at hsame
      rw [← hsame.1] at hmonth
      rw [← hsame.2] at hday
      exact ⟨hmonth, hday⟩

lemma isTime_timePart_iff : IsTime (timePart f) ↔ SuitsTime f.hour ∧ SuitsTime f.minute := by
  have hstoredHour : f.hour.IsStored .hour := hf .hour
  have hstoredMinute : f.minute.IsStored .minute := hf .minute
  rw [← isTimeComponent_valuesOrStep_iff hstoredHour, ← isTimeComponent_valuesOrStep_iff hstoredMinute]
  refine ⟨?_, fun h => ⟨_, _, h.1, h.2, rfl⟩⟩
  rintro ⟨hour, minute, hhour, hminute, hs⟩
  have hparts : ∀ a b : Text, a ++ ":" ++ b ++ ":00" = Text.join [':'] [a, b, "00"] :=
    fun a b => by simp [Text.join]
  have hcolon : ∀ {p : Position} {f : Field}, f.IsStored p → ':' ∉ valuesOrStep f :=
    fun hf hmem => absurd (isFieldChar_valuesOrStep hf ':' hmem) (by decide)
  have hapart : ∀ a b : Text, ':' ∉ a → ':' ∉ b → ∀ t ∈ [a, b, "00".toList], ':' ∉ t :=
    fun a b ha hb => by simp [ha, hb]
  -- no component of a time holds a colon, so the text determines its components
  have hsame := Text.join_injective (by simp) (by simp)
    (hapart _ _ (hcolon hstoredHour) (hcolon hstoredMinute))
    (hapart hour minute (fun hmem => (hhour.plain hmem).2.2 rfl) fun hmem => (hminute.plain hmem).2.2 rfl)
    ((hparts _ _).symm.trans (hs.trans (hparts _ _)))
  simp only [List.cons.injEq, and_true] at hsame
  rw [← hsame.1] at hhour
  rw [← hsame.2] at hminute
  exact ⟨hhour, hminute⟩

/-- **When a calendar event has the layout**: exactly when a weekday, a month and a day are selected,
and both the hour and the minute suit a time. -/
theorem isLayout_write_iff :
    IsLayout (write f) ↔ f.dayOfWeek.values ≠ [] ∧ (f.month.values ≠ [] ∧ f.dayOfMonth.values ≠ []) ∧
      SuitsTime f.hour ∧ SuitsTime f.minute := by
  rw [← isDays_weekdayPart_iff hf, ← isDate_datePart_iff hf, ← isTime_timePart_iff hf]
  constructor
  · rintro ⟨days?, date, time, hdays, hdate, htime, hs⟩
    have hspace : ∀ w ∈ writtenWords f, ' ' ∉ w := fun w hw hmem =>
      absurd (chars_of_mem_writtenWords hf hw ' ' hmem).1 (by decide)
    have hparts : ∀ w ∈ days?.toList ++ [date, time], ' ' ∉ w := by
      intro w hw hmem
      simp only [List.mem_append, Option.mem_toList, List.mem_cons, List.not_mem_nil, or_false] at hw
      rcases hw with hw | rfl | rfl
      · exact (hdays w hw).plain hmem rfl
      · exact hdate.plain hmem rfl
      · exact htime.plain hmem rfl
    -- no word holds a blank, so the words of the text are those of the layout
    have hsame : writtenWords f = days?.toList ++ [date, time] :=
      Text.join_injective (by simp [writtenWords]) (by simp) hspace hparts hs
    obtain ⟨hweekday, hrest⟩ := List.append_inj' hsame rfl
    simp only [List.cons.injEq, and_true] at hrest
    refine ⟨fun d hd => ?_, hrest.1 ▸ hdate, hrest.2 ▸ htime⟩
    rw [hweekday, Option.mem_toList] at hd
    exact hdays d hd
  · rintro ⟨hdays, hdate, htime⟩
    obtain ⟨days?, hdays?⟩ : ∃ days? : Option Text, weekdayPart f = days?.toList := by
      unfold weekdayPart
      split
      · exact ⟨none, rfl⟩
      · exact ⟨some _, rfl⟩
    refine ⟨days?, _, _, fun d hd => hdays d ?_, hdate, htime, by rw [write, hdays?]⟩
    rwa [hdays?, Option.mem_toList]

end Event

end OnCalendar

/-! ## All notations -/

/-- **When what is written has its layout.**  Every schedule is written for AWS, Quartz and Jenkins, and
as a calendar event.  For the first three the text has its layout exactly when a weekday is selected.  A
calendar event has its layout exactly when a weekday, a month and a day are selected, and the hour and
the minute each select something or have steps behind numbers and `*` only. -/
theorem fromCron_layout {s : Text} {e : Expression} {f : Fields} (hread : Expression.read s = .ok e)
    (hf : e.schedule? = some f) :
    (∃ r, fromCron (.ok s) (Dialect.name .aws) = .ok (.done r) ∧
      (Aws.IsLayout r.result ↔ f.dayOfWeek.values ≠ [])) ∧
    (∀ d ∈ [Dialect.quartz, Dialect.jenkins], ∃ r, fromCron (.ok s) d.name = .ok (.done r) ∧
      (Quartz.IsLayout r.result ↔ f.dayOfWeek.values ≠ [])) ∧
    ∃ r, fromCron (.ok s) (Dialect.name .systemd) = .ok (.done r) ∧
      (OnCalendar.IsLayout r.result ↔
        f.dayOfWeek.values ≠ [] ∧ (f.month.values ≠ [] ∧ f.dayOfMonth.values ≠ []) ∧
          OnCalendar.SuitsTime f.hour ∧ OnCalendar.SuitsTime f.minute) := by
  have hstored := Expression.isStored_of_read hread hf
  refine ⟨?_, fun d hd => ?_, ?_⟩
  · obtain ⟨r, hr, hresult⟩ :=
      fromCron_eq_done (d := .aws) (by decide) hread hf
    exact ⟨r, hr, hresult ▸ Aws.isLayout_write_iff hstored⟩
  · obtain ⟨hmarked, hquartz⟩ : d ∈ Dialect.questionMarked ∧ d.questionMarkText f = Quartz.write f := by
      simp only [List.mem_cons, List.not_mem_nil, or_false] at hd
      rcases hd with rfl | rfl
      · exact ⟨by decide, rfl⟩
      · exact ⟨by decide, rfl⟩
    obtain ⟨r, hr, hresult⟩ := fromCron_eq_done hmarked hread hf
    exact ⟨r, hr, (hresult.trans hquartz) ▸ Quartz.isLayout_write_iff hstored⟩
  · obtain ⟨r, hr, hresult⟩ := fromCron_systemd_eq_done hread hf
    exact ⟨r, hr, hresult ▸ OnCalendar.isLayout_write_iff hstored⟩

/-- Every quarter of two hours, on the first of June and on working days: all of this has its place in
each of the notations. -/
theorem fromCron_layout_workdays :
    let s : Text := "*/15 9,17 1 JUN mon-fri"
    ∃ e f a q c, Expression.read s = .ok e ∧ e.schedule? = some f ∧
      fromCron (.ok s) (Dialect.name .aws) = .ok (.done a) ∧ Aws.IsLayout a.result ∧
      fromCron (.ok s) (Dialect.name .quartz) = .ok (.done q) ∧ Quartz.IsLayout q.result ∧
      fromCron (.ok s) (Dialect.name .systemd) = .ok (.done c) ∧ OnCalendar.IsLayout c.result := by
  intro s
  obtain ⟨e, f, hread, hf, hweekday, hmonth, hday, hhour, hhourValues, hminute⟩ :
      ∃ e f, Expression.read s = .ok e ∧ e.schedule? = some f ∧
        f.dayOfWeek.values = [1, 2, 3, 4, 5] ∧ f.month.values = [6] ∧ f.dayOfMonth.values = [1] ∧
        f.hour.hasStep = false ∧ f.hour.values = [9, 17] ∧ f.minute.raw = "*/15" :=
    ⟨_, _, rfl, rfl, rfl, rfl, rfl, rfl, rfl, rfl⟩
  have hne : f.dayOfWeek.values ≠ [] := by simp [hweekday]
  have hstep : f.minute.hasStep = true := by
    rw [Field.hasStep, hminute]
    decide
  obtain ⟨⟨a, ha, haws⟩, hquartz, c, hc, hevent⟩ := fromCron_layout hread hf
  obtain ⟨q, hq, hquartz⟩ := hquartz .quartz (by simp)
  refine ⟨e, f, a, q, c, hread, hf, ha, haws.2 hne, hq, hquartz.2 hne, hc,
    hevent.2 ⟨hne, ⟨by simp [hmonth], by simp [hday]⟩, ?_, ?_⟩⟩
  · exact ⟨by simp [hhourValues], by simp [hhour], by simp [hhour]⟩
  · refine ⟨by simp [hstep], fun _ => ?_, fun _ => ?_⟩
    · rw [hminute]
      decide
    · rw [hminute]
      decide

/-- Without a weekday, a text for AWS has five fields between its blanks, and a range with a step stands
in a calendar event with its hyphen. -/
theorem fromCron_leaves_layout :
    (∃ e f r, Expression.read "0 9 * * 5-1" = .ok e ∧ e.schedule? = some f ∧
      fromCron (.ok "0 9 * * 5-1") (Dialect.name .aws) = .ok (.done r) ∧
      r.result = "cron(0 9 ? *  *)" ∧ ¬ Aws.IsLayout r.result) ∧
    ∃ e f r, Expression.read "0 9-17/2 * * *" = .ok e ∧ e.schedule? = some f ∧
      fromCron (.ok "0 9-17/2 * * *") (Dialect.name .systemd) = .ok (.done r) ∧
      r.result = "* 9-17/2:0:00" ∧ ¬ OnCalendar.IsLayout r.result := by
  obtain ⟨e, f, hread, hf, hwritten, hvalues⟩ :
      ∃ e f, Expression.read "0 9 * * 5-1" = .ok e ∧ e.schedule? = some f ∧
        Aws.write f = "cron(0 9 ? *  *)" ∧ f.dayOfWeek.values = [] :=
    ⟨_, _, rfl, rfl, rfl, rfl⟩
  obtain ⟨e', f', hread', hf', hwritten', hstep, hraw⟩ :
      ∃ e f, Expression.read "0 9-17/2 * * *" = .ok e ∧ e.schedule? = some f ∧
        OnCalendar.write f = "* 9-17/2:0:00" ∧ f.hour.hasStep = true ∧ f.hour.raw = "9-17/2" :=
    ⟨_, _, rfl, rfl, rfl, rfl, rfl⟩
  obtain ⟨r, hr, hresult⟩ := fromCron_eq_done (d := .aws) (by decide) hread hf
  obtain ⟨r', hr', hresult'⟩ := fromCron_systemd_eq_done hread' hf'
  refine ⟨⟨e, f, r, hread, hf, hr, hresult.trans hwritten, fun h => ?_⟩,
    e', f', r', hread', hf', hr', hresult'.trans hwritten', fun h => ?_⟩
  · rw [hresult] at h
    exact (Aws.isLayout_write_iff (Expression.isStored_of_read hread hf)).1 h hvalues
  · rw [hresult'] at h
    have hsuits := ((OnCalendar.isLayout_write_iff (Expression.isStored_of_read hread' hf')).1 h).2.2.1
    exact hsuits.noRange hstep (by rw [hraw]; decide)

end Crontab
