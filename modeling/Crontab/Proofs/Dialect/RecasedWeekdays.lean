import Crontab.Proofs.Dialect.Answered
import Crontab.Proofs.Dialect.OnCalendar

/-!
# Weekdays of a calendar event in other letters

The name of a weekday is looked up in any case of its letters.  But a word is looked up as a list of
weekdays only if one of the seven names stands in it as it is written, with a capital and two small
letters (`NamesWeekday`).  A list such as `mon,fri` is no such word, and as it is no date and no time
either, it is passed over: the event holds on every day of the week.

`toCron_recased_iff` says that this is the whole story.  Writing the letters of a list of weekdays in
another case changes the outcome exactly when it makes the one list hold a name and the other not.
The result then tells it: on one side the weekdays are those of the list, on the other there are all
seven.

A list of weekdays is taken here to consist of full and short names and of ranges with two dots between
them.  What the reader has to know of such a list survives a change of case (`ReadsAsWeekdays.recased`);
the words behind it may be any in which no weekday is named.
-/

namespace Crontab

namespace OnCalendar

/-! ## Lists of weekdays -/

/-- The full and the short names of the weekdays, in lower case. -/
def smallDayNames : List Text := (dayNames ++ weekdayNames).map (List.map Char.toLower)

/-- A text is the full or the short name of a weekday, in any case of its letters. -/
def IsDayName (t : Text) : Prop := t.map Char.toLower ∈ smallDayNames

instance (t : Text) : Decidable (IsDayName t) := inferInstanceAs (Decidable (_ ∈ _))

/-- A text is one part of a list of weekdays. -/
inductive IsDayItem : Text → Prop
  | name {t : Text} (ht : IsDayName t) : IsDayItem t
  | range {s t : Text} (hs : IsDayName s) (ht : IsDayName t) : IsDayItem (s ++ (".." ++ t))

/-- A word is a list of weekdays. -/
def IsDayList (w : Text) : Prop := ∀ t ∈ Text.pieces ',' w, IsDayItem t

/-- The short name of some weekday stands in a word, as it is written. -/
def NamesWeekday (w : Text) : Prop := ∃ n ∈ weekdayNames, n <:+: w

lemma any_occursIn_iff {w : Text} :
    (weekdayNames.any fun n => Text.occursIn n w) = true ↔ NamesWeekday w := by
  simp only [List.any_eq_true, Text.occursIn_iff]
  rfl

instance (w : Text) : Decidable (NamesWeekday w) := decidable_of_iff _ any_occursIn_iff

/-! ### Weekdays in other letters -/

section Letters

variable {s : Text} (hs : ∀ c ∈ s, c.toNat < 128)

include hs

lemma weekday?_toLower : weekday? (s.map Char.toLower) = weekday? s := by
  have htake : ∀ c ∈ s.take 3, c.toNat < 128 := fun c hc => hs c (List.mem_of_mem_take hc)
  have hascii : ∀ c ∈ (s.take 3).map Char.toLower, c.toNat < 128 :=
    List.forall_mem_map.2 fun c hc => Text.toNat_toLower_lt (htake c hc)
  rw [weekday?, weekday?, ← List.map_take, Text.lower_of_ascii hascii, Text.lower_of_ascii htake,
    List.map_map]
  simp only [Function.comp_def, Text.toLower_toLower]

lemma weekdaysOfPart_toLower : weekdaysOfPart (s.map Char.toLower) = weekdaysOfPart s := by
  have hdots : ∀ m ∈ "..".toList, ∀ c ∈ s, c.toLower = m ↔ c = m := by
    intro m hm c _
    obtain rfl : m = '.' := by simpa using hm
    exact Text.toLower_eq_iff rfl
  rw [weekdaysOfPart, weekdaysOfPart, Text.cut_map hdots]
  rcases hcut : Text.cut ".." s with ⟨first, _ | last⟩
  · have hfirst := weekday?_toLower (Text.eq_of_cut_eq_none hcut ▸ hs)
    simp only [Option.map_none, hfirst]
  · rw [Text.eq_append_of_cut_eq_some hcut, List.forall_mem_append, List.forall_mem_append] at hs
    simp only [Option.map_some, weekday?_toLower hs.1, weekday?_toLower hs.2.2]

/-- The weekdays of a list hang on its letters in lower case only. -/
lemma weekdays_toLower : weekdays (s.map Char.toLower) = weekdays s := by
  rw [weekdays, weekdays, Text.pieces_map fun c _ => Text.toLower_eq_iff rfl, List.flatMap_map]
  congr 1
  exact List.flatMap_congr fun t ht =>
    weekdaysOfPart_toLower fun c hc => hs c (Text.mem_of_mem_pieces ht hc)

end Letters

/-! ### What the reader has to know of a list -/

/-- A word is read as a list of weekdays as soon as it is taken for one, and it cannot be taken for
anything else. -/
structure ReadsAsWeekdays (w : Text) : Prop where
  chars : ∀ c ∈ w, c.isAlpha = true ∨ c = ',' ∨ c = '.'
  weekdays_ne_nil : weekdays w ≠ []
  apart : ∀ e ∈ presets, w.map Char.toLower ≠ e.1
  head : ∀ c ∈ w.head?, c.toLower ≠ 'o'

section Names

variable {t : Text}

lemma IsDayName.chars (ht : IsDayName t) : ∀ c ∈ t, c.isAlpha = true := by
  have hnames : ∀ n ∈ smallDayNames, ∀ c ∈ n, c.isAlpha = true := by decide
  exact fun c hc => Text.isAlpha_of_toLower (hnames _ ht _ (List.mem_map_of_mem hc))

lemma ascii_of_letters (ht : ∀ c ∈ t, c.isAlpha = true) : ∀ c ∈ t, c.toNat < 128 := fun c hc =>
  Text.toNat_lt_of_isAlphanum (by simp [Char.isAlphanum, ht c hc])

lemma notMem_of_letters {m : Char} (hm : m.isAlpha = false) (ht : ∀ c ∈ t, c.isAlpha = true) :
    m ∉ t := fun hmem => by
  simp [ht m hmem] at hm

lemma IsDayName.exists_weekday (ht : IsDayName t) : ∃ d, weekday? t = some d := by
  have hnames : ∀ n ∈ smallDayNames, (weekday? n).isSome = true := by decide
  have hsome := hnames _ ht
  rw [weekday?_toLower (ascii_of_letters ht.chars)] at hsome
  exact Option.isSome_iff_exists.1 hsome

lemma IsDayName.head (ht : IsDayName t) : ∃ c u, t = c :: u ∧ c.toLower ≠ 'o' := by
  have hnames : ∀ n ∈ smallDayNames, n ≠ [] ∧ n.head? ≠ some 'o' := by decide
  obtain ⟨hne, hhead⟩ := hnames _ ht
  cases t with
  | nil => exact absurd rfl hne
  | cons c u => exact ⟨c, u, rfl, by simpa using hhead⟩

end Names

section Items

variable {t : Text}

lemma IsDayItem.chars (ht : IsDayItem t) : ∀ c ∈ t, c.isAlpha = true ∨ c = '.' := by
  cases ht with
  | name ht => exact fun c hc => .inl (ht.chars c hc)
  | range hs ht =>
    intro c hc
    rcases List.mem_append.1 hc with hc | hc
    · exact .inl (hs.chars c hc)
    · rcases List.mem_append.1 hc with hc | hc
      · exact .inr (by simpa using hc)
      · exact .inl (ht.chars c hc)

lemma IsDayItem.head (ht : IsDayItem t) : ∃ c u, t = c :: u ∧ c.toLower ≠ 'o' := by
  cases ht with
  | name ht => exact ht.head
  | range hs ht =>
    obtain ⟨c, u, rfl, hc⟩ := hs.head
    exact ⟨c, _, rfl, hc⟩

/-- Every part of a list has a weekday. -/
lemma IsDayItem.exists_mem (ht : IsDayItem t) : ∃ d, d ∈ weekdaysOfPart t := by
  cases ht with
  | name ht =>
    obtain ⟨d, hd⟩ := ht.exists_weekday
    have hcut : Text.cut ".." t = (t, none) :=
      Text.cut_of_notMem (notMem_of_letters rfl ht.chars)
    refine ⟨d, ?_⟩
    simp only [weekdaysOfPart, hcut, hd]
    exact List.mem_singleton_self d
  | @range s t hs ht =>
    obtain ⟨a, ha⟩ := hs.exists_weekday
    obtain ⟨b, hb⟩ := ht.exists_weekday
    have hcut : Text.cut ".." (s ++ (".." ++ t)) = (s, some t) :=
      Text.cut_append_mark (notMem_of_letters rfl hs.chars) ['.'] t
    refine ⟨a % 7, ?_⟩
    simp only [weekdaysOfPart, hcut, ha, hb]
    exact List.mem_map.2 ⟨0, List.mem_range.2 (Nat.succ_pos _), rfl⟩

end Items

section Lists

variable {w w' : Text}

theorem IsDayList.readsAsWeekdays (hw : IsDayList w) : ReadsAsWeekdays w := by
  obtain ⟨t, ts, hpieces⟩ := List.exists_cons_of_ne_nil (Text.pieces_ne_nil ',' w)
  have ht : IsDayItem t := hw t (hpieces ▸ List.mem_cons_self)
  refine ⟨?_, ?_, ?_, ?_⟩
  · intro c hc
    rcases Text.mem_pieces_of_mem ',' hc with rfl | ⟨u, hu, hcu⟩
    · exact .inr (.inl rfl)
    · exact ((hw u hu).chars c hcu).imp_right .inr
  · obtain ⟨d, hd⟩ := ht.exists_mem
    have hmem : d ∈ weekdays w := by
      rw [weekdays, mem_ascending, hpieces]
      exact List.mem_flatMap.2 ⟨t, List.mem_cons_self, hd⟩
    exact List.ne_nil_of_mem hmem
  · -- the named events have neither commas nor dots, and none of them is the name of a weekday
    intro e he heq
    have hpresets : ∀ e ∈ presets, ',' ∉ e.1 ∧ '.' ∉ e.1 ∧ e.1 ∉ smallDayNames := by decide
    obtain ⟨hcomma, hdot, hname⟩ := hpresets e he
    have hnotMem : ∀ {m : Char}, m.isAlphanum = false → m ∉ e.1 → m ∉ w := by
      intro m hm hmem hmw
      rw [← heq] at hmem
      exact hmem (List.mem_map.2 ⟨m, hmw, (Text.toLower_eq_iff hm).2 rfl⟩)
    have hitem : IsDayItem w := hw w (by
      rw [Text.pieces_of_notMem (hnotMem rfl hcomma)]
      exact List.mem_cons_self)
    cases hitem with
    | name hw => exact hname (heq ▸ hw)
    | range hs ht => exact hnotMem rfl hdot (by simp)
  · intro c hc
    obtain ⟨d, u, rfl, hd⟩ := ht.head
    have hfirst : w.head? = some d := by
      rw [← Text.join_pieces ',' w, hpieces, Text.head?_join ts (List.cons_ne_nil d u)]
      rfl
    rw [hfirst] at hc
    exact Option.some.inj hc ▸ hd

lemma ascii_of_chars (hw : ∀ c ∈ w, c.isAlpha = true ∨ c = ',' ∨ c = '.') :
    ∀ c ∈ w, c.toNat < 128 := by
  intro c hc
  rcases hw c hc with hletter | rfl | rfl
  · exact Text.toNat_lt_of_isAlphanum (by simp [Char.isAlphanum, hletter])
  · simp
  · simp

section Recased

variable (hw : ReadsAsWeekdays w) (hcase : w'.map Char.toLower = w.map Char.toLower)

include hw hcase

lemma chars_recased : ∀ c ∈ w', c.isAlpha = true ∨ c = ',' ∨ c = '.' := by
  intro c hc
  have hmem : c.toLower ∈ w.map Char.toLower := hcase ▸ List.mem_map_of_mem hc
  obtain ⟨d, hd, hcd⟩ := List.mem_map.1 hmem
  rcases hw.chars d hd with hletter | rfl | rfl
  · exact .inl (Text.isAlpha_of_toLower (hcd ▸ Text.isAlpha_toLower hletter))
  · exact .inr (.inl ((Text.toLower_eq_iff rfl).1 hcd.symm))
  · exact .inr (.inr ((Text.toLower_eq_iff rfl).1 hcd.symm))

lemma weekdays_recased : weekdays w' = weekdays w := by
  rw [← weekdays_toLower (ascii_of_chars (chars_recased hw hcase)), hcase,
    weekdays_toLower (ascii_of_chars hw.chars)]

/-- Writing a list in other letters keeps it what it is. -/
theorem ReadsAsWeekdays.recased : ReadsAsWeekdays w' where
  chars := chars_recased hw hcase
  weekdays_ne_nil := weekdays_recased hw hcase ▸ hw.weekdays_ne_nil
  apart := hcase ▸ hw.apart
  head := by
    intro c hc
    have hfirst : (w.map Char.toLower).head? = some c.toLower := by
      rw [← hcase, List.head?_map, Option.mem_def.1 hc]
      rfl
    rw [List.head?_map] at hfirst
    obtain ⟨d, hd, hdc⟩ := Option.map_eq_some_iff.1 hfirst
    exact hdc ▸ hw.head d hd

end Recased

end Lists

/-! ## Reading the words -/

namespace Parts

variable {w : Text} (p : Parts)

lemma readWord_of_names (h : NamesWeekday w) : p.readWord w = p.readWeekdays w :=
  if_pos (any_occursIn_iff.2 h)

/-- A list of weekdays in which none is named is passed over. -/
lemma readWord_of_unnamed (hw : ReadsAsWeekdays w) (h : ¬ NamesWeekday w) : p.readWord w = p := by
  have hnotMem : ∀ m : Char, m.isAlpha = false → m ≠ ',' → m ≠ '.' → m ∉ w := by
    intro m hletter hcomma hdot hmem
    rcases hw.chars m hmem with hm | rfl | rfl
    · simp [hletter] at hm
    · exact hcomma rfl
    · exact hdot rfl
  have hhyphen : w.contains '-' = false := by
    simpa using hnotMem '-' rfl (by simp) (by simp)
  have hcolon : w.contains ':' = false := by
    simpa using hnotMem ':' rfl (by simp) (by simp)
  rw [readWord, if_neg (mt any_occursIn_iff.1 h), hhyphen, hcolon]
  rfl

/-- A word in which no weekday is named neither looks at the weekdays nor changes them. -/
lemma readWord_withWeekdays (h : ¬ NamesWeekday w) (x : Text) :
    ({ p with dayOfWeek := x } : Parts).readWord w = { p.readWord w with dayOfWeek := x } := by
  rw [readWord, readWord, if_neg (mt any_occursIn_iff.1 h), if_neg (mt any_occursIn_iff.1 h)]
  split_ifs
  · unfold readDate
    split <;> rfl
  · unfold readTime
    split <;> rfl
  · rfl

lemma foldl_withWeekdays {ws : List Text} (h : ∀ w ∈ ws, ¬ NamesWeekday w) (x : Text) :
    ws.foldl readWord { p with dayOfWeek := x } =
      { ws.foldl readWord p with dayOfWeek := x } := by
  induction ws generalizing p with
  | nil => rfl
  | cons w ws ih =>
    rw [List.forall_mem_cons] at h
    rw [List.foldl_cons, List.foldl_cons, readWord_withWeekdays p h.1, ih _ h.2]

end Parts

/-! ## Reading the text -/

/-- The text of the weekday field that a list of weekdays leads to: its days if one of them is named in
it, and otherwise every day. -/
def dayText (w : Text) : Text :=
  if NamesWeekday w then Text.join "," ((weekdays w).map natText) else "*"

/-- The weekdays that are selected in the end. -/
def selectedDays (w : Text) : List Nat := if NamesWeekday w then weekdays w else List.range 7

/-- The five texts for a list of weekdays and the words behind it. -/
def partsOf (w : Text) (rest : List Text) : Parts :=
  { rest.foldl Parts.readWord .free with dayOfWeek := dayText w }

/-- One of five texts, by position. -/
def Parts.get (p : Parts) : Position → Text
  | .minute => p.minute
  | .hour => p.hour
  | .dayOfMonth => p.dayOfMonth
  | .month => p.month
  | .dayOfWeek => p.dayOfWeek

lemma Parts.toList_eq (p : Parts) : p.toList = Position.all.map p.get := rfl

lemma pairwise_weekdays (s : Text) : (weekdays s).Pairwise (· < ·) := pairwise_ascending _

section Word

variable {w : Text} (hw : ReadsAsWeekdays w)

include hw

lemma readWord_list (p : Parts) :
    p.readWord w = if NamesWeekday w then { p with dayOfWeek := dayText w } else p := by
  split
  · next hnames =>
    rw [p.readWord_of_names hnames, Parts.readWeekdays, dayText, if_pos hnames]
    split
    · next hnil => exact absurd hnil hw.weekdays_ne_nil
    · rfl
  · next hnames => exact p.readWord_of_unnamed hw hnames

lemma foldl_list {rest : List Text} (hrest : ∀ v ∈ rest, ¬ NamesWeekday v) :
    (w :: rest).foldl Parts.readWord .free = partsOf w rest := by
  have hfree : Parts.free.readWord w = { Parts.free with dayOfWeek := dayText w } := by
    rw [readWord_list hw]
    split
    · rfl
    · next hnames =>
      rw [dayText, if_neg hnames]
      rfl
  rw [List.foldl_cons, hfree, Parts.foldl_withWeekdays _ hrest]
  rfl

/-- The weekday field is a field with the selected days. -/
lemma exists_read_dayText :
    ∃ g, Field.read .dayOfWeek (dayText w) = .ok g ∧ g.values = selectedDays w := by
  unfold dayText selectedDays
  split
  · have hbounds : ∀ v ∈ weekdays w, Position.dayOfWeek.inBounds v = true ∧
        Position.dayOfWeek.stored v = v := by
      intro v hv
      have hlt := lt_of_mem_weekdays hv
      exact ⟨Position.inBounds_iff.2 ⟨Nat.zero_le v, hlt.le⟩, by simp [Position.stored, hlt.ne]⟩
    exact ⟨_, (Field.isStored_numbers hw.weekdays_ne_nil (pairwise_weekdays w) hbounds).read_raw, rfl⟩
  · exact ⟨⟨"*", List.range 7, [], []⟩, rfl, rfl⟩

lemma chars_dayText : dayText w ≠ [] ∧ ∀ c ∈ dayText w, isFieldChar c = true := by
  unfold dayText
  split
  · constructor
    · obtain ⟨d, ds, hds⟩ := List.exists_cons_of_ne_nil hw.weekdays_ne_nil
      rw [hds, List.map_cons]
      exact Text.join_ne_nil _ (natText_ne_nil d)
    · intro c hc
      rcases Field.isDigit_or_eq_of_mem_numbers hc with hdigit | rfl
      · exact isFieldChar_of_isDigit hdigit
      · rfl
  · refine ⟨List.cons_ne_nil _ _, fun c hc => ?_⟩
    rw [List.mem_singleton.1 hc]
    rfl

end Word

section Event

variable {s w : Text} {rest : List Text} (hs : Text.words s = w :: rest) (hw : ReadsAsWeekdays w)

include hs hw

/-- No list of weekdays starts with the letter that the name of the setting starts with. -/
lemma eventText_of_words : eventText s = Text.trim s := by
  obtain ⟨r, hlower, -⟩ := Text.exists_lower_trim (ascii_of_chars hw.chars) hs
  obtain ⟨hne, -⟩ := Text.isSolid_of_mem_words (s := s) (hs ▸ List.mem_cons_self)
  obtain ⟨c, u, rfl⟩ := List.exists_cons_of_ne_nil hne
  apply eventText_of_head?
  rw [hlower]
  exact fun hhead => hw.head c rfl (Option.some.inj hhead)

/-- A named event is one word, and no list of weekdays. -/
lemma lookup_presets_of_words : presets.lookup (Text.lower (Text.trim s)) = none := by
  obtain ⟨r, hlower, hblank⟩ := Text.exists_lower_trim (ascii_of_chars hw.chars) hs
  have hpresets : ∀ e ∈ presets, ∀ c ∈ e.1, Text.isBlank c = false := by decide
  refine List.lookup_eq_none_iff.2 fun e he => bne_iff_ne.2 fun heq => ?_
  rw [hlower] at heq
  cases r with
  | nil => exact hw.apart e he (by simpa using heq)
  | cons b r =>
    have hb : Text.isBlank b = false := hpresets e he b (heq ▸ by simp)
    simp [hblank b rfl] at hb

lemma toCron_of_words (hrest : ∀ v ∈ rest, ¬ NamesWeekday v) :
    Crontab.toCron s (Dialect.name .systemd) =
      Conversion.ofFieldTexts (Position.all.map (partsOf w rest).get) (some .bestEffort) false := by
  rw [Crontab.toCron, Dialect.ofName?_name]
  change toCron s = _
  rw [toCron, eventText_of_words hs hw, lookup_presets_of_words hs hw, Text.words_trim, hs,
    foldl_list hw hrest, Parts.toList_eq]

lemma noBlank_partsOf (p : Position) : ∀ c ∈ (partsOf w rest).get p, Text.isBlank c = false := by
  have hrest := noBlank_foldl fun v hv =>
    Text.isSolid_of_mem_words (s := s) (hs ▸ List.mem_cons_of_mem w hv)
  obtain ⟨hminute, hhour, hdayOfMonth, hmonth, -⟩ := Parts.all_iff.1 hrest
  cases p
  · exact hminute
  · exact hhour
  · exact hdayOfMonth
  · exact hmonth
  · exact fun c hc => (plain_of_isFieldChar ((chars_dayText hw).2 c hc)).1

/-- A result selects the weekdays that were read. -/
lemma exists_schedule_of_toCron (hrest : ∀ v ∈ rest, ¬ NamesWeekday v) {c : Converted}
    (h : Crontab.toCron s (Dialect.name .systemd) = .ok (.done c)) :
    ∃ e f, Expression.read c.result = .ok e ∧ e.schedule? = some f ∧
      f.dayOfWeek.values = selectedDays w := by
  rw [toCron_of_words hs hw hrest] at h
  obtain ⟨hne, hchars⟩ := chars_dayText hw
  have hat : '@' ∉ (partsOf w rest).get .dayOfWeek := fun hmem => by
    simpa [isFieldChar] using hchars _ hmem
  have hsolid := Conversion.isSolid_of_ofFieldTexts (noBlank_partsOf hs hw) hne hat h
  obtain ⟨-, e, f, hread, hf, hfields⟩ := Conversion.exists_schedule_of_ofFieldTexts hsolid h
  obtain ⟨g, hg, hvalues⟩ := exists_read_dayText hw
  have hfield : g = f.dayOfWeek := Except.ok.inj (hg.symm.trans (hfields .dayOfWeek).1)
  exact ⟨e, f, hread, hf, hfield ▸ hvalues⟩

end Event

/-! ## Two ways to write a list -/

section Pair

variable {s s' w w' : Text} {rest : List Text} (hw : ReadsAsWeekdays w)
  (hcase : w'.map Char.toLower = w.map Char.toLower)

include hw hcase

/-- The two lists lead to the same text when both are taken for lists of weekdays, or neither is. -/
lemma dayText_eq_iff : dayText w' = dayText w ↔ (NamesWeekday w' ↔ NamesWeekday w) := by
  -- a list of weekdays is never taken for `*`
  have hstar : Text.join "," ((weekdays w).map natText) ≠ "*" := by
    intro heq
    have hnone : '*' ∉ Text.join "," ((weekdays w).map natText) := Field.notMem_numbers rfl (by simp)
    exact hnone (heq ▸ List.mem_singleton_self _)
  rw [dayText, dayText, weekdays_recased hw hcase]
  by_cases hnames : NamesWeekday w
  · by_cases hnames' : NamesWeekday w'
    · simp [hnames, hnames']
    · rw [if_pos hnames, if_neg hnames']
      exact iff_of_false hstar.symm (by simp [hnames, hnames'])
  · by_cases hnames' : NamesWeekday w'
    · rw [if_neg hnames, if_pos hnames']
      exact iff_of_false hstar (by simp [hnames, hnames'])
    · simp [hnames, hnames']

/-- The two lists select the same days when they lead to the same text, and when they hold all days. -/
lemma selectedDays_eq_iff :
    selectedDays w' = selectedDays w ↔
      (NamesWeekday w' ↔ NamesWeekday w) ∨ weekdays w = List.range 7 := by
  rw [selectedDays, selectedDays, weekdays_recased hw hcase]
  by_cases hnames : NamesWeekday w
  · by_cases hnames' : NamesWeekday w'
    · simp [hnames, hnames']
    · simp [hnames, hnames', eq_comm]
  · by_cases hnames' : NamesWeekday w'
    · simp [hnames, hnames']
    · simp [hnames, hnames']

omit hw hcase in
lemma dayText_eq_of_join
    (h : Text.join " " (Position.all.map (partsOf w' rest).get) =
      Text.join " " (Position.all.map (partsOf w rest).get)) : dayText w' = dayText w := by
  simpa [Position.all, Text.join, Parts.get, partsOf] using h

end Pair

end OnCalendar

open OnCalendar

/-- **Other letters change the outcome exactly when they take away the last name.**  Take two calendar
events that start with lists of weekdays which differ in the case of their letters, and go on with the
same words, none of which names a weekday.  They have the same outcome exactly when in both lists some
weekday is named as it is written, or in neither, or else when both conversions stop at the same fault.
Where both have a result, each selects the weekdays of the list, or all seven if none is named in it. -/
theorem toCron_recased_iff {s s' w w' : Text} {rest : List Text} (hs : Text.words s = w :: rest)
    (hs' : Text.words s' = w' :: rest) (hlist : IsDayList w)
    (hcase : w'.map Char.toLower = w.map Char.toLower) (hrest : ∀ v ∈ rest, ¬ NamesWeekday v) :
    (toCron s' (Dialect.name .systemd) = toCron s (Dialect.name .systemd) ↔
        (NamesWeekday w' ↔ NamesWeekday w) ∨
          ∃ fault, toCron s (Dialect.name .systemd) = .error fault ∧
            toCron s' (Dialect.name .systemd) = .error fault) ∧
      ∀ c c', toCron s (Dialect.name .systemd) = .ok (.done c) →
        toCron s' (Dialect.name .systemd) = .ok (.done c') →
          ∃ e f e' f', Expression.read c.result = .ok e ∧ e.schedule? = some f ∧
            Expression.read c'.result = .ok e' ∧ e'.schedule? = some f' ∧
            f.dayOfWeek.values = selectedDays w ∧ f'.dayOfWeek.values = selectedDays w' ∧
            (f'.dayOfWeek.values = f.dayOfWeek.values ↔
              (NamesWeekday w' ↔ NamesWeekday w) ∨ weekdays w = List.range 7) := by
  have hw := hlist.readsAsWeekdays
  have hw' := hw.recased hcase
  have htoCron := toCron_of_words hs hw hrest
  have htoCron' := toCron_of_words hs' hw' hrest
  refine ⟨⟨fun heq => ?_, ?_⟩, fun c c' hc hc' => ?_⟩
  · cases hout : toCron s (Dialect.name .systemd) with
    | error fault => exact .inr ⟨fault, rfl, heq.trans hout⟩
    | ok o =>
      -- equal outcomes have equal texts, and the texts differ in the weekdays at most
      have hjoin := Conversion.join_eq_of_ofFieldTexts (htoCron'.symm.trans (heq.trans hout))
        (htoCron.symm.trans hout)
      exact .inl ((dayText_eq_iff hw hcase).1 (dayText_eq_of_join hjoin))
  · rintro (hnames | ⟨fault, hfault, hfault'⟩)
    · rw [htoCron, htoCron', partsOf, partsOf, (dayText_eq_iff hw hcase).2 hnames]
    · rw [hfault, hfault']
  · obtain ⟨e, f, hread, hf, hvalues⟩ := exists_schedule_of_toCron hs hw hrest hc
    obtain ⟨e', f', hread', hf', hvalues'⟩ := exists_schedule_of_toCron hs' hw' hrest hc'
    refine ⟨e, f, e', f', hread, hf, hread', hf', hvalues, hvalues', ?_⟩
    rw [hvalues, hvalues']
    exact selectedDays_eq_iff hw hcase

/-- As long as `Mon` is written with a capital and two small letters, the case of `fri` does not
matter. -/
theorem toCron_recased_iff_friday :
    toCron "Mon,FRI *-*-* 09:00:00" (Dialect.name .systemd) =
        toCron "Mon,fri *-*-* 09:00:00" (Dialect.name .systemd) ∧
      ∃ c e f, toCron "Mon,fri *-*-* 09:00:00" (Dialect.name .systemd) = .ok (.done c) ∧
        Expression.read c.result = .ok e ∧ e.schedule? = some f ∧ f.dayOfWeek.values = [1, 5] := by
  have hlist : IsDayList "Mon,fri" := by
    have hparts : Text.pieces ',' "Mon,fri" = ["Mon".toList, "fri".toList] := rfl
    intro t ht
    rw [hparts] at ht
    rcases List.mem_cons.1 ht with rfl | ht
    · exact .name (by decide)
    · rw [List.mem_singleton.1 ht]
      exact .name (by decide)
  have hwords : Text.words "Mon,fri *-*-* 09:00:00" =
      "Mon,fri".toList :: ["*-*-*".toList, "09:00:00".toList] := rfl
  have hwords' : Text.words "Mon,FRI *-*-* 09:00:00" =
      "Mon,FRI".toList :: ["*-*-*".toList, "09:00:00".toList] := rfl
  have hcase : "Mon,FRI".toList.map Char.toLower = "Mon,fri".toList.map Char.toLower := by
    decide +kernel
  have hrest : ∀ v ∈ ["*-*-*".toList, "09:00:00".toList], ¬ NamesWeekday v := by decide +kernel
  obtain ⟨hiff, hdays⟩ := toCron_recased_iff hwords hwords' hlist hcase hrest
  have hnames : NamesWeekday "Mon,FRI" ↔ NamesWeekday "Mon,fri" := by decide +kernel
  have hsame := hiff.2 (.inl hnames)
  have hdone : (toCron "Mon,fri *-*-* 09:00:00" (Dialect.name .systemd)).toOption =
      some (.done ⟨.cron, "00 09 * * 1,5", none, some "At minute 0 at 9AM on Monday, Friday",
        some .bestEffort, false⟩) := by
    decide +kernel
  obtain ⟨c, hc⟩ : ∃ c, toCron "Mon,fri *-*-* 09:00:00" (Dialect.name .systemd) = .ok (.done c) :=
    ⟨_, eq_ok_of_toOption hdone⟩
  obtain ⟨e, f, -, -, hread, hf, -, -, hvalues, -⟩ := hdays c c hc (hsame.trans hc)
  have hselected : selectedDays "Mon,fri" = [1, 5] := by decide +kernel
  exact ⟨hsame, c, e, f, hc, hread, hf, hvalues.trans hselected⟩

/-- Written in small letters throughout, the Monday is lost: the result holds on every day. -/
theorem monday_passed_over :
    "mon".toList.map Char.toLower = "Mon".toList.map Char.toLower ∧
      ∃ c c', toCron "Mon *-*-* 09:00:00" (Dialect.name .systemd) = .ok (.done c) ∧
        toCron "mon *-*-* 09:00:00" (Dialect.name .systemd) = .ok (.done c') ∧
        c.result = "00 09 * * 1" ∧ c'.result = "00 09 * * *" :=
  ⟨rfl, _, _, rfl, rfl, rfl, rfl⟩

end Crontab
