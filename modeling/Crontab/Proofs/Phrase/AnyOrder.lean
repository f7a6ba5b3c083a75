import Crontab.Proofs.Phrase.Vocabulary

/-!
# Clauses in any order

A time, a weekday, a day of the month and a month may be told side by side, as in
`on the 3rd in may at 7:05pm`, each of them or not, in any order, with any blanks between the words and
in any case.  What is generated depends on which clauses there are and on nothing else
(`generate_wording`).

The marks `at`, `on` and `in` start clauses and stand nowhere else.  So behind a mark there is always the
rest of a clause and then further clauses (`Wording.exists_of_mark`), and a clause that is looked for
behind its mark is found if it is there (`Wording.find?_led`).  Behind the mark `on` there may be a
weekday where a day of the month is looked for; a weekday is looked for without its mark.
-/

namespace Crontab

/-! ## Wordings -/

/-- The clauses that go together in any order. -/
inductive ClauseKind where
  | time
  | weekday
  | date
  | month
  deriving DecidableEq, Repr

/-- The word with which a clause starts. -/
def ClauseKind.mark : ClauseKind → Text
  | time => "at"
  | weekday => "on"
  | date => "on"
  | month => "in"

/-- Different clauses have different marks, but for a weekday and a day of the month. -/
lemma ClauseKind.eq_or_of_mark {a b : ClauseKind} (h : a.mark = b.mark) :
    a = b ∨ a = weekday ∧ b = date ∨ a = date ∧ b = weekday := by
  revert h
  cases a <;> cases b <;> decide

lemma ClauseKind.eq_of_mark {a b : ClauseKind} (h : a.mark = b.mark) (hweekday : b ≠ weekday)
    (hdate : b ≠ date) : a = b := by
  rcases eq_or_of_mark h with h | ⟨-, h⟩ | ⟨-, h⟩
  · exact h
  · exact absurd h hdate
  · exact absurd h hweekday

lemma ClauseKind.isMark (kind : ClauseKind) : Text.IsMark kind.mark := by
  cases kind <;> decide

/-- How each of the clauses is worded, in lower case. -/
structure Wording where
  timeText : Text
  time : TimeOfDay
  isTime : time.IsWritten timeText
  weekdayText : Text
  weekday : ℕ
  isWeekday : IsNameOf dayNames.zipIdx weekday weekdayText
  dateText : Text
  date : ℕ
  isDate : IsNumeral dateText date
  date_length : dateText.length ≤ 2
  date_bounds : 1 ≤ date ∧ date ≤ 31
  ordinal : Text
  isOrdinal : ordinal ∈ Clause.ordinals
  monthText : Text
  month : ℕ
  isMonth : IsNameOf (monthNames.zipIdx 1) month monthText

namespace Wording

variable (w : Wording)

/-- The words of a clause behind its mark. -/
def tail : ClauseKind → List Text
  | .time => [w.timeText]
  | .weekday => [w.weekdayText]
  | .date => ["the", w.dateText ++ w.ordinal]
  | .month => [w.monthText]

/-- The words of a clause. -/
def words (kind : ClauseKind) : List Text := kind.mark :: w.tail kind

/-- The template of some of the clauses: the time is the one that is told, nine o'clock when only a
weekday is told, midnight when only a day of the month is. -/
def template (said : Finset ClauseKind) : Template where
  minute :=
    if .time ∈ said then natText w.time.minute
    else if .weekday ∈ said ∨ .date ∈ said then "0" else "*"
  hour :=
    if .time ∈ said then natText w.time.hour
    else if .weekday ∈ said then "9" else if .date ∈ said then "0" else "*"
  dayOfMonth := if .date ∈ said then natText w.date else "*"
  month := if .month ∈ said then natText w.month else "*"
  dayOfWeek := if .weekday ∈ said then natText w.weekday else "*"

/-! ## The words of a wording -/

lemma isNumberWord_date : IsNumberWord (w.dateText ++ w.ordinal) := by
  have hordinals : ∀ e ∈ Clause.ordinals, ∀ c ∈ e, c ∈ numberEndings := by decide
  simpa using IsNumberWord.of_numeral w.isDate .absent (hordinals _ w.isOrdinal)

variable {w}

lemma mem_tail_cases {v : Text} {kind : ClauseKind} (hv : v ∈ w.tail kind) :
    IsNumberWord v ∨ v = "the".toList ∨ (kind = .weekday ∧ v = w.weekdayText) ∨
      (kind = .month ∧ v = w.monthText) := by
  cases kind with
  | time => exact .inl (List.mem_singleton.1 hv ▸ w.isTime.isNumberWord)
  | weekday => exact .inr (.inr (.inl ⟨rfl, List.mem_singleton.1 hv⟩))
  | date =>
    rcases List.mem_cons.1 hv with hv | hv
    · exact .inr (.inl hv)
    · exact .inl (List.mem_singleton.1 hv ▸ w.isNumberWord_date)
  | month => exact .inr (.inr (.inr ⟨rfl, List.mem_singleton.1 hv⟩))

lemma isClauseWord_of_mem {v : Text} {kind : ClauseKind} (hv : v ∈ w.words kind) :
    IsClauseWord v := by
  rcases List.mem_cons.1 hv with rfl | hv
  · exact .inl (by cases kind <;> decide)
  · rcases mem_tail_cases hv with hv | rfl | ⟨-, rfl⟩ | ⟨-, rfl⟩
    · exact .inr hv
    · exact .inl (by decide)
    · have hname := List.mem_map_of_mem (f := Prod.fst) w.isWeekday.mem_weekdayWords
      exact .inl (List.mem_append_left _ (List.mem_append_right _ hname))
    · have hname := List.mem_map_of_mem (f := Prod.fst) w.isMonth.mem_monthWords
      exact .inl (List.mem_append_right _ hname)

/-- No word behind a mark is a mark. -/
lemma mark_notMem_tail (kind other : ClauseKind) : kind.mark ∉ w.tail other := by
  intro hmem
  have hnames : ∀ n ∈ weekdayWords ++ monthWords, kind.mark ≠ n.1 := by
    cases kind <;> decide
  rcases mem_tail_cases hmem with h | h | ⟨-, h⟩ | ⟨-, h⟩
  · exact h.not_prefix kind.isMark (List.prefix_refl _)
  · exact absurd h (by cases kind <;> decide)
  · exact hnames _ (List.mem_append_left _ w.isWeekday.mem_weekdayWords) h
  · exact hnames _ (List.mem_append_right _ w.isMonth.mem_monthWords) h

/-- A name of a weekday stands in the clause of the weekday and nowhere else. -/
lemma eq_weekdayText {n : Text × ℕ} (hn : n ∈ weekdayWords) {kind : ClauseKind}
    (h : n.1 ∈ w.words kind) : kind = .weekday ∧ n.1 = w.weekdayText := by
  have hplain : ∀ n ∈ weekdayWords, Text.IsMark n.1 ∧ n.1 ≠ "the".toList ∧
      (∀ mark ∈ ["at", "on", "in"].map String.toList, n.1 ≠ mark) ∧
      ∀ m ∈ monthWords, n.1 ≠ m.1 := by decide
  obtain ⟨hmark, hthe, hmarks, hmonths⟩ := hplain n hn
  rcases List.mem_cons.1 h with h | h
  · exact absurd h (hmarks _ (by cases kind <;> decide))
  · rcases mem_tail_cases h with h | h | h | ⟨-, h⟩
    · exact absurd (List.prefix_refl _) (h.not_prefix hmark)
    · exact absurd h hthe
    · exact h
    · exact absurd h (hmonths _ w.isMonth.mem_monthWords)

/-! ### Marks -/

variable {kinds : List ClauseKind}

/-- A mark among the words starts a clause, and behind the clause stand further clauses. -/
lemma exists_of_mark {kind : ClauseKind} {vs ws : List Text}
    (h : kinds.flatMap w.words = vs ++ kind.mark :: ws) :
    ∃ other ∈ kinds, other.mark = kind.mark ∧ ∃ ks : List ClauseKind,
      ws = w.tail other ++ ks.flatMap w.words := by
  induction kinds generalizing vs with
  | nil => simp at h
  | cons k ks ih =>
    have hlater : ∀ us, ks.flatMap w.words = us ++ kind.mark :: ws →
        ∃ other ∈ k :: ks, other.mark = kind.mark ∧ ∃ ks : List ClauseKind,
          ws = w.tail other ++ ks.flatMap w.words := fun us hus => by
      obtain ⟨other, hother, hrest⟩ := ih hus
      exact ⟨other, List.mem_cons_of_mem k hother, hrest⟩
    rw [List.flatMap_cons, words, List.cons_append] at h
    cases vs with
    | nil =>
      obtain ⟨hmark, rfl⟩ := List.cons.inj h
      exact ⟨k, List.mem_cons_self, hmark, ks, rfl⟩
    | cons v vs =>
      rcases List.append_eq_append_iff.1 (List.cons.inj h).2 with ⟨us, -, hus⟩ | ⟨us, htail, hus⟩
      · exact hlater us hus
      · cases us with
        | nil => exact hlater [] hus.symm
        | cons u us =>
          obtain ⟨rfl, -⟩ := List.cons.inj hus
          -- the mark would stand inside a clause
          have hmem : kind.mark ∈ w.tail k := by simp [htail]
          exact absurd hmem (mark_notMem_tail kind k)

lemma exists_of_mem {kind : ClauseKind} (h : kind ∈ kinds) :
    ∃ (vs : List Text) (ks : List ClauseKind),
      kinds.flatMap w.words = vs ++ kind.mark :: (w.tail kind ++ ks.flatMap w.words) := by
  obtain ⟨front, ks, rfl⟩ := List.append_of_mem h
  exact ⟨front.flatMap w.words, ks, by simp [words]⟩

/-! ## Reading the clauses -/

variable {s : Text} (hs : Text.words s = kinds.flatMap w.words)

include hs

lemma isClauseWord_of_mem_words {v : Text} (hv : v ∈ Text.words s) : IsClauseWord v := by
  rw [hs, List.mem_flatMap] at hv
  obtain ⟨kind, -, hv⟩ := hv
  exact isClauseWord_of_mem hv

lemma leads : ∀ v ∈ Text.words s, Text.LettersLead v := fun _ hv =>
  (isClauseWord_of_mem_words hs hv).leads

/-- **A clause is found where it is told**, if it is read behind its mark and no other clause with the
same mark is. -/
theorem find?_led {α : Type} {k : Text → Option α} {r : Option α} (kind : ClauseKind)
    (hread : ∀ t (ks : List ClauseKind), Text.StartsSolid t →
      Text.words t = w.tail kind ++ ks.flatMap w.words → k t = r)
    (hother : ∀ other, other ≠ kind → other.mark = kind.mark → ∀ t (ks : List ClauseKind),
      Text.StartsSolid t → Text.words t = w.tail other ++ ks.flatMap w.words → k t = none) :
    Text.find? (Text.led kind.mark k) s = if kind ∈ kinds then r else none := by
  -- behind the mark stands the clause that is meant, or one that is not read here
  have hbehind : ∀ vs t, Text.words s = vs ++ kind.mark :: Text.words t → Text.StartsSolid t →
      kind ∈ kinds ∧ k t = r ∨ k t = none := by
    intro vs t hsplit ht
    obtain ⟨other, hmem, hmark, ks, hks⟩ := exists_of_mark (hs.symm.trans hsplit)
    by_cases hkind : other = kind
    · subst hkind
      exact .inl ⟨hmem, hread t ks ht hks⟩
    · exact .inr (hother other hkind hmark t ks ht hks)
  have hnone : (kind ∈ kinds → r = none) → Text.find? (Text.led kind.mark k) s = none := fun hr => by
    refine Text.find?_led_eq_none kind.isMark (leads hs) fun vs t hsplit ht => ?_
    rcases hbehind vs t hsplit ht with ⟨hmem, h⟩ | h
    · rw [h, hr hmem]
    · exact h
  split
  · next hmem =>
    cases r with
    | none => exact hnone fun _ => rfl
    | some a =>
      obtain ⟨vs, ks, hsplit⟩ := exists_of_mem (w := w) hmem
      have hne : w.tail kind ++ ks.flatMap w.words ≠ [] := by cases kind <;> simp [tail]
      refine Text.find?_led_eq_some kind.isMark (leads hs) (hs.trans hsplit) hne
        (fun t htail ht => hread t ks ht htail) fun vs t hsplit ht b hb => ?_
      rcases hbehind vs t hsplit ht with ⟨-, h⟩ | h
      · exact (Option.some.inj (h.symm.trans hb)).symm
      · simp [h] at hb
  · next hmem => exact hnone fun h => absurd h hmem

omit hs in
/-- Behind a time no half of the day follows, but further clauses. -/
lemma readHalf_eq_none {r : Text} {ks : List ClauseKind} (hr : Text.words r = ks.flatMap w.words) :
    (WrittenTime.readHalf (Text.trimLeft r)).1 = none := by
  rw [← Text.words_trimLeft] at hr
  cases ks with
  | nil =>
    rw [Text.eq_nil_of_words (Text.startsSolid_trimLeft r) hr]
    rfl
  | cons kind ks =>
    obtain ⟨r', hr', -⟩ := Text.exists_rest_of_words (Text.startsSolid_trimLeft r) hr
    rw [hr']
    cases kind <;> rfl

theorem atClause?_eq : TimeOfDay.atClause? s = if .time ∈ kinds then some w.time else none := by
  obtain ⟨written, htime, hread⟩ := w.isTime.exists_read?
  have hfind := find?_led hs (k := Clause.timeBehind) (r := some written) .time ?read ?other
  case read =>
    intro t ks ht htail
    obtain ⟨r, rfl, hr, hks⟩ := Text.exists_rest_of_words ht htail
    obtain ⟨rest, hrest⟩ := hread r hr (readHalf_eq_none hks)
    rw [Clause.timeBehind, hrest]
    rfl
  case other =>
    exact fun other hkind hmark =>
      absurd (ClauseKind.eq_of_mark hmark (by decide) (by decide)) hkind
  rw [Clause.atClause?_eq_bind]
  refine (congrArg (·.bind WrittenTime.toTime?) hfind).trans ?_
  split
  · exact htime
  · rfl

theorem weekday?_eq : Clause.weekday? s = if .weekday ∈ kinds then some w.weekday else none := by
  have hnames : ∀ n ∈ weekdayWords, Text.IsMark n.1 := by decide
  refine Clause.map_find?_eq (by decide) w.isWeekday.mem_weekdayWords fun n hn => ?_
  rw [Clause.namesDay_iff (leads hs) (hnames n hn)]
  constructor
  · rintro ⟨v, hv, hnamed⟩
    obtain rfl := ((isClauseWord_of_mem_words hs hv).isNamed_iff hn).1 hnamed
    rw [hs, List.mem_flatMap] at hv
    obtain ⟨kind, hkind, hv⟩ := hv
    obtain ⟨rfl, hname⟩ := eq_weekdayText hn hv
    exact ⟨hkind, hname⟩
  · rintro ⟨hkind, hname⟩
    have hv : w.weekdayText ∈ Text.words s := by
      rw [hs, List.mem_flatMap]
      exact ⟨.weekday, hkind, by simp [words, tail]⟩
    exact ⟨_, hv, ((isClauseWord_of_mem_words hs hv).isNamed_iff hn).2 hname.symm⟩

theorem dayOfMonth?_eq : Clause.dayOfMonth? s = if .date ∈ kinds then some w.date else none := by
  rw [Clause.dayOfMonth?_eq_find?]
  refine find?_led hs (k := Clause.dateBehind) .date ?read ?other
  case read =>
    intro t ks ht htail
    obtain ⟨r, rfl, hr, hrest⟩ := Text.exists_rest_of_words ht htail
    exact Clause.dateBehind_the w.isDate w.date_length w.isOrdinal hr hrest
  case other =>
    intro other hkind hmark t ks ht htail
    rcases ClauseKind.eq_or_of_mark hmark with h | ⟨rfl, -⟩ | ⟨-, h⟩
    · exact absurd h hkind
    · obtain ⟨r, rfl, hr, -⟩ := Text.exists_rest_of_words ht htail
      exact Clause.dateBehind_weekday w.isWeekday.mem_weekdayWords hr
    · simp at h

theorem month?_eq : Clause.month? s = if .month ∈ kinds then some w.month else none := by
  refine Clause.map_find?_eq (by decide) w.isMonth.mem_monthWords fun n hn => ?_
  have hfind := find?_led hs (k := Clause.monthBehind n.1)
    (r := if n.1 = w.monthText then some () else none) .month ?read ?other
  case read =>
    intro t ks ht htail
    obtain ⟨r, rfl, hr, -⟩ := Text.exists_rest_of_words ht htail
    exact Clause.monthBehind_month hn w.isMonth.mem_monthWords hr
  case other =>
    exact fun other hkind hmark =>
      absurd (ClauseKind.eq_of_mark hmark (by decide) (by decide)) hkind
  have hnames : Clause.namesMonth n.1 s =
      (if .month ∈ kinds then if n.1 = w.monthText then some () else none else none).isSome :=
    (Clause.namesMonth_eq_isSome n.1).trans (congrArg Option.isSome hfind)
  by_cases hkind : .month ∈ kinds <;> simp [hnames, hkind]

/-! ## Composing them -/

lemma every_notMem : "every".toList ∉ Text.words s := fun hv =>
  (isClauseWord_of_mem_words hs hv).ne_every rfl

lemma setPhrase?_eq_none : setPhrase? s = none := by
  refine setPhrase?_eq_none_of_words fun q hq => ?_
  obtain ⟨v, hv, hlacks⟩ := IsClauseWord.lacks q hq
  exact ⟨v, hv, fun u hu => hlacks u (isClauseWord_of_mem_words hs hu)⟩

theorem template_compose : (Draft.compose s).template = w.template kinds.toFinset := by
  have hstar : ∀ v, natText v ≠ ['*'] := fun v h =>
    Field.notMem_natText (by decide) (h ▸ List.mem_singleton_self '*')
  have hnine : natText 9 = "9" := rfl
  have hzero : natText 0 = "0" := rfl
  have hevery : ∀ unit, Clause.every? unit s = none := Clause.every?_eq_none (leads hs) (every_notMem hs)
  have hday : (if Clause.everyDay s then some () else none) = none := by
    rw [Clause.everyDay_eq_false (leads hs) (every_notMem hs)]
    rfl
  have hdate : ((Clause.dayOfMonth? s).filter fun n => decide (1 ≤ n ∧ n ≤ 31)) =
      if .date ∈ kinds then some w.date else none := by
    rw [dayOfMonth?_eq hs]
    split
    · simp [w.date_bounds]
    · rfl
  have hrange : Clause.weekdayRange? s = none :=
    Clause.weekdayRange?_eq_none fun m hm hv =>
      (isClauseWord_of_mem_words hs hv).notMem_rangeWords hm
  unfold Draft.compose
  rw [hevery, hevery, atClause?_eq hs, hday, weekday?_eq hs, hdate, month?_eq hs, hrange]
  -- the clauses that are told decide which texts are set, and whether a time is needed
  by_cases htime : .time ∈ kinds <;> by_cases hweekday : .weekday ∈ kinds <;>
    by_cases hdate : .date ∈ kinds <;> by_cases hmonth : .month ∈ kinds <;>
    simp [Draft.apply, Draft.empty, Draft.withDefaultTime, Template.atTime, Template.everyMinute,
      template, htime, hweekday, hdate, hmonth, hstar, hnine, hzero]

variable (w) in
omit hs in
/-- The texts of a template are numbers or `*`. -/
lemma isDrafted_template (said : Finset ClauseKind) : (w.template said).IsDrafted [] := by
  have hweekdays : ∀ n ∈ weekdayWords, Position.dayOfWeek.inBounds n.2 = true := by decide
  have hmonths : ∀ n ∈ monthWords, Position.month.inBounds n.2 = true := by decide
  have htime := w.isTime.bounds
  have hhour : Position.hour.inBounds w.time.hour = true :=
    Position.inBounds_iff.2 ⟨Nat.zero_le _, Nat.le_of_lt_succ htime.1⟩
  have hminute : Position.minute.inBounds w.time.minute = true :=
    Position.inBounds_iff.2 ⟨Nat.zero_le _, Nat.le_of_lt_succ htime.2⟩
  refine ⟨?minute, ?hour, ?dayOfMonth, ?month, ?dayOfWeek⟩ <;> dsimp only [template]
  case minute =>
    split_ifs
    · exact .number hminute
    · exact .number (v := 0) (by decide)
    · exact .any
  case hour =>
    split_ifs
    · exact .number hhour
    · exact .number (v := 9) (by decide)
    · exact .number (v := 0) (by decide)
    · exact .any
  case dayOfMonth =>
    split_ifs
    · exact .number (Position.inBounds_iff.2 w.date_bounds)
    · exact .any
  case month =>
    split_ifs
    · exact .number (hmonths _ w.isMonth.mem_monthWords)
    · exact .any
  case dayOfWeek =>
    split_ifs
    · exact .number (hweekdays _ w.isWeekday.mem_weekdayWords)
    · exact .any

end Wording

/-! ## Phrases -/

section Phrases

variable {w : Wording} {kinds : List ClauseKind} {phrase : Text}

lemma words_plainPhrase_of_wording
    (h : (Text.words phrase).map (List.map Char.toLower) = kinds.flatMap w.words) :
    Text.words (plainPhrase phrase) = kinds.flatMap w.words := by
  have hascii : ∀ v ∈ Text.words phrase, ∀ c ∈ v, c.toNat < 128 := by
    intro v hv c hc
    have hlower : v.map Char.toLower ∈ kinds.flatMap w.words := h ▸ List.mem_map_of_mem hv
    obtain ⟨kind, -, hword⟩ := List.mem_flatMap.1 hlower
    have hsmall := (Wording.isClauseWord_of_mem hword).ascii (List.mem_map_of_mem hc)
    rcases Text.toLower_cases c with heq | ⟨hletter, -⟩
    · rwa [heq] at hsmall
    · exact Text.toNat_lt_of_isAlphanum (Bool.or_eq_true_iff.2 (.inl hletter))
  rw [plainPhrase, Text.words_trim, Text.words_lower hascii, h]

lemma Wording.ofPhrase?_eq (hkinds : kinds ≠ [])
    (hs : Text.words (plainPhrase phrase) = kinds.flatMap w.words) :
    Template.ofPhrase? phrase = some (w.template kinds.toFinset) := by
  cases ht : Template.ofPhrase? phrase with
  | none =>
    have hnothing := Template.ofPhrase?_eq_none_iff.1 ht
    obtain ⟨kind, hkind⟩ := List.exists_mem_of_ne_nil _ hkinds
    cases kind with
    | time => simpa [Wording.atClause?_eq hs, hkind] using hnothing.time
    | weekday => simpa [Wording.weekday?_eq hs, hkind] using hnothing.weekday
    | date =>
      have hdate := (Wording.dayOfMonth?_eq hs).trans (if_pos hkind)
      exact absurd w.date_bounds (hnothing.date _ hdate)
    | month => simpa [Wording.month?_eq hs, hkind] using hnothing.month
  | some t =>
    rcases Template.ofPhrase?_cases ht with h | ⟨-, rfl⟩
    · simp [Wording.setPhrase?_eq_none hs] at h
    · rw [Wording.template_compose hs]

/-- **Clauses go together in any order.**  A phrase that consists of clauses, of each kind or not, is
answered with the expression that has the fields of the clauses, whatever their order is, whatever
blanks stand between the words, and in any case. -/
theorem generate_wording (w : Wording) (kinds : List ClauseKind) (hkinds : kinds ≠ [])
    (hphrase : (Text.words phrase).map (List.map Char.toLower) = kinds.flatMap w.words) :
    ∃ f, (∀ p, Field.read p ((w.template kinds.toFinset).get p) = .ok (f.get p)) ∧
      generate phrase = .ok (.success (w.template kinds.toFinset).text
        (Expression.sentence ⟨(w.template kinds.toFinset).text, .timed f false⟩)) := by
  have ht := w.ofPhrase?_eq hkinds (words_plainPhrase_of_wording hphrase)
  obtain ⟨f, hread, hfields⟩ := (w.isDrafted_template kinds.toFinset).exists_read
    (by simp) (Text.runsWithin_of_length_le (by decide))
  exact ⟨f, fun p => (hfields p).1, generate_of_ofPhrase? ht hread fun p => (hfields p).2⟩

/-- The clauses of a Wednesday that is the third of May, in the evening. -/
def Wording.wednesday : Wording where
  timeText := "7:05pm"
  time := ⟨19, 5⟩
  isTime :=
    have hhour : IsNumeral "7" 7 := ⟨by decide, by decide⟩
    have hminute : IsWrittenMinute (':' :: "05".toList) 5 :=
      .given ⟨by decide, by decide⟩ (by decide) (by decide)
    .half .pm hhour (by decide) (by decide) hminute
  weekdayText := "wed"
  weekday := 3
  isWeekday := ⟨"Wednesday", by decide, .inr (by decide)⟩
  dateText := "3"
  date := 3
  isDate := ⟨by decide, by decide⟩
  date_length := by decide
  date_bounds := by decide
  ordinal := "rd"
  isOrdinal := by decide
  monthText := "may"
  month := 5
  isMonth := ⟨"May", by decide, .inl (by decide)⟩

/-- All four clauses, with blanks and capitals of several kinds. -/
theorem generate_wording_wednesday :
    let phrase : Text := "On  the\u00A03RD in\tMAY at 7:05pm ON wed"
    (Text.words phrase).map (List.map Char.toLower) =
        [ClauseKind.date, .month, .time, .weekday].flatMap Wording.wednesday.words ∧
      ∃ f : Fields,
        (∀ p, Field.read p (Template.get ⟨"5", "19", "3", "5", "3"⟩ p) = .ok (f.get p)) ∧
        generate phrase =
          .ok (.success "5 19 3 5 3" (Expression.sentence ⟨"5 19 3 5 3", .timed f false⟩)) := by
  intro phrase
  have hphrase : (Text.words phrase).map (List.map Char.toLower) =
      [ClauseKind.date, .month, .time, .weekday].flatMap Wording.wednesday.words := by decide +kernel
  obtain ⟨f, hfields, hsuccess⟩ := generate_wording Wording.wednesday _ (by decide) hphrase
  exact ⟨hphrase, f, hfields, hsuccess⟩

end Phrases

end Crontab
