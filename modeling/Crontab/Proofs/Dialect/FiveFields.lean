import Crontab.Proofs.Dialect.RecasedWeekdays
import Crontab.Proofs.Dialect.WeekdayShift

/-!
# Five fields from every notation

Whatever is converted to a cron expression is put together from words and then read again
(`exists_fieldTexts`).  From calendar events, from AWS and from Quartz there are always five of them,
because a text that is left empty on the way makes the result too short to be valid.  A text that is
given as a cron expression is taken word by word, and here the reader of the result is no safeguard: it
drops a sixth word in front of the others, for the seconds.  `toCron_fiveFields_iff` says that this is
the only way to a result of more than five fields, and `toCron_keeps_seconds` shows one.

Aliases are left out.  They have no fields, and given as a cron expression they stay what they are.
-/

namespace Crontab

namespace Expression

variable {s : Text} {e : Expression}

/-- A text stands for an expression, or for the start of the machine, by a name alone. -/
def IsAlias (s : Text) : Prop := (aliases.lookup (Text.lower (Text.trim s))).isSome = true

/-- What is valid and no alias has five words, or six with one for the seconds. -/
lemma status_of_not_isAlias (hread : read s = .ok e) (hvalid : e.isValid = true)
    (hs : ¬ IsAlias s) : e.status = .ok ∧
      ((Text.words s).length = 5 ∧ e.secondsIgnored = false ∨
        (Text.words s).length = 6 ∧ e.secondsIgnored = true) := by
  have htimed : ∀ f ignored, e.content = .timed f ignored → e.status = .ok := by
    intro f ignored hcontent
    have herrors : f.errors.isEmpty = true := by
      by_contra hne
      simp [isValid, status, hcontent, hne] at hvalid
    simp [status, hcontent, herrors]
  unfold read at hread
  split at hread
  · next rest htrim =>
    -- behind an at sign only an alias is valid
    have hnone : aliases.lookup (Text.lower ('@' :: rest)) = none := by
      rw [← htrim]
      exact Option.not_isSome_iff_eq_none.1 hs
    rw [Content.ofAlias, hnone] at hread
    obtain rfl := pure_eq_ok_iff.1 hread
    simp [isValid, status] at hvalid
  · obtain ⟨content, hcontent, hread⟩ := bind_eq_ok_iff.1 hread
    obtain rfl := pure_eq_ok_iff.1 hread
    unfold Content.ofFields at hcontent
    split at hcontent
    · next hwords =>
      obtain ⟨f, -, hcontent⟩ := bind_eq_ok_iff.1 hcontent
      obtain rfl := pure_eq_ok_iff.1 hcontent
      exact ⟨htimed f false rfl, .inl ⟨congrArg List.length hwords, rfl⟩⟩
    · next hwords =>
      obtain ⟨f, -, hcontent⟩ := bind_eq_ok_iff.1 hcontent
      obtain rfl := pure_eq_ok_iff.1 hcontent
      exact ⟨htimed f true rfl, .inr ⟨congrArg List.length hwords, rfl⟩⟩
    · obtain rfl := pure_eq_ok_iff.1 hcontent
      simp [isValid, status] at hvalid

/-- No alias has two words. -/
lemma not_isAlias_join {w v : Text} {ws : List Text} (hsolid : ∀ u ∈ w :: v :: ws, Text.IsSolid u) :
    ¬ IsAlias (Text.join " " (w :: v :: ws)) := by
  have haliases : ∀ a ∈ aliases, ' ' ∉ a.1 := by decide
  have htrim : Text.trim (Text.join " " (w :: v :: ws)) = Text.join " " (w :: v :: ws) :=
    Text.trim_join hsolid
  have hspace : ' ' ∈ Text.join " " (w :: v :: ws) := by
    rw [Text.join_cons_cons]
    simp
  rw [IsAlias, Option.not_isSome_iff_eq_none, List.lookup_eq_none_iff, htrim]
  refine fun a ha => bne_iff_ne.2 fun heq => haliases a ha ?_
  rw [← heq]
  exact Text.space_mem_lower hspace

/-- The words of a text make an alias when the text is one. -/
lemma isAlias_of_join_words (h : IsAlias (Text.join " " (Text.words s))) : IsAlias s := by
  have hsolid : ∀ w ∈ Text.words s, Text.IsSolid w := fun w => Text.isSolid_of_mem_words
  cases hwords : Text.words s with
  | nil =>
    rw [hwords] at h
    exact absurd h (by unfold IsAlias; decide)
  | cons w ws =>
    rw [hwords] at h hsolid
    cases ws with
    | nil =>
      have hw : Text.trim w = w :=
        Text.trim_of_noBlank (hsolid w List.mem_cons_self).2
      rw [Text.join_singleton, IsAlias, hw] at h
      rw [IsAlias, Text.trim_of_words hwords]
      exact h
    | cons v ws => exact absurd h (not_isAlias_join hsolid)

end Expression

namespace Conversion

variable {parts : List Text} {note? : Option Note} {exact : Bool} {c : Converted}

/-- What is converted into five fields has been read as valid, and is told as it was read. -/
lemma exists_read_of_ofFieldTexts (h : ofFieldTexts parts note? exact = .ok (.done c)) :
    ∃ e, Expression.read c.result = .ok e ∧ e.isValid = true ∧ c.sentence? = some e.sentence := by
  have hresult := result_of_ofFieldTexts h
  obtain ⟨e, hread, h⟩ := bind_eq_ok_iff.1 h
  split at h
  · next hvalid =>
    obtain rfl := Conversion.done.inj (pure_eq_ok_iff.1 h)
    exact ⟨e, hread, hvalid, rfl⟩
  · simp [pure, Except.pure] at h

end Conversion

/-! ## The words of a result -/

/-- A result is put together from five words. -/
def Converted.IsOfFiveWords (c : Converted) : Prop :=
  ∃ parts note? exact, Conversion.ofFieldTexts parts note? exact = .ok (.done c) ∧
    parts.length = 5 ∧ ∀ w ∈ parts, Text.IsSolid w

/-! ### Question marks -/

/-- The weekday field stays a word when it is counted from 0. -/
lemma isSolid_of_weekdayField {w v : Text} (hw : Text.IsSolid w) (h : weekdayField w = .ok v) :
    Text.IsSolid v := by
  have hs := isSolid_withoutQuestionMark hw
  unfold weekdayField at h
  split at h
  · obtain rfl := Except.ok.inj h
    exact ⟨by decide, by decide⟩
  · generalize withoutQuestionMark w = s at h hs
    obtain ⟨us, htokens, h⟩ := bind_eq_ok_iff.1 h
    obtain rfl := pure_eq_ok_iff.1 h
    have htokens := mapM_eq_ok_iff.1 htokens
    constructor
    · -- a single piece is the field itself, and between two of them stands a comma
      have hjoin := Text.join_pieces ',' s
      generalize Text.pieces ',' s = ts at htokens hjoin
      cases htokens with
      | nil => exact absurd hjoin.symm hs.1
      | cons hu hus =>
        cases hus with
        | nil =>
          rcases WeekdayList.chars_of_tokenFromZero hu with rfl | ⟨hne, -⟩
          · exact fun hnil => hs.1 (hjoin.symm.trans hnil)
          · exact hne
        | cons _ _ => simp [Text.join_cons_cons]
    · intro c hc
      rcases Text.mem_join hc with hc | ⟨u, hu, hc⟩
      · rw [List.mem_singleton.1 hc]
        decide
      · obtain ⟨t, ht, hu⟩ := exists_of_forall₂_right htokens hu
        rcases WeekdayList.chars_of_tokenFromZero hu with rfl | ⟨-, hchars⟩
        · exact hs.2 c (Text.mem_of_mem_pieces ht hc)
        · rcases hchars c hc with hdigit | rfl
          · exact (plain_of_isFieldChar (isFieldChar_of_isDigit hdigit)).1
          · decide

section Results

variable {c : Converted}

lemma isOfFiveWords_of_ofQuestionMarkTexts {minute hour dayOfMonth month dayOfWeek : Text}
    {note? : Option Note} {exact : Bool}
    (hsolid : ∀ t ∈ [minute, hour, dayOfMonth, month, dayOfWeek], Text.IsSolid t)
    (h : ofQuestionMarkTexts minute hour dayOfMonth month dayOfWeek note? exact = .ok (.done c)) :
    c.IsOfFiveWords := by
  obtain ⟨v, hv, h⟩ := bind_eq_ok_iff.1 h
  refine ⟨_, _, _, h, rfl, ?_⟩
  simp only [List.forall_mem_cons] at hsolid ⊢
  obtain ⟨hminute, hhour, hdayOfMonth, hmonth, hdayOfWeek, -⟩ := hsolid
  exact ⟨isSolid_withoutQuestionMark hminute, isSolid_withoutQuestionMark hhour,
    isSolid_withoutQuestionMark hdayOfMonth, isSolid_withoutQuestionMark hmonth,
    isSolid_of_weekdayField hdayOfWeek hv, by simp⟩

lemma isOfFiveWords_of_quartz {s : Text} (h : Quartz.toCron s = .ok (.done c)) : c.IsOfFiveWords := by
  have hsolid : ∀ w ∈ Text.words s, Text.IsSolid w := fun w => Text.isSolid_of_mem_words
  unfold Quartz.toCron at h
  split at h
  · next hwords =>
    rw [hwords, List.forall_mem_cons] at hsolid
    exact isOfFiveWords_of_ofQuestionMarkTexts hsolid.2 h
  · next hwords =>
    rw [hwords] at hsolid
    exact isOfFiveWords_of_ofQuestionMarkTexts
      (fun t ht => hsolid t (List.mem_cons_of_mem _ (List.mem_append_left [_] ht))) h
  · simp [pure, Except.pure] at h

lemma isOfFiveWords_of_aws {s : Text} (h : Aws.toCron s = .ok (.done c)) : c.IsOfFiveWords := by
  unfold Aws.toCron at h
  split at h
  · simp [pure, Except.pure] at h
  · next hwords =>
    obtain ⟨body, -, hbody⟩ := Option.map_eq_some_iff.1 hwords
    have hsolid : ∀ w ∈ Text.words body, Text.IsSolid w := fun w => Text.isSolid_of_mem_words
    rw [hbody] at hsolid
    exact isOfFiveWords_of_ofQuestionMarkTexts
      (fun t ht => hsolid t (List.mem_append_left [_] ht)) h
  · simp [pure, Except.pure] at h

/-! ### Calendar events -/

namespace OnCalendar

/-- The weekdays that have been read can stand in a field. -/
def WeekdaysAreField (p : Parts) : Prop :=
  p.dayOfWeek ≠ [] ∧ ∀ c ∈ p.dayOfWeek, isFieldChar c = true

/-- The weekdays that have been read are always a field: there is no condition, or there are numbers. -/
lemma weekdaysAreField_foldl {ws : List Text} {p : Parts} (hp : WeekdaysAreField p) :
    WeekdaysAreField (ws.foldl Parts.readWord p) := by
  induction ws generalizing p with
  | nil => exact hp
  | cons w ws ih =>
    refine ih ?_
    by_cases hnames : NamesWeekday w
    · rw [p.readWord_of_names hnames, Parts.readWeekdays, WeekdaysAreField]
      split
      · exact hp
      · next hdays =>
        obtain ⟨d, ds, hds⟩ := List.exists_cons_of_ne_nil hdays
        refine ⟨hds ▸ Text.join_ne_nil _ (natText_ne_nil d), fun c hc => ?_⟩
        rcases Field.isDigit_or_eq_of_mem_numbers hc with hdigit | rfl
        · exact isFieldChar_of_isDigit hdigit
        · rfl
    · rw [p.readWord_withWeekdays hnames p.dayOfWeek]
      exact hp

end OnCalendar

lemma isOfFiveWords_of_onCalendar {s : Text} (h : OnCalendar.toCron s = .ok (.done c)) : c.IsOfFiveWords := by
  unfold OnCalendar.toCron at h
  dsimp only at h
  split at h
  · next fields hlookup =>
    have hpresets : ∀ e ∈ OnCalendar.presets, e.2.length = 5 ∧ ∀ w ∈ e.2, Text.IsSolid w := by decide
    exact ⟨_, _, _, h, hpresets _ (mem_of_lookup hlookup)⟩
  · generalize hws : Text.words (OnCalendar.eventText s) = ws at h
    have hsolid : ∀ w ∈ ws, Text.IsSolid w := fun w hw => Text.isSolid_of_mem_words (hws ▸ hw)
    have hfree : OnCalendar.WeekdaysAreField .free := ⟨by decide, by decide⟩
    obtain ⟨hne, hchars⟩ : OnCalendar.WeekdaysAreField (ws.foldl OnCalendar.Parts.readWord .free) :=
      OnCalendar.weekdaysAreField_foldl hfree
    have hblank := OnCalendar.noBlank_foldl hsolid
    generalize ws.foldl OnCalendar.Parts.readWord .free = p at h hne hchars hblank
    rw [OnCalendar.Parts.toList_eq] at h
    refine ⟨_, _, _, h, rfl, Expression.isSolid_of_mem ?_⟩
    refine Conversion.isSolid_of_ofFieldTexts (fun q => hblank _ ?_) hne (fun hat => ?_) h
    · rw [OnCalendar.Parts.toList_eq]
      exact List.mem_map.2 ⟨q, Fields.mem_all q, rfl⟩
    · simpa [isFieldChar] using hchars _ hat

/-! ## Every notation -/

/-- A result is put together from words: those of the text, if it is given as a cron expression, and
otherwise five. -/
theorem exists_fieldTexts {s source : Text} (h : toCron s source = .ok (.done c)) :
    ∃ parts note? exact, Conversion.ofFieldTexts parts note? exact = .ok (.done c) ∧
      (∀ w ∈ parts, Text.IsSolid w) ∧
      (Dialect.ofName? source = some .cron ∧ parts = Text.words s ∨
        Dialect.ofName? source ≠ some .cron ∧ parts.length = 5) := by
  have hfive : Dialect.ofName? source ≠ some .cron → c.IsOfFiveWords → ∃ parts note? exact,
      Conversion.ofFieldTexts parts note? exact = .ok (.done c) ∧ (∀ w ∈ parts, Text.IsSolid w) ∧
        (Dialect.ofName? source = some .cron ∧ parts = Text.words s ∨
          Dialect.ofName? source ≠ some .cron ∧ parts.length = 5) := by
    rintro hsource ⟨parts, note?, exact, hparts, hlength, hsolid⟩
    exact ⟨parts, note?, exact, hparts, hsolid, .inr ⟨hsource, hlength⟩⟩
  unfold toCron at h
  split at h
  · next hsource =>
    exact ⟨_, _, _, h, fun w => Text.isSolid_of_mem_words, .inl ⟨hsource, rfl⟩⟩
  · next hsource => exact hfive (by simp [hsource]) (isOfFiveWords_of_aws h)
  · next hsource => exact hfive (by simp [hsource]) (isOfFiveWords_of_onCalendar h)
  · next hsource => exact hfive (by simp [hsource]) (isOfFiveWords_of_quartz h)
  · next hsource => exact hfive (by simp [hsource]) (isOfFiveWords_of_quartz h)
  · simp [pure, Except.pure] at h

/-- **Five fields, unless six are given as a cron expression.**  Take any text but an alias, and any
notation that it is converted from.  The result is read as a valid expression with fields, and it is
told by the sentence of this expression.  It has five words, with none for the seconds among them,
exactly when the text was not given as a cron expression of six words.  As a cron expression the text
is given back word by word. -/
theorem toCron_fiveFields_iff {s source : Text} (hs : ¬ Expression.IsAlias s)
    (h : toCron s source = .ok (.done c)) :
    ∃ e, Expression.read c.result = .ok e ∧ e.status = .ok ∧
      c.sentence? = some e.sentence ∧ describe c.result = .ok e.sentence ∧
      ((Text.words c.result).length = 5 ∧ e.secondsIgnored = false ↔
        ¬ (Dialect.ofName? source = some .cron ∧ (Text.words s).length = 6)) ∧
      (Dialect.ofName? source = some .cron → Text.words c.result = Text.words s) := by
  obtain ⟨parts, note?, exact, hparts, hsolid, hsource⟩ := exists_fieldTexts h
  obtain ⟨e, hread, hvalid, hsentence⟩ := Conversion.exists_read_of_ofFieldTexts hparts
  have hresult := Conversion.result_of_ofFieldTexts hparts
  have hwords : Text.words c.result = parts := by
    rw [hresult]
    exact Text.words_join hsolid
  -- the result is made of the words of the text, which is no alias, or of five words
  have halias : ¬ Expression.IsAlias c.result := by
    intro hresultAlias
    rcases hsource with ⟨-, rfl⟩ | ⟨-, hfive⟩
    · exact hs (Expression.isAlias_of_join_words (hresult ▸ hresultAlias))
    · match parts, hfive with
      | w :: v :: ws, _ => exact Expression.not_isAlias_join hsolid (hresult ▸ hresultAlias)
  obtain ⟨hstatus, hcount⟩ := Expression.status_of_not_isAlias hread hvalid halias
  have hdescribe : describe c.result = .ok e.sentence := by
    rw [describe, hread]
    rfl
  rw [hwords] at hcount ⊢
  refine ⟨e, hread, hstatus, hsentence, hdescribe, ?_, ?_⟩
  · rcases hsource with ⟨hcron, rfl⟩ | ⟨hother, hfive⟩
    · rcases hcount with ⟨hfive, hignored⟩ | ⟨hsix, hignored⟩
      · simp [hfive, hignored]
      · simp [hsix, hcron]
    · rcases hcount with ⟨-, hignored⟩ | ⟨hsix, -⟩
      · simp [hfive, hignored, hother]
      · omega
  · intro hcron
    rcases hsource with ⟨-, hparts⟩ | ⟨hother, -⟩
    · exact hparts
    · exact absurd hcron hother

end Results

/-- The year of an AWS expression is gone, and five fields are left. -/
theorem toCron_fiveFields_iff_workdays :
    ¬ Expression.IsAlias "cron(0 9 ? * 2-6 *)" ∧
      ∃ c e, toCron "cron(0 9 ? * 2-6 *)" (Dialect.name .aws) = .ok (.done c) ∧
        c.result = "0 9 * * 1-5" ∧ Expression.read c.result = .ok e ∧ e.status = .ok ∧
        (Text.words c.result).length = 5 ∧ e.secondsIgnored = false ∧
        describe c.result = .ok e.sentence := by
  have halias : ¬ Expression.IsAlias "cron(0 9 ? * 2-6 *)" := by
    unfold Expression.IsAlias
    decide
  have hdone : (toCron "cron(0 9 ? * 2-6 *)" (Dialect.name .aws)).toOption =
      some (.done ⟨.cron, "0 9 * * 1-5", none, some "At minute 0 at 9AM on weekdays", none, true⟩) := by
    decide +kernel
  have hconverted := eq_ok_of_toOption hdone
  obtain ⟨e, hread, hstatus, -, hdescribe, hiff, -⟩ := toCron_fiveFields_iff halias hconverted
  obtain ⟨hfive, hignored⟩ := hiff.2 fun h => absurd h.1 (by decide)
  exact ⟨halias, _, e, hconverted, rfl, hread, hstatus, hfive, hignored, hdescribe⟩

/-- Six words with the seconds in front pass for five fields when they are given as a cron expression:
they are given back as they are, and the result is even called exact. -/
theorem toCron_keeps_seconds :
    ¬ Expression.IsAlias "0 0 9 * * *" ∧
      ∃ c e, toCron "0 0 9 * * *" (Dialect.name .cron) = .ok (.done c) ∧
        c.result = "0 0 9 * * *" ∧ c.exact = true ∧ (Text.words c.result).length = 6 ∧
        Expression.read c.result = .ok e ∧ e.secondsIgnored = true := by
  refine ⟨?_, _, _, rfl, rfl, rfl, rfl, rfl, rfl⟩
  unfold Expression.IsAlias
  decide

end Crontab
