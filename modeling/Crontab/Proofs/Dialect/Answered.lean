import Crontab.Dialect.Conversion
import Crontab.Proofs.Accepted
import Crontab.Proofs.Answered
import Crontab.Proofs.Dialect.WeekdayReading

/-!
# Conversions are answered

Conversions read texts as expressions, and they do arithmetic of their own on weekdays.  They stop at
nothing but a run of digits that is too long, whatever the notation, and they answer for every tame
text: what they make of it is tame again, because a weekday that is counted from another day has no
more digits than before (`length_natText_le`).

`entryPoints_answer` puts together what holds of all ways into the library.  Telling the dialect of a
text (`detect`) is left out there: it looks at the text only and has no fault to stop with.
-/

namespace Crontab

open Text (IsTame)

/-! ## Lenient conversions -/

lemma isLenient_readDigits (s : Text) : IsLenient (readDigits s) := by
  intro e h
  unfold readDigits at h
  split at h
  · simp at h
  · exact ⟨s.length, by omega, (Except.error.inj h).symm⟩

lemma isLenient_fromText (d : Dialect) (s : Text) (reboot : Conversion)
    (write : Expression → Fields → Converted) : IsLenient (Conversion.fromText d s reboot write) := by
  refine (isLenient_read s).bind fun e => ?_
  split
  · exact .pure _
  · split <;> exact .pure _

lemma isLenient_ofFieldTexts (parts : List Text) (note? : Option Note) (exact : Bool) :
    IsLenient (Conversion.ofFieldTexts parts note? exact) := by
  refine (isLenient_read _).bind fun e => ?_
  split <;> exact .pure _

lemma isLenient_tokenFromZero (token : Text) : IsLenient (tokenFromZero token) := by
  unfold tokenFromZero
  split
  · exact (isLenient_readDigits _).bind fun _ => .pure _
  · split
    · refine (isLenient_readDigits _).bind fun _ => (isLenient_readDigits _).bind fun _ => ?_
      dsimp only
      split <;> exact .pure _
    · exact .pure _

lemma isLenient_weekdayField (s : Text) : IsLenient (weekdayField s) := by
  unfold weekdayField
  split
  · exact .ok _
  · exact (IsLenient.mapM isLenient_tokenFromZero).bind fun _ => .pure _

lemma isLenient_ofQuestionMarkTexts (m h d mo w : Text) (note? : Option Note) (exact : Bool) :
    IsLenient (ofQuestionMarkTexts m h d mo w note? exact) :=
  (isLenient_weekdayField w).bind fun _ => isLenient_ofFieldTexts _ _ _

lemma isLenient_fromCron (s target : Text) : IsLenient (fromCron (.ok s) target) := by
  unfold fromCron
  split
  · exact isLenient_fromText _ _ _ _
  · exact isLenient_fromText _ _ _ _
  · exact isLenient_fromText _ _ _ _
  · exact isLenient_fromText _ _ _ _
  · exact isLenient_fromText _ _ _ _
  · exact .pure _

lemma isLenient_quartz (s : Text) : IsLenient (Quartz.toCron s) := by
  unfold Quartz.toCron
  split
  · exact isLenient_ofQuestionMarkTexts _ _ _ _ _ _ _
  · exact isLenient_ofQuestionMarkTexts _ _ _ _ _ _ _
  · exact .pure _

lemma isLenient_aws (s : Text) : IsLenient (Aws.toCron s) := by
  unfold Aws.toCron
  split
  · exact .pure _
  · exact isLenient_ofQuestionMarkTexts _ _ _ _ _ _ _
  · exact .pure _

lemma isLenient_onCalendar (s : Text) : IsLenient (OnCalendar.toCron s) := by
  unfold OnCalendar.toCron
  dsimp only
  split <;> exact isLenient_ofFieldTexts _ _ _

lemma isLenient_toCron (s source : Text) : IsLenient (toCron s source) := by
  unfold toCron
  split
  · exact isLenient_ofFieldTexts _ _ _
  · exact isLenient_aws s
  · exact isLenient_onCalendar s
  · exact isLenient_quartz s
  · exact isLenient_quartz s
  · exact .pure _

/-! ## Tame conversions -/

lemma exists_fromText {s : Text} (h : IsTame s) (d : Dialect) (reboot : Conversion)
    (write : Expression → Fields → Converted) : ∃ c, Conversion.fromText d s reboot write = .ok c := by
  obtain ⟨e, he⟩ := exists_read h
  rw [Conversion.fromText, he, ok_bind]
  split
  · exact ⟨_, rfl⟩
  · split <;> exact ⟨_, rfl⟩

lemma exists_fromCron {s : Text} (h : IsTame s) (target : Text) :
    ∃ c, fromCron (.ok s) target = .ok c := by
  unfold fromCron
  split
  · exact exists_fromText h _ _ _
  · exact exists_fromText h _ _ _
  · exact exists_fromText h _ _ _
  · exact exists_fromText h _ _ _
  · exact exists_fromText h _ _ _
  · exact ⟨_, rfl⟩

lemma exists_ofFieldTexts {parts : List Text} (h : ∀ t ∈ parts, IsTame t) (note? : Option Note)
    (exact : Bool) : ∃ c, Conversion.ofFieldTexts parts note? exact = .ok c := by
  have hspace : Text.isRunning ' ' = false := by decide
  obtain ⟨e, he⟩ := exists_read (Text.RunsWithin.join hspace h)
  rw [Conversion.ofFieldTexts, show Expression.read (Text.join " " parts) = .ok e from he, ok_bind]
  split <;> exact ⟨_, rfl⟩

/-! ### Weekdays -/

lemma digitsValue_lt {s : Text} (hs : ∀ c ∈ s, c.isDigit = true) :
    digitsValue s < 10 ^ s.length := by
  -- stated for any number that was read in front of the digits
  have hfrom : ∀ n, Nat.ofDigitChars 10 s n < (n + 1) * 10 ^ s.length := by
    induction s with
    | nil => simp
    | cons c s ih =>
      intro n
      rw [List.forall_mem_cons] at hs
      have hdigit : c.toNat - '0'.toNat < 10 := by
        have hc := hs.1
        simp [Char.isDigit, UInt32.le_iff_toNat_le] at hc ⊢
        omega
      rw [Nat.ofDigitChars_cons, List.length_cons, Nat.pow_succ']
      refine Nat.lt_of_lt_of_le (ih hs.2 _) ?_
      rw [← Nat.mul_assoc]
      exact Nat.mul_le_mul_right _ (by omega)
  simpa [digitsValue] using hfrom 0

/-- A number that is no greater than what digits denote has no more digits. -/
lemma length_natText_le {s : Text} (hs : Text.isDigits s = true) {n : ℕ} (h : n ≤ digitsValue s) :
    (natText n).length ≤ s.length := by
  obtain ⟨hne, hdigits⟩ := Text.isDigits_iff.1 hs
  rw [natText, Nat.length_toDigits_le_iff (by decide) (List.length_pos_of_ne_nil hne)]
  exact Nat.lt_of_le_of_lt h (digitsValue_lt hdigits)

lemma length_le_of_isTame {s : Text} (hs : Text.isDigits s = true) (h : IsTame s) :
    s.length ≤ digitLimit := by
  refine h s (List.infix_refl s) fun c hc => ?_
  have hdigit := (Text.isDigits_iff.1 hs).2 c hc
  rw [Text.isRunning, Text.lowersTo_of_ascii (Text.toNat_lt_of_isDigit hdigit),
    (plain_of_isFieldChar (isFieldChar_of_isDigit hdigit)).2.1]
  simp [Char.isAlphanum, hdigit]

/-- Counted from 0, a weekday has no more digits than before. -/
lemma isTame_toZeroBased {s : Text} (hs : Text.isDigits s = true) (h : IsTame s) :
    IsTame (intText (toZeroBased (digitsValue s))) := by
  have hlength := length_le_of_isTame hs h
  cases hv : digitsValue s with
  | zero => exact .of_length (by decide)
  | succ v =>
    have hle := length_natText_le hs (show v ≤ digitsValue s by omega)
    rw [toZeroBased_succ, intText_ofNat]
    exact .of_length (hle.trans hlength)

lemma exists_isTame_tokenFromZero {token : Text} (h : IsTame token) :
    ∃ t, tokenFromZero token = .ok t ∧ IsTame t := by
  unfold tokenFromZero
  split
  · next hdigits =>
    rw [readDigits_of_length_le (length_le_of_isTame hdigits h)]
    exact ⟨_, rfl, isTame_toZeroBased hdigits h⟩
  · split
    · next first last hrange =>
      obtain ⟨rfl, hfirst, hlast⟩ := WeekdayList.numericRange?_eq_some hrange
      have ha := h.of_part (List.prefix_append _ _).isInfix
      have hb := h.of_part (Text.isInfix_append_cons _ _ _)
      rw [readDigits_of_length_le (length_le_of_isTame hfirst ha),
        readDigits_of_length_le (length_le_of_isTame hlast hb)]
      simp only [ok_bind]
      split
      · refine ⟨_, rfl, ?_⟩
        rw [List.append_assoc]
        exact (isTame_toZeroBased hfirst ha).append_cons (by decide) (isTame_toZeroBased hlast hb)
      · exact ⟨_, rfl, h⟩
    · exact ⟨_, rfl, h⟩

/-- A day field without its question mark stays tame. -/
lemma isTame_withoutQuestionMark {s : Text} (h : IsTame s) : IsTame (withoutQuestionMark s) := by
  unfold withoutQuestionMark
  split
  · exact .of_length (by decide)
  · exact h

lemma exists_isTame_weekdayField {s : Text} (h : IsTame s) : ∃ t, weekdayField s = .ok t ∧ IsTame t := by
  unfold weekdayField
  split
  · exact ⟨_, rfl, .of_length (by decide)⟩
  · have htokens : ∀ t ∈ Text.pieces ',' (withoutQuestionMark s),
        ∃ u, tokenFromZero t = .ok u ∧ IsTame u := fun t ht =>
      exists_isTame_tokenFromZero ((isTame_withoutQuestionMark h).of_part (Text.isInfix_of_mem_pieces ht))
    obtain ⟨tokens, hread, htame⟩ := exists_mapM_of_forall htokens
    have hcomma : Text.isRunning ',' = false := by decide
    rw [weekdaysFromZero, hread]
    exact ⟨_, rfl, Text.RunsWithin.join hcomma htame⟩

/-! ### Question marks -/

lemma exists_ofTameTexts {m h d mo w : Text} (htame : ∀ t ∈ [m, h, d, mo, w], IsTame t)
    (note? : Option Note) (exact : Bool) :
    ∃ c, ofQuestionMarkTexts m h d mo w note? exact = .ok c := by
  simp only [List.forall_mem_cons] at htame
  obtain ⟨hm, hh, hd, hmo, hw, -⟩ := htame
  obtain ⟨t, ht, htame⟩ := exists_isTame_weekdayField hw
  rw [ofQuestionMarkTexts, ht, ok_bind]
  refine exists_ofFieldTexts ?_ _ _
  simp only [List.forall_mem_cons]
  exact ⟨isTame_withoutQuestionMark hm, isTame_withoutQuestionMark hh, isTame_withoutQuestionMark hd,
    isTame_withoutQuestionMark hmo, htame, by simp⟩

lemma exists_quartz {s : Text} (h : IsTame s) : ∃ c, Quartz.toCron s = .ok c := by
  have hword : ∀ w ∈ Text.words s, IsTame w := fun w hw => h.of_part (Text.isInfix_of_mem_words hw)
  unfold Quartz.toCron
  split
  · next hwords =>
    rw [hwords, List.forall_mem_cons] at hword
    exact exists_ofTameTexts hword.2 _ _
  · next hwords =>
    rw [hwords] at hword
    exact exists_ofTameTexts (fun t ht => hword t (by simp at ht ⊢; tauto)) _ _
  · exact ⟨_, rfl⟩

namespace Aws

lemma suffix_of_openCall? {s t : Text} (h : openCall? s = some t) : t <:+ s := by
  unfold openCall? at h
  split at h
  · next c r o n rest =>
    split at h
    · have hrest := (Text.suffix_of_skip? h).trans (List.dropWhile_suffix Text.isBlank)
      exact hrest.trans ⟨[c, r, o, n], rfl⟩
    · simp at h
  · simp at h

lemma prefix_of_untilClosed? {s t : Text} (h : untilClosed? s = some t) : t <+: s := by
  induction s generalizing t with
  | nil => simp [untilClosed?] at h
  | cons c s ih =>
    unfold untilClosed? at h
    split at h
    · simp at h
    · split at h
      · rw [← Option.some.inj h]
        exact ⟨s, rfl⟩
      · obtain ⟨u, hu, rfl⟩ := Option.map_eq_some_iff.1 h
        exact List.cons_prefix_cons.2 ⟨rfl, ih hu⟩

lemma part_of_callBody? {s t : Text} (h : callBody? s = some t) : t <:+: s := by
  unfold callBody? at h
  split at h
  · next body hbody =>
    rw [← Option.some.inj h]
    exact (prefix_of_untilClosed? hbody).isInfix.trans (List.dropWhile_suffix _).isInfix
  · split at h
    · rw [← Option.some.inj h]
      exact (List.nil_prefix).isInfix
    · simp at h

/-- The words between the brackets are parts of the text. -/
lemma isTame_of_callWords? {s : Text} (hs : IsTame s) {ws : List Text} (h : callWords? s = some ws) :
    ∀ w ∈ ws, IsTame w := by
  obtain ⟨body, hbody, rfl⟩ := Option.map_eq_some_iff.1 h
  obtain ⟨-, t, ht, hread⟩ := Text.suffix_of_find? hbody
  obtain ⟨u, hu, hread⟩ := Option.bind_eq_some_iff.1 hread
  have hpart : body <:+: s :=
    (part_of_callBody? hread).trans ((suffix_of_openCall? hu).isInfix.trans ht.isInfix)
  exact fun w hw => hs.of_part ((Text.isInfix_of_mem_words hw).trans hpart)

end Aws

lemma exists_aws {s : Text} (h : IsTame s) : ∃ c, Aws.toCron s = .ok c := by
  unfold Aws.toCron
  split
  · exact ⟨_, rfl⟩
  · next hwords =>
    have hword := Aws.isTame_of_callWords? h hwords
    exact exists_ofTameTexts (fun t ht => hword t (by simp at ht ⊢; tauto)) _ _
  · exact ⟨_, rfl⟩

/-! ### Calendar events -/

namespace OnCalendar

lemma part_of_eventText (s : Text) : eventText s <:+: s := by
  unfold eventText
  dsimp only
  split
  · rcases hcut : Text.cut "=" (Text.trim s) with ⟨a, _ | b⟩
    · exact List.nil_prefix.isInfix
    · obtain ⟨heq, -⟩ := Text.cut_eq_some_iff.1 hcut
      have hbehind : b <:+: Text.trim s := heq ▸ Text.isInfix_append_cons _ _ _
      exact (Text.isInfix_trim b).trans (hbehind.trans (Text.isInfix_trim s))
  · exact Text.isInfix_trim s

lemma weekday?_lt {s : Text} {d : ℕ} (h : weekday? s = some d) : d < 7 := by
  obtain ⟨hlt, -⟩ := List.findIdx?_eq_some_iff_getElem.1 h
  exact hlt

lemma lt_of_mem_weekdays {s : Text} {d : ℕ} (h : d ∈ weekdays s) : d < 7 := by
  rw [weekdays, mem_ascending, List.mem_flatMap] at h
  obtain ⟨part, -, h⟩ := h
  unfold weekdaysOfPart at h
  split at h
  · exact weekday?_lt (Option.mem_toList.1 h)
  · split at h
    · obtain ⟨i, -, rfl⟩ := List.mem_map.1 h
      exact Nat.mod_lt _ (by decide)
    · simp at h

/-- All five texts have a property. -/
def Parts.All (P : Text → Prop) (p : Parts) : Prop := ∀ t ∈ p.toList, P t

namespace Parts

variable {P : Text → Prop} {p : Parts}

lemma all_iff :
    p.All P ↔ P p.minute ∧ P p.hour ∧ P p.dayOfMonth ∧ P p.month ∧ P p.dayOfWeek := by
  simp [All, toList]

lemma orBefore_cases (s before : Text) : orBefore s before = s ∨ orBefore s before = before := by
  unfold orBefore
  split
  · exact .inr rfl
  · exact .inl rfl

/-- A property of five texts is kept when the pieces of a word and lists of numbers have it. -/
lemma all_readWord (hp : p.All P) {word : Text} (hpieces : ∀ sep, ∀ t ∈ Text.pieces sep word, P t)
    (hdays : P (Text.join "," ((weekdays word).map natText))) : (p.readWord word).All P := by
  have hor : ∀ {s before : Text}, P s → P before → P (orBefore s before) := by
    intro s before hs hbefore
    rcases orBefore_cases s before with h | h <;> rw [h] <;> assumption
  obtain ⟨hminute, hhour, hdayOfMonth, hmonth, hdayOfWeek⟩ := all_iff.1 hp
  unfold readWord
  split_ifs
  · unfold readWeekdays
    split
    · exact hp
    · exact all_iff.2 ⟨hminute, hhour, hdayOfMonth, hmonth, hdays⟩
  · unfold readDate
    split
    · next day month rest heq =>
      -- the day and the month are the last two pieces of a date
      have hmem : ∀ t ∈ day :: month :: rest, P t := fun t ht =>
        hpieces '-' t (List.mem_reverse.1 (heq ▸ ht))
      simp only [List.forall_mem_cons] at hmem
      exact all_iff.2 ⟨hminute, hhour, hor hmem.1 hdayOfMonth, hor hmem.2.1 hmonth, hdayOfWeek⟩
    · exact hp
  · unfold readTime
    split
    · next hour minute rest heq =>
      have hmem := hpieces ':'
      rw [heq] at hmem
      simp only [List.forall_mem_cons] at hmem
      exact all_iff.2 ⟨hor hmem.2.1 hminute, hor hmem.1 hhour, hdayOfMonth, hmonth, hdayOfWeek⟩
    · exact hp
  · exact hp

lemma all_foldl_readWord {ws : List Text} (hp : p.All P)
    (hpieces : ∀ w ∈ ws, ∀ sep, ∀ t ∈ Text.pieces sep w, P t)
    (hdays : ∀ w ∈ ws, P (Text.join "," ((weekdays w).map natText))) :
    (ws.foldl readWord p).All P := by
  induction ws generalizing p with
  | nil => exact hp
  | cons w ws ih =>
    rw [List.forall_mem_cons] at hpieces hdays
    exact ih (all_readWord hp hpieces.1 hdays.1) hpieces.2 hdays.2

end Parts

lemma noBlank_weekdays (s : Text) :
    ∀ c ∈ Text.join "," ((weekdays s).map natText), Text.isBlank c = false := by
  intro c hc
  rcases Field.isDigit_or_eq_of_mem_numbers hc with hdigit | rfl
  · exact (plain_of_isFieldChar (isFieldChar_of_isDigit hdigit)).1
  · rfl

/-- The words of a calendar event leave no blank in any of the five texts. -/
lemma noBlank_foldl {ws : List Text} (hws : ∀ w ∈ ws, Text.IsSolid w) :
    (ws.foldl Parts.readWord .free).All fun t => ∀ c ∈ t, Text.isBlank c = false := by
  refine Parts.all_foldl_readWord ?_
    (fun w hw sep t ht c hc => (hws w hw).2 c (Text.mem_of_mem_pieces ht hc))
    fun w _ => noBlank_weekdays w
  intro t ht
  rw [show t = "*" by simpa [Parts.toList, Parts.free] using ht]
  decide

lemma isTame_weekdays (s : Text) : IsTame (Text.join "," ((weekdays s).map natText)) := by
  have hcomma : Text.isRunning ',' = false := by decide
  refine Text.RunsWithin.join hcomma fun t ht => ?_
  obtain ⟨d, hd, rfl⟩ := List.mem_map.1 ht
  exact runsWithin_natText (Nat.lt_trans (lt_of_mem_weekdays hd) (by decide))

end OnCalendar

lemma exists_onCalendar {s : Text} (h : IsTame s) : ∃ c, OnCalendar.toCron s = .ok c := by
  have hpresets : ∀ a ∈ OnCalendar.presets, ∀ t ∈ a.2, t.length ≤ digitLimit := by decide
  unfold OnCalendar.toCron
  dsimp only
  split
  · next fields hlookup =>
    exact exists_ofFieldTexts (fun t ht => .of_length (hpresets _ (mem_of_lookup hlookup) t ht)) _ _
  · have hfree : OnCalendar.Parts.free.All IsTame := fun t ht => .of_length (by
      rw [show t = "*" by simpa [OnCalendar.Parts.toList, OnCalendar.Parts.free] using ht]
      decide)
    have hword : ∀ w ∈ Text.words (OnCalendar.eventText s), IsTame w := fun w hw =>
      h.of_part ((Text.isInfix_of_mem_words hw).trans (OnCalendar.part_of_eventText s))
    exact exists_ofFieldTexts (OnCalendar.Parts.all_foldl_readWord hfree
      (fun w hw _ t ht => (hword w hw).of_part (Text.isInfix_of_mem_pieces ht))
      fun w _ => OnCalendar.isTame_weekdays w) _ _

lemma exists_toCron {s : Text} (h : IsTame s) (source : Text) : ∃ c, toCron s source = .ok c := by
  unfold toCron
  split
  · exact exists_ofFieldTexts (fun w hw => h.of_part (Text.isInfix_of_mem_words hw)) _ _
  · exact exists_aws h
  · exact exists_onCalendar h
  · exact exists_quartz h
  · exact exists_quartz h
  · exact ⟨_, rfl⟩

/-! ## All ways into the library -/

/-- The months and weekdays of the fields are in the tables of names, and a field that is written with a
step has a text behind its stroke. -/
structure Fields.HaveEntries (f : Fields) : Prop where
  months : ∀ m ∈ f.month.values, 1 ≤ m ∧ m - 1 < monthNames.length
  days : ∀ d ∈ f.dayOfWeek.values, d < dayNames.length
  steps : ∀ p, (f.get p).hasStep = true → ∃ a b, Text.cut "/" (f.get p).raw = (a, some b)

lemma Expression.areRead_of_fields? {s : Text} {e : Expression} {f : Fields}
    (hread : Expression.read s = .ok e) (hf : e.fields? = some f) : f.AreRead := by
  obtain ⟨ignored, hcontent⟩ : ∃ ignored, e.content = .timed f ignored := by
    unfold fields? at hf
    split at hf
    · next g ignored hcontent => exact ⟨ignored, Option.some.inj hf ▸ hcontent⟩
    · simp at hf
  intro p
  unfold Expression.read at hread
  split at hread
  all_goals
    obtain ⟨content, hc, he⟩ := bind_eq_ok_iff.1 hread
    obtain rfl := pure_eq_ok_iff.1 he
    obtain rfl : content = .timed f ignored := hcontent
  · obtain ⟨t, w, -, hw⟩ := Content.exists_word_of_ofAlias hc p
    exact ⟨w, hw⟩
  · obtain ⟨w, -, hw⟩ := Content.exists_word_of_ofFields hc p
    exact ⟨w, hw⟩

lemma Fields.haveEntries_of_areRead {f : Fields} (h : f.AreRead) : f.HaveEntries where
  months m hm := by
    have hbounds := h.bounds (p := .month) (by decide) hm
    exact ⟨hbounds.1, Nat.lt_of_lt_of_le (Nat.sub_lt hbounds.1 Nat.one_pos) hbounds.2⟩
  days _ := h.weekday_lt
  steps p hp := by
    have hmem : '/' ∈ (f.get p).raw := List.contains_iff_mem.1 hp
    obtain ⟨a, b, heq, ha⟩ := Text.eq_append_of_mem hmem
    exact ⟨a, b, Text.cut_eq_some_iff.2 ⟨heq, ha⟩⟩

/-- **Every text is answered, as long as its digits can be read.**  Whatever is given, nothing but a run
of digits that is too long stops the reading, judging, telling, generating or converting, and no such
run comes up where the runs of letters and digits are short.  The tables that a sentence is made from
have an entry for all that it looks up. -/
theorem entryPoints_answer (s name : Text) :
    (IsLenient (Expression.read s) ∧ IsLenient (validate s) ∧ IsLenient (describe s) ∧
      IsLenient (generate s) ∧ IsLenient (fromCron (.ok s) name) ∧ IsLenient (toCron s name)) ∧
    (IsTame s → (∃ e, Expression.read s = .ok e) ∧ (∃ v, validate s = .ok v) ∧
      (∃ t, describe s = .ok t) ∧ (∃ g, generate s = .ok g) ∧
      (∃ c, fromCron (.ok s) name = .ok c) ∧ ∃ c, toCron s name = .ok c) ∧
    ∀ e f, Expression.read s = .ok e → e.fields? = some f → f.HaveEntries := by
  refine ⟨⟨isLenient_read s, isLenient_validate s, isLenient_describe s, isLenient_generate s,
    isLenient_fromCron s name, isLenient_toCron s name⟩, fun h => ?_, fun e f hread hf =>
    Fields.haveEntries_of_areRead (Expression.areRead_of_fields? hread hf)⟩
  obtain ⟨e, he⟩ := exists_read h
  have hvalidate : ∃ v, validate s = .ok v := ⟨_, by rw [validate, he]; rfl⟩
  have hdescribe : ∃ t, describe s = .ok t := ⟨_, by rw [describe, he]; rfl⟩
  exact ⟨⟨e, he⟩, hvalidate, hdescribe, exists_generate h, exists_fromCron h name, exists_toCron h name⟩

/-- A text of marks, an empty range and a step without a number, is answered by all of them. -/
theorem entryPoints_answer_marks :
    let s : Text := "@- */ ,? cron( OnCalendar="
    (∃ e, Expression.read s = .ok e) ∧ (∃ v, validate s = .ok v) ∧ (∃ t, describe s = .ok t) ∧
      (∃ g, generate s = .ok g) ∧ (∃ c, fromCron (.ok s) "quartz" = .ok c) ∧
      ∃ c, toCron s "quartz" = .ok c := by
  intro s
  have htame : IsTame s := .of_length (by decide)
  exact (entryPoints_answer s "quartz").2.1 htame

/-- Zeros enough to stop the reading, at the minutes. -/
def zerosAt : Position → Text :=
  Expression.wordsAt (List.replicate 4301 '0') "*" "*" "*" "*"

/-- A documented expression stops the judging when there are zeros enough in front of its number. -/
theorem zeros_stop : Fields.AreDocumented zerosAt ∧
    validate (Expression.textOf zerosAt) = .error (.numeralTooLong 4301) := by
  have hdigits := Field.isDigits_zeros 4300
  have hmark : ∀ {c : Char}, c.isDigit = false → c ∉ zerosAt .minute :=
    Segment.notMem_of_isDigits hdigits
  constructor
  · intro p
    cases p with
    | minute =>
      have hnumber : Position.minute.documented.number (zerosAt .minute) 0 :=
        ⟨.inl ⟨hdigits, digitsValue_zeros 4301⟩, by decide⟩
      refine ⟨[⟨.single 0, none⟩], ?_⟩
      rw [Spelling.WritesField, Text.pieces_of_notMem (hmark (by decide))]
      exact .cons (.plain (.single hnumber)) .nil
    | _ => exact ⟨[⟨.all, none⟩], .cons (.plain .all) .nil⟩
  · have hsolid : ∀ p, Text.IsSolid (zerosAt p) := by
      intro p
      cases p with
      | minute => exact ⟨(Text.isDigits_iff.1 hdigits).1, noBlank_of_isDigits hdigits⟩
      | _ => exact ⟨by decide, by decide⟩
    have hzeros : Field.normalize .minute (zerosAt .minute) = List.replicate 4301 '0' :=
      Field.normalize_of_chars fun c hc =>
        isFieldChar_of_isDigit ((Text.isDigits_iff.1 hdigits).2 c hc)
    rw [validate, Expression.read_of_words (Expression.words_textOf hsolid)
      (Expression.head?_trim_textOf hsolid (hmark (by decide))), Fields.read,
      Field.read_of_normalize_zeros hzeros]
    rfl

end Crontab
