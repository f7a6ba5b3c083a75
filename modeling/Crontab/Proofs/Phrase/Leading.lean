import Crontab.Proofs.Phrase.Consistent

/-!
# Set phrases at the start of a text

The set phrases are tried in the order of the table, so an entry can only be reached if no earlier one
is a part of it.  An entry is hidden if an earlier one is a part of it and has another template
(`IsHidden`).  This happens to two of them: "every week" stands in front of "every weekday" and of
"every weekend", and is a part of both.  A text with one of them is therefore scheduled for Sundays,
whatever else it says (`every_weekday_is_weekly`).

All entries that are not hidden decide as they should (`generate_leading`).  When nothing of the table reaches beyond
the phrase in front of a text, the entry that decides for the text is the one that decides for the phrase
alone (`find?_leading`), and that one has the template of the phrase (`find?_of_not_isHidden`).
-/

namespace Crontab

/-! ## Texts that start with a set phrase -/

/-- What occurs of the table in a text lies inside the text that it starts with. -/
def OccursWithin (lead s : Text) : Prop :=
  ∀ q ∈ setPhrases, ∀ i < s.length, q.1 <+: s.drop i → i + q.1.length ≤ lead.length

instance (lead s : Text) : Decidable (OccursWithin lead s) :=
  inferInstanceAs (Decidable (∀ q ∈ setPhrases, ∀ i < s.length, _))

lemma ne_nil_of_mem_setPhrases : ∀ q ∈ setPhrases, q.1 ≠ [] := by decide

lemma OccursWithin.isInfix {lead s : Text} (h : OccursWithin lead s) (hlead : lead <+: s)
    {q : Text × Template} (hq : q ∈ setPhrases) (hs : q.1 <:+: s) : q.1 <:+: lead := by
  obtain ⟨a, b, rfl⟩ := hs
  have hdrop : (a ++ q.1 ++ b).drop a.length = q.1 ++ b := by simp
  have hlength := h q hq a.length (by
    have := List.length_pos_iff.2 (ne_nil_of_mem_setPhrases q hq)
    simp only [List.length_append]
    omega) (hdrop ▸ List.prefix_append _ _)
  have hprefix : a ++ q.1 <+: lead :=
    List.prefix_of_prefix_length_le (List.prefix_append _ _) hlead (by simpa using hlength)
  exact (List.suffix_append _ _).isInfix.trans hprefix.isInfix

/-- The entry that decides for the text decides for the phrase at its start. -/
lemma find?_leading {lead s : Text} (hlead : lead <+: s) (h : OccursWithin lead s) :
    setPhrases.find? (fun q => Text.occursIn q.1 s) =
      setPhrases.find? fun q => Text.occursIn q.1 lead := by
  refine List.find?_congr fun q hq => ?_
  rw [Bool.eq_iff_iff, Text.occursIn_iff, Text.occursIn_iff]
  exact ⟨h.isInfix hlead hq, fun hq => hq.trans hlead.isInfix⟩

/-! ### The phrase as it is written -/

namespace Text

lemma prefix_trim {s : Text} (hhead : ∀ c ∈ s.head?, isBlank c = false)
    (hlast : ∀ c ∈ s.getLast?, isBlank c = false) (t : Text) : s <+: trim (s ++ t) := by
  obtain ⟨u, hleft⟩ : ∃ u, trimLeft (s ++ t) = s ++ u := by
    cases s with
    | nil => exact ⟨trimLeft t, rfl⟩
    | cons c s => exact ⟨t, trimLeft_cons (hhead c rfl) (s ++ t)⟩
  rw [trim, hleft, trimRight, List.reverse_append, List.dropWhile_append]
  split
  · have hsame : s.reverse.dropWhile isBlank = s.reverse := by
      cases hs : s.reverse with
      | nil => rfl
      | cons c r =>
        have hc : isBlank c = false := hlast c (by simp [← List.head?_reverse, hs])
        exact List.dropWhile_cons_of_neg (by simp [hc])
    rw [hsame, List.reverse_reverse]
  · rw [List.reverse_append, List.reverse_reverse]
    exact List.prefix_append _ _

end Text

/-- A text that starts with a set phrase still does in lower case, without the blanks around it. -/
lemma prefix_plainPhrase {q : Text × Template} (hq : q ∈ setPhrases) (rest : Text) :
    q.1 <+: plainPhrase (q.1 ++ rest) := by
  have hphrases : ∀ q ∈ setPhrases, 'Σ' ∉ q.1 ∧ q.1.flatMap Text.lowerChar = q.1 ∧
      q.1.head?.any Text.isBlank = false ∧ q.1.getLast?.any Text.isBlank = false := by
    decide +kernel
  obtain ⟨hsigma, hlower, hhead, hlast⟩ := hphrases q hq
  rw [Option.any_eq_false] at hhead hlast
  rw [plainPhrase, Text.lower, Text.lowerAfter_append hsigma, hlower]
  refine Text.prefix_trim (fun c hc => ?_) (fun c hc => ?_) _
  · simpa using hhead c hc
  · simpa using hlast c hc

/-! ## Which entry decides -/

/-- An entry of the table is hidden when an earlier one with another template is a part of its phrase. -/
def IsHidden (q : Text × Template) : Prop :=
  ∃ p ∈ setPhrases.takeWhile (· ≠ q), p.1 <:+: q.1 ∧ p.2 ≠ q.2

instance (q : Text × Template) : Decidable (IsHidden q) :=
  inferInstanceAs (Decidable (∃ p ∈ setPhrases.takeWhile (· ≠ q), _))

namespace Template

/-- Once a week, on Sundays. -/
def weekly : Template := ⟨"0", "0", "*", "*", "0"⟩

/-- The template at the time of the `at` clause of a text, if it has one. -/
def retimed (t : Template) (s : Text) : Template :=
  match TimeOfDay.atClause? s with
  | none => t
  | some time => t.atTime time

variable {t : Template} {s : Text}

@[simp] lemma dayOfMonth_retimed : (t.retimed s).dayOfMonth = t.dayOfMonth := by
  unfold retimed
  split <;> rfl

@[simp] lemma month_retimed : (t.retimed s).month = t.month := by
  unfold retimed
  split <;> rfl

@[simp] lemma dayOfWeek_retimed : (t.retimed s).dayOfWeek = t.dayOfWeek := by
  unfold retimed
  split <;> rfl

/-- Nothing of a set phrase's template is taken from the text but numbers. -/
lemma isDrafted_retimed {q : Text × Template} (hq : q ∈ setPhrases) (s : Text) :
    (q.2.retimed s).IsDrafted [] := by
  have hdrafted : q.2.IsDrafted [] := isDrafted_of_mem_setPhrases hq
  unfold retimed
  split
  · exact hdrafted
  · next time htime =>
    have hbounds := TimeOfDay.inBounds_of_atClause? htime
    exact { hdrafted with minute := .number hbounds.2, hour := .number hbounds.1 }

end Template

/-- The template of the first entry that occurs. -/
lemma setPhrase?_eq (s : Text) :
    setPhrase? s =
      (setPhrases.find? fun q => Text.occursIn q.1 s).map fun q => q.2.retimed s := rfl

/-- An entry that is not hidden decides for its own phrase, or an earlier one with the same template
does. -/
lemma find?_of_not_isHidden {q : Text × Template} (hq : q ∈ setPhrases) (h : ¬ IsHidden q) :
    ∃ r ∈ setPhrases, (setPhrases.find? fun p => Text.occursIn p.1 q.1) = some r ∧ r.2 = q.2 := by
  obtain ⟨before, after, hsplit, hfirst⟩ := List.eq_append_cons_of_mem hq
  have hbefore : setPhrases.takeWhile (· ≠ q) = before := by
    have hne : ∀ p ∈ before, decide (p ≠ q) = true := fun p hp => by
      rw [decide_eq_true_iff]
      rintro rfl
      exact hfirst hp
    rw [hsplit, List.takeWhile_append_of_pos hne, List.takeWhile_cons_of_neg (by simp),
      List.append_nil]
  have hown : Text.occursIn q.1 q.1 = true := Text.occursIn_iff.2 List.infix_rfl
  -- an entry in front of it that is a part of the phrase has its template, or it would be hidden
  cases hfind : before.find? fun p => Text.occursIn p.1 q.1 with
  | none => exact ⟨q, hq, by rw [hsplit, List.find?_append, hfind]; simp [hown], rfl⟩
  | some r =>
    have hr := List.mem_of_find?_eq_some hfind
    have hoccurs := List.find?_some hfind
    refine ⟨r, hsplit ▸ List.mem_append_left _ hr, by rw [hsplit, List.find?_append, hfind]; rfl, ?_⟩
    by_contra hother
    exact h ⟨r, hbefore ▸ hr, Text.occursIn_iff.1 hoccurs, hother⟩

lemma isHidden_iff : ∀ q ∈ setPhrases,
    IsHidden q ↔ q.1 = "every weekday" ∨ q.1 = "every weekend" := by
  decide +kernel

/-- For a hidden entry "every week" decides, which is scheduled for another weekday. -/
lemma find?_of_isHidden {q : Text × Template} (hq : q ∈ setPhrases) (h : IsHidden q) :
    (∃ r ∈ setPhrases, (setPhrases.find? fun p => Text.occursIn p.1 q.1) = some r ∧
      r.2 = .weekly) ∧ q.2.dayOfWeek ≠ Template.weekly.dayOfWeek := by
  have htable : ∀ q ∈ setPhrases, q.1 = "every weekday" ∨ q.1 = "every weekend" →
      (∃ r ∈ setPhrases, (setPhrases.find? fun p => Text.occursIn p.1 q.1) = some r ∧
        r.2 = .weekly) ∧ q.2.dayOfWeek ≠ Template.weekly.dayOfWeek := by
    decide +kernel
  exact htable q hq ((isHidden_iff q hq).1 h)

/-- **A set phrase at the start of a text** decides for the text, when no set phrase reaches beyond it:
the text is answered with the template of the phrase, at the time of its `at` clause if it has one.  This
does not hold for the two hidden entries.  In their place "every week" decides, and so the days, the
month and the weekday are those of the phrase exactly when it is not hidden. -/
theorem generate_leading {q : Text × Template} (hq : q ∈ setPhrases) {phrase : Text}
    (hlead : q.1 <+: plainPhrase phrase) (hwithin : OccursWithin q.1 (plainPhrase phrase)) :
    (∃ t f, generate phrase = .ok (.success t.text (Expression.sentence ⟨t.text, .timed f false⟩)) ∧
      Expression.read t.text = .ok ⟨t.text, .timed f false⟩ ∧
      (∀ p, (f.get p).isSound = true ∧ (f.get p).raw = t.get p) ∧
      (¬ IsHidden q → t = q.2.retimed (plainPhrase phrase)) ∧
      (IsHidden q → t = Template.weekly.retimed (plainPhrase phrase)) ∧
      (t.dayOfMonth = q.2.dayOfMonth ∧ t.month = q.2.month ∧ t.dayOfWeek = q.2.dayOfWeek ↔
        ¬ IsHidden q)) ∧
    (IsHidden q ↔ q.1 = "every weekday" ∨ q.1 = "every weekend") := by
  obtain ⟨r, hr, hfind, hown, hhidden⟩ : ∃ r ∈ setPhrases,
      (setPhrases.find? fun p => Text.occursIn p.1 q.1) = some r ∧ (¬ IsHidden q → r.2 = q.2) ∧
        (IsHidden q → r.2 = .weekly) := by
    by_cases h : IsHidden q
    · obtain ⟨⟨r, hr, hfind, hweekly⟩, -⟩ := find?_of_isHidden hq h
      exact ⟨r, hr, hfind, fun hnot => absurd h hnot, fun _ => hweekly⟩
    · obtain ⟨r, hr, hfind, hsame⟩ := find?_of_not_isHidden hq h
      exact ⟨r, hr, hfind, fun _ => hsame, fun hhidden => absurd hhidden h⟩
  have hset : setPhrase? (plainPhrase phrase) = some (r.2.retimed (plainPhrase phrase)) := by
    rw [setPhrase?_eq, find?_leading hlead hwithin, hfind]
    rfl
  have ht : Template.ofPhrase? phrase = some (r.2.retimed (plainPhrase phrase)) :=
    Option.or_eq_some_iff.2 (.inl hset)
  have hdrafted := Template.isDrafted_retimed hr (plainPhrase phrase)
  obtain ⟨f, hread, hfields⟩ :=
    hdrafted.exists_read (by simp) (Text.runsWithin_of_length_le (Nat.zero_le _))
  have hraw : ∀ p, (f.get p).raw = (r.2.retimed (plainPhrase phrase)).get p := fun p => by
    have hchars : ∀ c ∈ (r.2.retimed (plainPhrase phrase)).get p, isFieldChar c = true :=
      fun c hc => ((hdrafted.get p).isFieldChar_or_mem hc).resolve_right (by simp)
    rw [(Field.isMeaning_of_read (hfields p).1).raw, Field.normalize_of_chars hchars]
  refine ⟨⟨_, f, generate_of_ofPhrase? ht hread fun p => (hfields p).2, hread,
    fun p => ⟨(hfields p).2, hraw p⟩, fun h => by rw [hown h], fun h => by rw [hhidden h], ?_⟩,
    isHidden_iff q hq⟩
  -- the template of "every week" differs from that of a hidden entry in the weekday
  rw [Template.dayOfMonth_retimed, Template.month_retimed, Template.dayOfWeek_retimed]
  by_cases h : IsHidden q
  · have hdifferent := (find?_of_isHidden hq h).2
    simp [h, hhidden h, hdifferent.symm]
  · simp [h, hown h]

/-- At a time of day, the business hours are that time on the same days. -/
theorem generate_leading_business_hours :
    let phrase : Text := "business hours, starting at 8:30"
    let q : Text × Template := ("business hours", ⟨"0", "9-17", "*", "*", "1-5"⟩)
    q ∈ setPhrases ∧ q.1 <+: plainPhrase phrase ∧ OccursWithin q.1 (plainPhrase phrase) ∧
      ∃ f, generate phrase = .ok (.success "30 8 * * 1-5"
        (Expression.sentence ⟨"30 8 * * 1-5", .timed f false⟩)) ∧
      Expression.read "30 8 * * 1-5" = .ok ⟨"30 8 * * 1-5", .timed f false⟩ ∧
      f.dayOfMonth.raw = q.2.dayOfMonth ∧ f.month.raw = q.2.month ∧
      f.dayOfWeek.raw = q.2.dayOfWeek := by
  intro phrase q
  have hq : q ∈ setPhrases := by decide
  have hlead : q.1 <+: plainPhrase phrase := prefix_plainPhrase hq ", starting at 8:30"
  have hwithin : OccursWithin q.1 (plainPhrase phrase) := by decide +kernel
  obtain ⟨⟨t, f, hgenerate, hread, hfields, ht, -⟩, hhidden⟩ := generate_leading hq hlead hwithin
  obtain rfl : t = ⟨"30", "8", "*", "*", "1-5"⟩ :=
    (ht (mt hhidden.1 (by decide))).trans (by decide +kernel)
  exact ⟨hq, hlead, hwithin, f, hgenerate, hread, (hfields .dayOfMonth).2, (hfields .month).2,
    (hfields .dayOfWeek).2⟩

/-- Although the table has an entry for every weekday, the phrase is scheduled for Sundays. -/
theorem every_weekday_is_weekly :
    (("every weekday", ⟨"0", "9", "*", "*", "1-5"⟩) : Text × Template) ∈ setPhrases ∧
    OccursWithin "every weekday" (plainPhrase "every weekday") ∧
    ∃ e f, generate "every weekday" = .ok (.success "0 0 * * 0" e.sentence) ∧
      Expression.read "0 0 * * 0" = .ok e ∧ e.schedule? = some f ∧ f.dayOfWeek.raw = "0" :=
  ⟨by decide, by decide +kernel, _, _, rfl, rfl, rfl, rfl⟩

end Crontab
