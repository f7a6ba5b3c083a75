import Crontab.Proofs.Accepted
import Crontab.Proofs.Answered
import Crontab.Proofs.Phrase.Selected
import Crontab.Proofs.Text.Words

/-!
# What a phrase drafts is accepted

A draft is read as an expression before it is handed out, and `Generation.invalid` is the answer to one
that is not valid.  A phrase in ASCII never comes to that: it is answered with an expression, or nothing
in it was understood (`generate_consistent`).

Each text of a template is a documented spelling of its field (`Drafted.exists_writesField`).  What is
left is the number of a period, which stands in the draft as it does in the phrase.  It has to be short
enough to be read, and in ASCII: the digits of other scripts are digits to a phrase but not to a field.
-/

namespace Crontab

/-! ## Phrases in which nothing is understood -/

/-- No set phrase and no clause is found. -/
structure SaysNothing (s : Text) : Prop where
  setPhrase : ∀ q ∈ setPhrases, ¬ q.1 <:+: s
  minutes : Clause.every? "minute" s = none
  hours : Clause.every? "hour" s = none
  time : TimeOfDay.atClause? s = none
  day : Clause.everyDay s = false
  weekday : Clause.weekday? s = none
  date : ∀ n, Clause.dayOfMonth? s = some n → ¬ (1 ≤ n ∧ n ≤ 31)
  month : Clause.month? s = none
  range : Clause.weekdayRange? s = none

lemma setPhrase?_eq_none_iff {s : Text} : setPhrase? s = none ↔ ∀ q ∈ setPhrases, ¬ q.1 <:+: s := by
  simp only [setPhrase?, Option.map_eq_none_iff, List.find?_eq_none, Text.occursIn_iff]

namespace Draft

variable {α : Type} {clause : Option α} {fill : α → Template → Template} {d : Draft} {s : Text}

@[simp] lemma matched_empty : empty.matched = false := rfl

@[simp] lemma matched_apply : (d.apply clause fill).matched = (clause.isSome || d.matched) := by
  cases clause <;> rfl

lemma template?_eq_none_iff : d.template? = none ↔ d.matched = false := by
  cases h : d.matched <;> simp [template?, h]

end Draft

/-- A phrase stands for no template exactly when it says nothing. -/
theorem Template.ofPhrase?_eq_none_iff {phrase : Text} :
    ofPhrase? phrase = none ↔ SaysNothing (plainPhrase phrase) := by
  have hphrase : ofPhrase? phrase =
      (setPhrase? (plainPhrase phrase)).or (Draft.compose (plainPhrase phrase)).template? := rfl
  rw [hphrase, Option.or_eq_none_iff, setPhrase?_eq_none_iff, Draft.template?_eq_none_iff]
  simp only [Draft.compose, Draft.matched_apply, Draft.matched_empty, Bool.or_false,
    Bool.or_eq_false_iff, Option.isSome_eq_false_iff, Option.isNone_iff_eq_none, Option.filter_eq_none_iff,
    decide_eq_true_eq, ite_eq_right_iff, reduceCtorEq, imp_false, Bool.not_eq_true]
  constructor
  · rintro ⟨hset, hrange, hmonth, hdate, hweekday, hday, htime, hhours, hminutes⟩
    exact ⟨hset, hminutes, hhours, htime, hday, hweekday, hdate, hmonth, hrange⟩
  · intro h
    exact ⟨h.setPhrase, h.range, h.month, h.date, h.weekday, h.day, h.time, h.hours, h.minutes⟩

/-! ## Texts that are drafted from ASCII -/

namespace Template.IsDrafted

variable {s : Text} {t : Template} (h : t.IsDrafted s)

include h

/-- Every text that is drafted from ASCII is documented. -/
lemma areDocumented (hascii : ∀ c ∈ s, c.toNat < 128) : Fields.AreDocumented t.get := by
  intro p
  have htext : ∀ c ∈ t.get p, c.toNat < 128 := fun c hc => by
    rcases (h.get p).isFieldChar_or_mem hc with hc | ⟨-, hc⟩
    · exact toNat_lt_of_isFieldChar hc
    · exact hascii c hc
  obtain ⟨gs, hgs, -⟩ := (h.get p).exists_writesField htext
  exact ⟨gs, hgs⟩

lemma runsWithin_text (hruns : Text.RunsWithin Char.isDigit digitLimit s) :
    Text.RunsWithin Char.isDigit digitLimit t.text := by
  refine Template.runsWithin_text (by decide) fun p => ?_
  refine (h.get p).runsWithin (by decide) fun unit n hn => ?_
  exact hruns.of_part (Clause.decimals_of_every? hn).1

/-- A template that is drafted from ASCII is read as its five fields, all of them sound. -/
theorem exists_read (hascii : ∀ c ∈ s, c.toNat < 128)
    (hruns : Text.RunsWithin Char.isDigit digitLimit s) :
    ∃ f, Expression.read t.text = .ok ⟨t.text, .timed f false⟩ ∧
      ∀ p, Field.read p (t.get p) = .ok (f.get p) ∧ (f.get p).isSound = true := by
  have hsolid : ∀ p, Text.IsSolid (t.get p) := fun p => (h.get p).isSolid
  have hat : '@' ∉ t.get .minute := fun hmem => by
    rcases (h.get .minute).isFieldChar_or_mem hmem with hat | ⟨hat, -⟩
    · exact absurd hat (by decide)
    · exact absurd hat (by decide)
  have hwords := Expression.words_textOf hsolid
  have hhead := Expression.head?_trim_textOf hsolid hat
  obtain ⟨e, hread, hvalid⟩ := Expression.isAccepted_of_areDocumented hwords hhead
    (h.runsWithin_text hruns) (h.areDocumented hascii)
  obtain ⟨f, hfields, rfl⟩ := (Expression.read_eq_ok_iff hwords hhead).1 hread
  exact ⟨f, hread, fun p => ⟨hfields p, Expression.isValid_timed_iff.1 hvalid p⟩⟩

end Template.IsDrafted

/-- A phrase that stands for a template with sound fields is answered with its text. -/
lemma generate_of_ofPhrase? {phrase : Text} {t : Template} {f : Fields}
    (ht : Template.ofPhrase? phrase = some t)
    (hread : Expression.read t.text = .ok ⟨t.text, .timed f false⟩)
    (hsound : ∀ p, (f.get p).isSound = true) :
    generate phrase = .ok (.success t.text (Expression.sentence ⟨t.text, .timed f false⟩)) :=
  generate_eq_success_iff.2
    ⟨t, _, ht, rfl, hread, Expression.isValid_timed_iff.2 hsound, rfl⟩

/-! ## Phrases in ASCII -/

section Ascii

variable {phrase : Text}

lemma ascii_plainPhrase (hascii : ∀ c ∈ phrase, c.toNat < 128) :
    ∀ c ∈ plainPhrase phrase, c.toNat < 128 := by
  intro c hc
  have hlower : c ∈ Text.lower phrase := (Text.isInfix_trim _).subset hc
  rw [Text.lower_of_ascii hascii] at hlower
  obtain ⟨d, hd, rfl⟩ := List.mem_map.1 hlower
  exact Text.toNat_toLower_lt (hascii d hd)

lemma runsWithin_plainPhrase (hruns : Text.RunsWithin Char.isDigit digitLimit phrase) :
    Text.RunsWithin Char.isDigit digitLimit (plainPhrase phrase) := by
  have hlower : Text.RunsWithin (Text.lowersTo Char.isDigit) digitLimit phrase :=
    hruns.of_imp fun _ _ => Text.isDigit_of_lowersTo
  exact (Text.RunsWithin.lower ⟨by decide, by decide⟩ hlower).of_part (Text.isInfix_trim _)

/-- **Generation is consistent.**  What a phrase in ASCII drafts is an expression with five sound
fields, so a phrase that stands for a template is answered with the text of the template; a phrase that
stands for none says nothing, and is answered so.  No phrase is answered as understood but invalid. -/
theorem generate_consistent (hascii : ∀ c ∈ phrase, c.toNat < 128)
    (hruns : Text.RunsWithin Char.isDigit digitLimit phrase) :
    (∀ t, Template.ofPhrase? phrase = some t →
      ∃ f, Expression.read t.text = .ok ⟨t.text, .timed f false⟩ ∧
        (∀ p, Field.read p (t.get p) = .ok (f.get p) ∧ (f.get p).isSound = true) ∧
        generate phrase =
          .ok (.success t.text (Expression.sentence ⟨t.text, .timed f false⟩))) ∧
    (Template.ofPhrase? phrase = none →
      SaysNothing (plainPhrase phrase) ∧ generate phrase = .ok .notUnderstood) ∧
    ∀ drafted line, generate phrase ≠ .ok (.invalid drafted line) := by
  have hsome : ∀ t, Template.ofPhrase? phrase = some t →
      ∃ f, Expression.read t.text = .ok ⟨t.text, .timed f false⟩ ∧
        (∀ p, Field.read p (t.get p) = .ok (f.get p) ∧ (f.get p).isSound = true) ∧
        generate phrase =
          .ok (.success t.text (Expression.sentence ⟨t.text, .timed f false⟩)) := by
    intro t ht
    obtain ⟨f, hread, hfields⟩ := (Template.isDrafted_of_ofPhrase? ht).exists_read
      (ascii_plainPhrase hascii) (runsWithin_plainPhrase hruns)
    exact ⟨f, hread, hfields, generate_of_ofPhrase? ht hread fun p => (hfields p).2⟩
  have hnone : Template.ofPhrase? phrase = none → generate phrase = .ok .notUnderstood := fun h => by
    rw [generate, h]
    rfl
  refine ⟨hsome, fun h => ⟨Template.ofPhrase?_eq_none_iff.1 h, hnone h⟩, fun drafted line hinvalid => ?_⟩
  cases ht : Template.ofPhrase? phrase with
  | none => simp [hnone ht] at hinvalid
  | some t =>
    obtain ⟨f, -, -, hsuccess⟩ := hsome t ht
    simp [hsuccess] at hinvalid

end Ascii

/-- A period that is longer than an hour, and a day that February does not have, are accepted. -/
theorem generate_consistent_february :
    let phrase : Text := "Every 100 minutes on the 31st in february"
    ∃ f, Template.ofPhrase? phrase = some ⟨"*/100", "0", "31", "2", "*"⟩ ∧
      Expression.read "*/100 0 31 2 *" = .ok ⟨"*/100 0 31 2 *", .timed f false⟩ ∧
      (∀ p, (f.get p).isSound = true) ∧
      generate phrase = .ok (.success "*/100 0 31 2 *"
        (Expression.sentence ⟨"*/100 0 31 2 *", .timed f false⟩)) := by
  intro phrase
  have ht : Template.ofPhrase? phrase = some ⟨"*/100", "0", "31", "2", "*"⟩ := by decide
  have hascii : ∀ c ∈ phrase, c.toNat < 128 := by decide
  have hruns : Text.RunsWithin Char.isDigit digitLimit phrase :=
    Text.runsWithin_of_length_le (by decide)
  obtain ⟨f, hread, hfields, hsuccess⟩ := (generate_consistent hascii hruns).1 _ ht
  exact ⟨f, ht, hread, fun p => (hfields p).2, hsuccess⟩

end Crontab
