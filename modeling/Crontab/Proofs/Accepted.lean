import Crontab.Proofs.Expression
import Crontab.Proofs.Field.Spellings

/-!
# Which expressions are accepted

A text of five words that is no alias is accepted when each word is a field in the tolerated spelling
of its position.  This is more than what is documented: `janfeb` is accepted as December
(`Expression.janfeb_accepted`), because names are replaced by their digits before numbers are read.

`Expression.accepted_iff` says both: which texts are accepted, and that the documented texts are
exactly the accepted ones where no name touches another name or a digit and no step is left empty.
-/

namespace Crontab

namespace Fields

/-- The words at the positions are written as they are documented. -/
def AreDocumented (t : Position → Text) : Prop := ∀ p : Position, ∃ gs, p.documented.WritesField (t p) gs

/-- The words at the positions are written as it is tolerated. -/
def AreTolerated (t : Position → Text) : Prop := ∀ p : Position, ∃ gs, p.tolerated.WritesField (t p) gs

/-- No piece of the words has names and digits in one. -/
def ArePlain (t : Position → Text) : Prop := ∀ p, ∀ u ∈ Text.pieces ',' (t p), Field.IsPlain u

end Fields

/-- Fields may be given by position. -/
lemma Fields.exists_get_eq (g : Position → Field) : ∃ f : Fields, ∀ p, f.get p = g p :=
  ⟨⟨g .minute, g .hour, g .dayOfMonth, g .month, g .dayOfWeek⟩, fun p => by cases p <;> rfl⟩

namespace Expression

variable {s : Text} {t : Position → Text} {e : Expression} {f : Fields}

/-- The text is read, and as an expression without faults. -/
def IsAccepted (s : Text) : Prop := ∃ e, read s = .ok e ∧ e.isValid = true

section Words

variable (hwords : Text.words s = Position.all.map t) (hat : (Text.trim s).head? ≠ some '@')

include hwords

lemma word_mem (p : Position) : t p ∈ Text.words s := by
  rw [hwords]
  exact List.mem_map.2 ⟨p, Fields.mem_all p, rfl⟩

include hat

/-- Five words that are no alias are read one by one. -/
lemma read_of_words : read s = (do
    let f ← Fields.read (t .minute) (t .hour) (t .dayOfMonth) (t .month) (t .dayOfWeek)
    return ⟨s, .timed f false⟩) := by
  have hcontent : Content.ofFields s = (do
      let f ← Fields.read (t .minute) (t .hour) (t .dayOfMonth) (t .month) (t .dayOfWeek)
      return .timed f false) := by
    rw [Content.ofFields, hwords]
    rfl
  unfold read
  split
  · next rest hrest => exact absurd (by rw [hrest]; rfl) hat
  · rw [hcontent]
    cases Fields.read (t .minute) (t .hour) (t .dayOfMonth) (t .month) (t .dayOfWeek) <;> rfl

lemma read_eq_ok_iff :
    read s = .ok e ↔ ∃ f : Fields, (∀ p, Field.read p (t p) = .ok (f.get p)) ∧ e = ⟨s, .timed f false⟩ := by
  rw [read_of_words hwords hat, bind_eq_ok_iff]
  refine exists_congr fun f => ?_
  rw [Fields.read_eq_ok_iff, pure_eq_ok_iff, eq_comm]

omit hat hwords in
lemma isValid_timed_iff {ignored : Bool} :
    (⟨s, .timed f ignored⟩ : Expression).isValid = true ↔ ∀ p, (f.get p).isSound = true := by
  rw [← Fields.errors_eq_nil_iff]
  by_cases herrors : f.errors = []
  · simp [isValid, status, herrors]
  · simp [isValid, status, herrors, List.isEmpty_iff]

/-- A text that is read is accepted exactly when its words are tolerated. -/
lemma isValid_iff (hread : read s = .ok e) : e.isValid = true ↔ Fields.AreTolerated t := by
  obtain ⟨f, hf, rfl⟩ := (read_eq_ok_iff hwords hat).1 hread
  rw [isValid_timed_iff]
  exact forall_congr' fun p =>
    Field.isSound_iff (Text.isSolid_of_mem_words (word_mem hwords p)).2 (hf p)

lemma isAccepted_of_areDocumented (hruns : Text.RunsWithin Char.isDigit digitLimit s)
    (h : Fields.AreDocumented t) : IsAccepted s := by
  have hread : ∀ p, ∃ f, Field.read p (t p) = .ok f := fun p => by
    obtain ⟨gs, hgs⟩ := h p
    exact Field.exists_read_of_documented hgs
      (hruns.of_part (Text.isInfix_of_mem_words (word_mem hwords p)))
  choose g hg using hread
  obtain ⟨f, hf⟩ := Fields.exists_get_eq g
  have hfields : ∀ p, Field.read p (t p) = .ok (f.get p) := fun p => (hf p).symm ▸ hg p
  have hread := (read_eq_ok_iff hwords hat).2 ⟨f, hfields, rfl⟩
  refine ⟨_, hread, (isValid_iff hwords hat hread).2 fun p => ?_⟩
  obtain ⟨gs, hgs⟩ := h p
  exact ⟨gs, Field.writesField_tolerated hgs⟩

/-- **Which texts are accepted.**  A text of five words that is no alias, and that is read at all, is
valid exactly when its words are tolerated.  Every documented text is read and valid, as long as its
runs of digits are not too long; and where no name touches another name or a digit and no step is left
empty, nothing else is accepted.  What a documented field selects is what its segments select, so that
each name counts for its own number. -/
theorem accepted_iff :
    (∀ e, read s = .ok e → (e.isValid = true ↔ Fields.AreTolerated t)) ∧
    (Text.RunsWithin Char.isDigit digitLimit s → Fields.AreDocumented t → IsAccepted s) ∧
    (Fields.ArePlain t → IsAccepted s → Fields.AreDocumented t) ∧
    (∀ e f, read s = .ok e → e.schedule? = some f → ∀ p gs, p.documented.WritesField (t p) gs →
      ∀ v, v ∈ (f.get p).values ↔ ∃ g ∈ gs, ∃ u, g.Selects p u ∧ p.stored u = v) := by
  refine ⟨fun e => isValid_iff hwords hat, isAccepted_of_areDocumented hwords hat, ?_, ?_⟩
  · rintro hplain ⟨e, hread, hvalid⟩ p
    obtain ⟨gs, hgs⟩ := (isValid_iff hwords hat hread).1 hvalid p
    exact ⟨gs, Field.writesField_documented (hplain p) hgs⟩
  · intro e f hread hf p gs hgs v
    obtain ⟨f', hfields, rfl⟩ := (read_eq_ok_iff hwords hat).1 hread
    obtain ⟨ignored, hcontent, -⟩ := content_of_schedule? hf
    obtain ⟨rfl, -⟩ := Content.timed.inj hcontent
    exact Field.mem_values_iff (Text.isSolid_of_mem_words (word_mem hwords p)).2 (hfields p)
      (Field.writesField_tolerated hgs) v

end Words

section TextOf

variable (hsolid : ∀ p, Text.IsSolid (t p))

include hsolid

lemma words_textOf : Text.words (textOf t) = Position.all.map t :=
  Text.words_join (isSolid_of_mem hsolid)

lemma head?_trim_textOf (hat : '@' ∉ t .minute) : (Text.trim (textOf t)).head? ≠ some '@' := by
  rw [show Text.trim (textOf t) = textOf t from Text.trim_join (isSolid_of_mem hsolid)]
  obtain ⟨c, s, hs, hc⟩ := exists_textOf_eq_cons hsolid
  rw [hs, List.head?_cons]
  rintro hcons
  exact hat (Option.some.inj hcons ▸ hc)

end TextOf

/-- The words of an expression by position. -/
def wordsAt (minute hour dayOfMonth month dayOfWeek : Text) : Position → Text
  | .minute => minute
  | .hour => hour
  | .dayOfMonth => dayOfMonth
  | .month => month
  | .dayOfWeek => dayOfWeek

/-- A name in capitals is accepted and counts for its own number. -/
theorem accepted_iff_capitals :
    Text.words "0 9 * NOV *" = Position.all.map (wordsAt "0" "9" "*" "NOV" "*") ∧
    (Text.trim "0 9 * NOV *").head? ≠ some '@' ∧
    IsAccepted "0 9 * NOV *" ∧
    ∀ e f, read "0 9 * NOV *" = .ok e → e.schedule? = some f → ∀ v, v ∈ f.month.values ↔ v = 11 := by
  have hwords : Text.words "0 9 * NOV *" = Position.all.map (wordsAt "0" "9" "*" "NOV" "*") := by decide
  have hat : (Text.trim "0 9 * NOV *").head? ≠ some '@' := by decide
  have hall : ∀ p : Position, p.documented.WritesField "*" [⟨.all, none⟩] := fun p =>
    .cons (.plain .all) .nil
  have hnumber : ∀ (p : Position) (t : Text) v, Text.pieces ',' t = [t] →
      p.documented.number t v → p.documented.WritesField t [⟨.single v, none⟩] := fun p t v ht hv => by
    rw [Spelling.WritesField, ht]
    exact .cons (.plain (.single hv)) .nil
  have hmonth : Position.month.documented.WritesField "NOV" [⟨.single 11, none⟩] :=
    hnumber _ _ _ (by decide) ⟨.inr (by decide), by decide⟩
  obtain ⟨-, haccepted, -, hvalues⟩ := accepted_iff hwords hat
  refine ⟨hwords, hat, haccepted (Text.runsWithin_of_length_le (by decide)) fun p => ?_, ?_⟩
  · cases p with
    | minute => exact ⟨_, hnumber _ _ 0 (by decide) ⟨.inl (by decide), by decide⟩⟩
    | hour => exact ⟨_, hnumber _ _ 9 (by decide) ⟨.inl (by decide), by decide⟩⟩
    | dayOfMonth => exact ⟨_, hall _⟩
    | month => exact ⟨_, hmonth⟩
    | dayOfWeek => exact ⟨_, hall _⟩
  · intro e f hread hf v
    refine (hvalues e f hread hf .month _ hmonth v).trans ⟨?_, ?_⟩
    · rintro ⟨g, hg, u, hu, rfl⟩
      obtain rfl := List.mem_singleton.1 hg
      rw [show u = 11 from hu.2]
      decide
    · rintro rfl
      exact ⟨_, List.mem_singleton_self _, 11, ⟨by decide, rfl⟩, by decide⟩

/-- Two names in one are accepted, and count for a number that is neither of them, although this is
not documented. -/
theorem janfeb_accepted :
    Text.words "0 0 1 janfeb *" = Position.all.map (wordsAt "0" "0" "1" "janfeb" "*") ∧
    (Text.trim "0 0 1 janfeb *").head? ≠ some '@' ∧
    Text.RunsWithin Char.isDigit digitLimit "0 0 1 janfeb *" ∧
    (∃ e f, read "0 0 1 janfeb *" = .ok e ∧ e.schedule? = some f ∧ f.month.values = [12]) ∧
    ¬ Fields.AreDocumented (wordsAt "0" "0" "1" "janfeb" "*") := by
  refine ⟨by decide, by decide, Text.runsWithin_of_length_le (by decide), ⟨_, _, rfl, rfl, rfl⟩, ?_⟩
  intro h
  obtain ⟨gs, hgs⟩ := h .month
  have hmem : ("janfeb" : Text) ∈ Text.pieces ',' (wordsAt "0" "0" "1" "janfeb" "*" .month) := by decide
  obtain ⟨g, -, hg⟩ := exists_of_forall₂ hgs hmem
  obtain ⟨span, hspan, -⟩ := (Spelling.writes_iff_of_notMem (by decide)).1 hg
  obtain ⟨v, ⟨hdigits | hname, -⟩, -⟩ :=
    (Spelling.writesSpan_iff_of_notMem (by decide) (by decide)).1 hspan
  · exact absurd hdigits.1 (by decide)
  · have hnone : ∀ n ∈ Position.month.names, n.1 ≠ ("janfeb" : Text).map Char.toLower := by decide
    exact hnone _ hname rfl

end Expression

end Crontab
