import Crontab.Proofs.Field.Stored

/-!
# Five fields in one text

Five words with single spaces between them are read as five fields, each by itself
(`Expression.read_textOf`), and the other way round, what is valid with five words has the
five fields that these are read as (`Expression.exists_schedule_of_read_textOf`).  The words are given
by position, so that a statement about each field is one statement for all positions.
-/

namespace Crontab

namespace Fields

variable {f : Fields} {t : Position → Text}

lemma mem_all (p : Position) : p ∈ Position.all := by cases p <;> decide

lemma errors_eq_nil_iff : f.errors = [] ↔ ∀ p, (f.get p).isSound = true := by
  simp only [errors, toList, List.flatMap_map, List.flatMap_eq_nil_iff, Field.errors_eq_nil_iff]
  exact ⟨fun h p => h p (mem_all p), fun h p _ => h p⟩

/-- Read the fields whose texts are given by position. -/
lemma read_eq_ok_iff :
    Fields.read (t .minute) (t .hour) (t .dayOfMonth) (t .month) (t .dayOfWeek) = .ok f ↔
      ∀ p, Field.read p (t p) = .ok (f.get p) := by
  constructor
  · intro h
    obtain ⟨minute, hminute, h⟩ := bind_eq_ok_iff.1 h
    obtain ⟨hour, hhour, h⟩ := bind_eq_ok_iff.1 h
    obtain ⟨dayOfMonth, hdayOfMonth, h⟩ := bind_eq_ok_iff.1 h
    obtain ⟨month, hmonth, h⟩ := bind_eq_ok_iff.1 h
    obtain ⟨dayOfWeek, hdayOfWeek, h⟩ := bind_eq_ok_iff.1 h
    rw [← pure_eq_ok_iff.1 h]
    intro p
    cases p
    · exact hminute
    · exact hhour
    · exact hdayOfMonth
    · exact hmonth
    · exact hdayOfWeek
  · intro h
    rw [Fields.read, h .minute, h .hour, h .dayOfMonth, h .month, h .dayOfWeek]
    rfl

end Fields

namespace Expression

variable {f : Fields} {t : Position → Text}

/-- The text of five words. -/
def textOf (t : Position → Text) : Text := Text.join " " (Position.all.map t)

lemma schedule?_of_timed {s : Text} {ignored : Bool} :
    (⟨s, .timed f ignored⟩ : Expression).schedule? = some f ↔ ∀ p, (f.get p).isSound = true := by
  rw [← Fields.errors_eq_nil_iff]
  simp [schedule?]

/-- No alias has a space in it. -/
lemma ofAlias_of_space {s : Text} (h : ' ' ∈ s) :
    Content.ofAlias s = .ok (.malformed (.unknownAlias (Text.lower s))) := by
  have hspace : ' ' ∈ Text.lower s := Text.space_mem_lower h
  have hnone : aliases.lookup (Text.lower s) = none := by
    have haliases : ∀ a ∈ aliases, ' ' ∉ a.1 := by decide
    exact List.lookup_eq_none_iff.2 fun a ha => bne_iff_ne.2 fun e => haliases a ha (e ▸ hspace)
  rw [Content.ofAlias, hnone]
  rfl

lemma space_mem_textOf (t : Position → Text) : ' ' ∈ textOf t := by
  simp [textOf, Position.all, Text.join]

section Words

variable (hsolid : ∀ p, Text.IsSolid (t p))

include hsolid

lemma isSolid_of_mem : ∀ w ∈ Position.all.map t, Text.IsSolid w := by
  intro w hw
  obtain ⟨p, -, rfl⟩ := List.mem_map.1 hw
  exact hsolid p

lemma ofFields_textOf :
    Content.ofFields (textOf t) = (do
      let f ← Fields.read (t .minute) (t .hour) (t .dayOfMonth) (t .month) (t .dayOfWeek)
      return .timed f false) := by
  have hwords : Text.words (textOf t) = Position.all.map t :=
    Text.words_join (isSolid_of_mem hsolid)
  rw [Content.ofFields, hwords]
  rfl

/-- The first character of five words is the first character of the first word. -/
lemma exists_textOf_eq_cons : ∃ c s, textOf t = c :: s ∧ c ∈ t .minute := by
  obtain ⟨c, s, hs⟩ := List.exists_cons_of_ne_nil (hsolid .minute).1
  refine ⟨c, (textOf t).tail, ?_, by simp [hs]⟩
  simp [textOf, Position.all, Text.join, hs]

/-- A valid expression with five words has the five fields that these are read as. -/
theorem exists_schedule_of_read_textOf {e : Expression} (h : read (textOf t) = .ok e)
    (hvalid : e.isValid = true) :
    ∃ f, e.schedule? = some f ∧ ∀ p, Field.read p (t p) = .ok (f.get p) ∧ (f.get p).isSound := by
  unfold read at h
  rw [show Text.trim (textOf t) = textOf t from Text.trim_join (isSolid_of_mem hsolid)] at h
  split at h
  · next rest hrest =>
    rw [← hrest, ofAlias_of_space (space_mem_textOf t), ok_bind] at h
    rw [← pure_eq_ok_iff.1 h] at hvalid
    exact absurd hvalid (by simp [isValid, status])
  · rw [ofFields_textOf hsolid] at h
    obtain ⟨content, hcontent, h⟩ := bind_eq_ok_iff.1 h
    obtain ⟨f, hread, hcontent⟩ := bind_eq_ok_iff.1 hcontent
    obtain rfl := pure_eq_ok_iff.1 hcontent
    obtain rfl := pure_eq_ok_iff.1 h
    have herrors : f.errors = [] := by
      by_contra hne
      simp [isValid, status, List.isEmpty_iff, hne] at hvalid
    have hsound := Fields.errors_eq_nil_iff.1 herrors
    exact ⟨f, schedule?_of_timed.2 hsound, fun p => ⟨Fields.read_eq_ok_iff.1 hread p, hsound p⟩⟩

/-- Five words that are fields, the first of them no alias, are read as these fields. -/
theorem read_textOf (hat : '@' ∉ t .minute) (hread : ∀ p, Field.read p (t p) = .ok (f.get p)) :
    read (textOf t) = .ok ⟨textOf t, .timed f false⟩ := by
  have hcontent : Content.ofFields (textOf t) = .ok (.timed f false) := by
    rw [ofFields_textOf hsolid, Fields.read_eq_ok_iff.2 hread]
    rfl
  unfold read
  rw [show Text.trim (textOf t) = textOf t from Text.trim_join (isSolid_of_mem hsolid)]
  split
  · next rest hrest =>
    obtain ⟨c, s, hs, hc⟩ := exists_textOf_eq_cons hsolid
    obtain ⟨rfl, -⟩ := List.cons.inj (hs.symm.trans hrest)
    exact absurd hc hat
  · rw [hcontent]
    rfl

end Words

/-- The fields of a schedule are stored: each is what its own text is read as. -/
theorem isStored_of_read {s : Text} {e : Expression} (hread : read s = .ok e)
    (hf : e.schedule? = some f) (p : Position) : (f.get p).IsStored p := by
  obtain ⟨u, w, hw, hfield⟩ := exists_word_of_read hread hf p
  obtain ⟨-, -, herrors⟩ := content_of_schedule? hf
  exact Field.isStored_of_read (Text.isSolid_of_mem_words hw).2 hfield
    (Fields.errors_eq_nil_iff.1 herrors p)

end Expression

end Crontab
