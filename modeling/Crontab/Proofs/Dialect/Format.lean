import Crontab.Dialect.Format
import Crontab.Proofs.Expression
import Crontab.Proofs.Text.Runs
import Crontab.Proofs.Text.Words

/-!
# Conversions into and out of five fields

A conversion out of five fields is made for every schedule (`Conversion.fromText_eq_done`).  A
conversion into five fields is made when the five texts are fields (`Conversion.ofFieldTexts_eq_done`),
and only then: a result has the fields that its five texts are read as
(`Conversion.exists_schedule_of_ofFieldTexts`).  An empty text among the five is no field: what is left
is too short for an expression (`Conversion.isSolid_of_ofFieldTexts`).
-/

namespace Crontab

lemma Dialect.ofName?_name (d : Dialect) : ofName? d.name = some d := by
  cases d <;> decide

namespace Conversion

open Expression (textOf)

variable {f : Fields} {t : Position → Text} {note? : Option Note} {exact : Bool}

lemma fromText_eq_done {s : Text} {e : Expression} (hread : Expression.read s = .ok e)
    (hf : e.schedule? = some f) (d : Dialect) (reboot : Conversion)
    (write : Expression → Fields → Converted) :
    fromText d s reboot write = .ok (.done (write e f)) := by
  obtain ⟨ignored, hcontent, herrors⟩ := Expression.content_of_schedule? hf
  have hvalid : e.isValid = true := by
    simp [Expression.isValid, Expression.status, hcontent, herrors]
  have hfields : e.fields? = some f := by
    simp [Expression.fields?, hcontent]
  rw [fromText, hread]
  simp only [ok_bind, hvalid, hfields]
  rfl

/-- The result of a conversion into five fields is their texts, with single spaces between them. -/
lemma result_of_ofFieldTexts {parts : List Text} {c : Converted}
    (h : ofFieldTexts parts note? exact = .ok (.done c)) : c.result = Text.join " " parts := by
  obtain ⟨e, -, h⟩ := bind_eq_ok_iff.1 h
  split at h
  · rw [← Conversion.done.inj (pure_eq_ok_iff.1 h)]
  · simp [pure, Except.pure] at h

/-- An outcome holds the text that it was found for, whether that is an expression or not. -/
lemma join_eq_of_ofFieldTexts {parts parts' : List Text} {o : Conversion}
    (h : ofFieldTexts parts note? exact = .ok o) (h' : ofFieldTexts parts' note? exact = .ok o) :
    Text.join " " parts = Text.join " " parts' := by
  obtain ⟨e, -, h⟩ := bind_eq_ok_iff.1 h
  obtain ⟨e', -, h'⟩ := bind_eq_ok_iff.1 h'
  split at h <;> split at h' <;> rw [← pure_eq_ok_iff.1 h'] at h <;>
    simp_all [pure, Except.pure]

/-- Stored fields are converted to an expression with these fields. -/
theorem ofFieldTexts_eq_done (hf : ∀ p, (f.get p).IsStored p) (note? : Option Note) (exact : Bool) :
    ∃ c e, ofFieldTexts (Position.all.map fun p => (f.get p).raw) note? exact = .ok (.done c) ∧
      c.exact = exact ∧ Expression.read c.result = .ok e ∧ e.schedule? = some f := by
  have hat : '@' ∉ (f.get .minute).raw := fun h => absurd ((hf .minute).chars '@' h) (by decide)
  have hread := Expression.read_textOf (fun p => (hf p).isSolid) hat fun p => (hf p).read_raw
  set e : Expression := ⟨textOf fun p => (f.get p).raw, .timed f false⟩ with he
  have hsound : ∀ p, (f.get p).isSound = true := fun p => (hf p).sound
  have hvalid : e.isValid = true := by
    simp [he, Expression.isValid, Expression.status, Fields.errors_eq_nil_iff.2 hsound]
  refine ⟨⟨.cron, e.source, none, some e.sentence, note?, exact⟩, e, ?_, rfl, hread,
    Expression.schedule?_of_timed.2 hsound⟩
  change (do
    let e ← Expression.read e.source
    if e.isValid then _ else _) = _
  rw [show Expression.read e.source = .ok e from hread, ok_bind, if_pos hvalid]
  rfl

/-- The result of a conversion into five fields is an expression with the fields that its texts are
read as. -/
theorem exists_schedule_of_ofFieldTexts (hsolid : ∀ p, Text.IsSolid (t p)) {c : Converted}
    (h : ofFieldTexts (Position.all.map t) note? exact = .ok (.done c)) :
    c.exact = exact ∧ ∃ e f, Expression.read c.result = .ok e ∧ e.schedule? = some f ∧
      ∀ p, Field.read p (t p) = .ok (f.get p) ∧ (f.get p).isSound = true := by
  obtain ⟨e, hread, h⟩ := bind_eq_ok_iff.1 h
  split at h
  · next hvalid =>
    obtain rfl := Conversion.done.inj (pure_eq_ok_iff.1 h)
    obtain ⟨f, hf, hfields⟩ := Expression.exists_schedule_of_read_textOf hsolid hread hvalid
    exact ⟨rfl, e, f, hread, hf, hfields⟩
  · simp [pure, Except.pure] at h

/-! ### Texts that may be empty -/

section Blank

variable (hblank : ∀ p, ∀ c ∈ t p, Text.isBlank c = false)

include hblank

lemma words_textOf_filter :
    Text.words (textOf t) = (Position.all.map t).filter (· ≠ []) :=
  Text.words_join_filter (List.forall_mem_map.2 fun p _ => hblank p)

/-- If nothing but one word is left of five texts, it is the last of them. -/
lemma trim_textOf_of_notMem (hlast : t .dayOfWeek ≠ []) (hne : Text.trim (textOf t) ≠ [])
    (hspace : ' ' ∉ Text.trim (textOf t)) : Text.trim (textOf t) = t .dayOfWeek := by
  have hsolid : Text.IsSolid (Text.trim (textOf t)) := by
    refine ⟨hne, fun c hc => ?_⟩
    rcases Text.mem_join ((Text.isInfix_trim (textOf t)).subset hc) with hsep | ⟨w, hw, hcw⟩
    · rw [List.mem_singleton.1 hsep] at hc
      exact absurd hc hspace
    · obtain ⟨p, -, rfl⟩ := List.mem_map.1 hw
      exact hblank p c hcw
  have hone : [Text.trim (textOf t)] = (Position.all.map t).filter (· ≠ []) := by
    rw [← Text.words_of_isSolid hsolid, Text.words_trim, words_textOf_filter hblank]
  have hmem : t .dayOfWeek ∈ (Position.all.map t).filter (· ≠ []) :=
    List.mem_filter.2 ⟨List.mem_map.2 ⟨_, Fields.mem_all _, rfl⟩, by simpa using hlast⟩
  rw [← hone] at hmem
  exact (List.mem_singleton.1 hmem).symm

/-- Five texts that are valid together, and do not end with an alias, are at least five words. -/
lemma five_le_length_words (hlast : t .dayOfWeek ≠ []) (hat : '@' ∉ t .dayOfWeek) {e : Expression}
    (hread : Expression.read (textOf t) = .ok e) (hvalid : e.isValid = true) :
    5 ≤ (Text.words (textOf t)).length := by
  unfold Expression.read at hread
  split at hread
  · next rest htrim =>
    have hspace : ' ' ∈ Text.trim (textOf t) := by
      by_contra hnone
      have hword := trim_textOf_of_notMem hblank hlast (by simp [htrim]) hnone
      exact hat (hword ▸ htrim ▸ List.mem_cons_self)
    rw [← htrim, Expression.ofAlias_of_space hspace, ok_bind] at hread
    rw [← pure_eq_ok_iff.1 hread] at hvalid
    simp [Expression.isValid, Expression.status] at hvalid
  · obtain ⟨content, hcontent, hread⟩ := bind_eq_ok_iff.1 hread
    obtain rfl := pure_eq_ok_iff.1 hread
    unfold Content.ofFields at hcontent
    split at hcontent
    · next hfive => simp [hfive]
    · next hsix => simp [hsix]
    · obtain rfl := pure_eq_ok_iff.1 hcontent
      simp [Expression.isValid, Expression.status] at hvalid

/-- A conversion into five fields is made only when none of the texts is empty. -/
theorem isSolid_of_ofFieldTexts (hlast : t .dayOfWeek ≠ []) (hat : '@' ∉ t .dayOfWeek)
    {c : Converted} (h : ofFieldTexts (Position.all.map t) note? exact = .ok (.done c))
    (p : Position) : Text.IsSolid (t p) := by
  obtain ⟨e, hread, h⟩ := bind_eq_ok_iff.1 h
  have hvalid : e.isValid = true := by
    by_contra hinvalid
    simp [hinvalid, pure, Except.pure] at h
  have hfive := five_le_length_words hblank hlast hat hread hvalid
  rw [words_textOf_filter hblank] at hfive
  have hall : (Position.all.map t).filter (· ≠ []) = Position.all.map t :=
    List.filter_sublist.eq_of_length_le hfive
  have hmem : t p ∈ (Position.all.map t).filter (· ≠ []) := by
    rw [hall]
    exact List.mem_map.2 ⟨p, Fields.mem_all p, rfl⟩
  exact ⟨by simpa using (List.mem_filter.1 hmem).2, hblank p⟩

end Blank

end Conversion

end Crontab
