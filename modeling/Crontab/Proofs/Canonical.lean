import Crontab.Proofs.Accepted
import Crontab.Proofs.Coincidence
import Crontab.Proofs.Dialect.Detection
import Crontab.Proofs.Dialect.Format
import Crontab.Proofs.Field.Grammar
import Crontab.Proofs.Sentence

/-!
# The canonical text of an expression

An expression with a schedule may be written with names, in capitals, with a field for the seconds in
front, or as an alias.  Its canonical text keeps none of this: it consists of five words of digits and
of the marks `*`, `,`, `-` and `/`.  `Expression.canonical_isNormalForm` says that nothing is lost and
nothing is left to do.  The canonical text is read as the very same fields, it is its own canonical
text, and whoever recognises, converts, describes or compares it takes it for the expression that it
was made from.

Everything but the recognition rests on the fact that the fields of a schedule are stored
(`Expression.isStored_of_read`).  For the recognition one has to know in addition that the first word
cannot be mistaken for a date.  That would take two hyphens, and in a field there is at most one of
them for each segment (`Field.IsStored.count_hyphen_le`).
-/

namespace Crontab

/-! ## No field is a date -/

namespace Field

variable {p : Position} {f : Field}

/-- A field that is a single span has one hyphen at most. -/
lemma IsStored.count_hyphen_le (h : f.IsStored p) (hcomma : ',' ∉ f.raw) (hstroke : '/' ∉ f.raw) :
    f.raw.count '-' ≤ 1 := by
  obtain ⟨segments, hsegments, -⟩ := read_iff.1 ⟨h.read_raw, h.sound⟩
  rw [normalize_of_chars h.chars, Text.pieces_of_notMem hcomma] at hsegments
  obtain ⟨g, -, hg⟩ := exists_of_forall₂ hsegments List.mem_cons_self
  have hwrites : Spelling.stored.Writes f.raw g := (Segment.read?_eq_some_iff hg).1 rfl
  obtain ⟨span, hspan, -⟩ := (Spelling.writes_iff_of_notMem hstroke).1 hwrites
  exact hspan.count_hyphen_le

/-- A text that starts with a field does not start with a date. -/
lemma IsStored.startsWithDate_eq_false (h : f.IsStored p) (s : Text) :
    startsWithDate (f.raw ++ ' ' :: s) = false := by
  by_contra hdate
  obtain ⟨a, b, c, hraw, hword⟩ :=
    exists_of_startsWithDate_join h.isSolid.2 (Bool.eq_true_of_not_eq_false hdate)
  have hnotMem : ∀ m, m ≠ '-' → Text.isWord m = false → m ∉ f.raw := by
    intro m hhyphen hm hmem
    have hpart : m ∈ a ++ (b ++ c) := by simpa [hraw, hhyphen] using hmem
    simp [hword m hpart] at hm
  -- without commas a field holds one hyphen at most, and a date holds two
  have hone : f.raw.count '-' ≤ 1 :=
    h.count_hyphen_le (hnotMem _ (by simp) rfl) (hnotMem _ (by simp) rfl)
  have htwo : 2 ≤ f.raw.count '-' := by
    simp only [hraw, List.count_append, List.count_cons_self]
    omega
  omega

end Field

/-! ## The canonical text -/

namespace Expression

variable {s : Text} {e : Expression} {f : Fields}

lemma errors_eq_nil_of_schedule? (hf : e.schedule? = some f) : e.errors = [] := by
  obtain ⟨ignored, hcontent, herrors⟩ := content_of_schedule? hf
  rw [errors, hcontent]
  simp [herrors]

/-- The canonical text of a schedule consists of the stored texts of its fields. -/
lemma canonical_of_schedule? (hf : e.schedule? = some f) :
    e.canonical = textOf fun p => (f.get p).raw := by
  rw [canonical, fields?_of_schedule? hf]
  rfl

section Schedule

variable (hread : read s = .ok e) (hf : e.schedule? = some f)

include hread hf

/-- The canonical text is read as the fields that it was made from. -/
lemma read_canonical : read e.canonical = .ok ⟨e.canonical, .timed f false⟩ := by
  have hstored := isStored_of_read hread hf
  have hat : '@' ∉ (f.get .minute).raw := fun hmem => by
    simpa [isFieldChar] using (hstored .minute).chars _ hmem
  rw [canonical_of_schedule? hf]
  exact read_textOf (fun p => (hstored p).isSolid) hat fun p => (hstored p).read_raw

lemma isSolid_canonical : ∀ w ∈ Position.all.map (fun p => (f.get p).raw), Text.IsSolid w :=
  isSolid_of_mem fun p => (isStored_of_read hread hf p).isSolid

lemma detect_canonical : detect e.canonical = some .cron := by
  have hstored := isStored_of_read hread hf
  have hletters : ∀ w ∈ Position.all.map (fun p => (f.get p).raw), ∀ c ∈ w, c.isAlpha = false := by
    intro w hw c hc
    obtain ⟨p, -, rfl⟩ := List.mem_map.1 hw
    exact (plain_of_isFieldChar ((hstored p).chars c hc)).2.2
  have hdate : startsWithDate (textOf fun p => (f.get p).raw) = false := by
    obtain ⟨rest, hrest⟩ : ∃ rest, (textOf fun p => (f.get p).raw) = f.minute.raw ++ ' ' :: rest :=
      ⟨_, Text.join_singleton_cons ' ' _ _ _⟩
    rw [hrest]
    exact (hstored .minute).startsWithDate_eq_false rest
  rw [canonical_of_schedule? hf]
  exact detect_join (isSolid_canonical hread hf) hletters hdate

/-- Conversion from five fields changes nothing. -/
lemma exists_toCron_canonical :
    ∃ back, toCron e.canonical (Dialect.name .cron) = .ok (.done back) ∧
      back.result = e.canonical := by
  obtain ⟨back, -, hback, -⟩ :=
    Conversion.ofFieldTexts_eq_done (isStored_of_read hread hf) none true
  have hwords : Text.words e.canonical = Position.all.map fun p => (f.get p).raw := by
    rw [canonical_of_schedule? hf]
    exact Text.words_join (isSolid_canonical hread hf)
  refine ⟨back, ?_, ?_⟩
  · rw [toCron, Dialect.ofName?_name, hwords]
    exact hback
  · rw [Conversion.result_of_ofFieldTexts hback, canonical_of_schedule? hf]
    rfl

end Schedule

/-! ## Comparison with an expression of the same fields -/

section Compare

variable {e₁ e₂ : Expression} {first second : Text} (hread₁ : read first = .ok e₁)
  (hread₂ : read second = .ok e₂) (hf₁ : e₁.schedule? = some f) (hf₂ : e₂.schedule? = some f)

include hread₁ hread₂ hf₁ hf₂

/-- Two texts with the same fields compare as the same as soon as the next runs are found. -/
lemma exists_compare_same {zone : Except Fault Zone} {start : AskedTime} {runs : List Moment}
    (hruns : e₁.runsAfter zone overlapSample start = .ok runs) :
    ∃ r, Crontab.compare first second zone start = .ok (.ok r) ∧ r.same = true ∧
      r.differences = [] := by
  obtain ⟨z, t, rfl, -, -⟩ := exists_runs_eq hf₁ (by norm_num) hruns
  have hruns₂ : e₂.runsAfter (.ok z) overlapSample start = .ok runs := by
    rw [← hruns]
    exact runsAfter_eq_of_alike hf₂ hf₁ (fun _ => rfl) ⟨rfl, rfl⟩ _ _ _
  obtain ⟨r, hr, -⟩ := compare_eq_ok hread₁ hread₂ hf₁ hf₂ hruns hruns₂
  have hnone : r.differences = [] := by
    have hcompare : e₁.compare e₂ (.ok z) start = .ok (.ok r) := by
      simpa only [Crontab.compare, hread₁, hread₂, ok_bind] using hr
    rw [differences_of_compare hf₁ hf₂ hcompare]
    exact Fields.differences_eq_nil_iff.2 fun _ => rfl
  exact ⟨r, hr, by simp [Comparison.same, hnone], hnone⟩

/-- The search for the next runs is the only thing that can stop the comparison. -/
lemma compare_eq_error {zone : Except Fault Zone} {start : AskedTime} {fault : Fault}
    (hruns : e₁.runsAfter zone overlapSample start = .error fault) :
    Crontab.compare first second zone start = .error fault := by
  simp only [Crontab.compare, compare, hread₁, hread₂, isValid_of_schedule? hf₁,
    isValid_of_schedule? hf₂, hf₁, hf₂, hruns, ok_bind, Bool.not_true, Bool.false_eq_true, if_false]
  rfl

end Compare

/-! ## The normal form -/

/-- **The canonical text is a normal form.**  Take a text that reads as an expression with a schedule.
Its canonical text is five words, with single spaces between them, of digits and of the four marks.  It
is valid without errors and without a field for the seconds, has the same five fields down to their
texts, and is its own canonical text.  It is recognised as five fields, conversion from five fields
leaves it as it is, and it is described as the given text is.  Compared with the given text it shows
no difference, unless the search for the next runs, which belongs to a comparison, stops with a fault. -/
theorem canonical_isNormalForm (hread : read s = .ok e) (hf : e.schedule? = some f) :
    ∃ t : Position → Text, e.canonical = textOf t ∧
      (∀ p, t p ≠ [] ∧ ∀ c ∈ t p, isFieldChar c = true) ∧
      ∃ e' back, read e.canonical = .ok e' ∧ e'.isValid = true ∧ e'.fields? = some f ∧
        e'.secondsIgnored = false ∧ e'.errors = [] ∧ e'.canonical = e.canonical ∧
        detect e.canonical = some .cron ∧
        toCron e.canonical (Dialect.name .cron) = .ok (.done back) ∧ back.result = e.canonical ∧
        describe e.canonical = describe s ∧
        ∀ zone start,
          (∀ runs, e.runsAfter zone overlapSample start = .ok runs →
            ∃ r, Crontab.compare s e.canonical zone start = .ok (.ok r) ∧ r.same = true ∧
              r.differences = []) ∧
          ∀ fault, e.runsAfter zone overlapSample start = .error fault →
            Crontab.compare s e.canonical zone start = .error fault := by
  have hstored := isStored_of_read hread hf
  have hread' := read_canonical hread hf
  have hf' : (⟨e.canonical, .timed f false⟩ : Expression).schedule? = some f :=
    schedule?_of_timed.2 fun p => (hstored p).sound
  obtain ⟨back, hback, hresult⟩ := exists_toCron_canonical hread hf
  refine ⟨fun p => (f.get p).raw, canonical_of_schedule? hf,
    fun p => ⟨(hstored p).raw_ne_nil, (hstored p).chars⟩, _, back, hread', isValid_of_schedule? hf',
    fields?_of_schedule? hf', rfl, errors_eq_nil_of_schedule? hf', ?_, detect_canonical hread hf,
    hback, hresult, ?_, fun zone start => ⟨fun runs hruns => ?_, fun fault hfault => ?_⟩⟩
  · rw [canonical_of_schedule? hf', canonical_of_schedule? hf]
  · rw [describe_eq_ok hread hf, describe_eq_ok hread' hf']
  · exact exists_compare_same hread hread' hf hf' hruns
  · exact compare_eq_error hread hread' hf hf' hfault

/-- A field for the seconds, names and capitals are gone from the canonical text. -/
theorem canonical_isNormalForm_names :
    ∃ e f, read "30 0 9 * Jan-MAR mon" = .ok e ∧ e.schedule? = some f ∧
      e.canonical = "0 9 * 1-3 1" ∧ detect "0 9 * 1-3 1" = some .cron ∧
      describe "0 9 * 1-3 1" = describe "30 0 9 * Jan-MAR mon" ∧
      ∃ e', read "0 9 * 1-3 1" = .ok e' ∧ e'.fields? = some f := by
  have h : (read "30 0 9 * Jan-MAR mon").toOption.map
      (fun e => (e.schedule?.isSome, e.canonical)) = some (true, "0 9 * 1-3 1".toList) := by
    decide +kernel
  obtain ⟨e, he, h⟩ := Option.map_eq_some_iff.1 h
  obtain ⟨hsome, hcanonical⟩ := Prod.mk.inj h
  obtain ⟨f, hf⟩ := Option.isSome_iff_exists.1 hsome
  have hread := eq_ok_of_toOption he
  obtain ⟨t, -, -, e', back, hread', -, hfields, -, -, -, hdetect, -, -, hdescribe, -⟩ :=
    canonical_isNormalForm hread hf
  rw [hcanonical] at hread' hdetect hdescribe
  exact ⟨e, f, hread, hf, hcanonical, hdetect, hdescribe, e', hread', hfields⟩

end Expression

end Crontab
