import Crontab.Proofs.Field.Spellings
import Crontab.Proofs.Phrase.Drafted

/-!
# What a generated schedule selects

A generated expression is read again before it is handed out, but that only says that it is valid, and a
valid field may select nothing: the numbers from the fifth weekday to the first are none.  So a phrase
with the days the other way round, such as `friday to monday`, is answered with a schedule that has no
weekday (`friday_to_monday_selects_nothing`).

All other forms of drafted texts select something.  In ASCII they are documented spellings, whose
segments say what is selected (`Drafted.exists_writesField`), and a period in digits of another script
is no valid step.  So `generated_values` can say exactly which fields of which phrases are empty.
-/

namespace Crontab

/-! ## What single forms are written for -/

/-- A segment without a comma is a list of its own. -/
lemma Spelling.Writes.writesField {w : Spelling} {t : Text} {g : Segment} (h : w.Writes t g)
    (hcomma : ',' ∉ t) : w.WritesField t [g] := by
  rw [Spelling.WritesField, Text.pieces_of_notMem hcomma]
  exact .cons h .nil

namespace Position

variable {p : Position}

lemma documented_number {v : ℕ} (hv : p.inBounds v = true) : p.documented.number (natText v) v :=
  ⟨.inl ⟨isDigits_natText v, digitsValue_natText v⟩, hv⟩

lemma writesField_range {a b : ℕ} (ha : p.inBounds a = true) (hb : p.inBounds b = true) :
    p.documented.WritesField (natText a ++ "-" ++ natText b) [⟨.range a b, none⟩] := by
  have hrange : p.documented.Writes (natText a ++ '-' :: natText b) ⟨.range a b, none⟩ :=
    .plain (.range (documented_number ha) (documented_number hb))
  have hcomma : ',' ∉ natText a ++ "-" ++ natText b := Field.notMem_range (by decide) (by decide)
  rw [List.append_assoc] at hcomma ⊢
  exact hrange.writesField hcomma

lemma writesField_numbers {vs : List ℕ} (hne : vs ≠ []) (hvs : ∀ v ∈ vs, p.inBounds v = true) :
    p.documented.WritesField (Text.join "," (vs.map natText)) (vs.map fun v => ⟨.single v, none⟩) := by
  rw [Spelling.WritesField, Field.pieces_numbers hne, List.forall₂_map_left_iff,
    List.forall₂_map_right_iff, List.forall₂_same]
  exact fun v hv => .plain (.single (documented_number (hvs v hv)))

lemma writesField_period {n : Text} (hn : Text.isDigits n = true) :
    p.documented.WritesField ("*/" ++ n) [⟨.all, some (max (digitsValue n) 1)⟩] := by
  have hstep : p.documented.Writes (['*'] ++ '/' :: n) ⟨.all, some (max (digitsValue n) 1)⟩ :=
    .stepped .all ⟨hn, rfl⟩
  refine hstep.writesField fun hcomma => ?_
  rcases List.mem_append.1 hcomma with hcomma | hcomma
  · exact absurd hcomma (by decide)
  · rcases List.mem_cons.1 hcomma with hcomma | hcomma
    · exact absurd hcomma (by decide)
    · exact Segment.notMem_of_isDigits hn (by decide) hcomma

end Position

/-! ## What drafted texts select -/

/-- The range of weekdays that sets the weekday of a phrase: the first one in it, where no set phrase
decides. -/
def weekdaySpan? (s : Text) : Option (ℕ × ℕ) :=
  if (setPhrase? s).isSome then none else Clause.weekdayRange? s

lemma weekdaySpan?_eq_some_iff {s : Text} {r : ℕ × ℕ} :
    weekdaySpan? s = some r ↔ setPhrase? s = none ∧ Clause.weekdayRange? s = some r := by
  unfold weekdaySpan?
  split
  · next hsome => simp [Option.isSome_iff_ne_none.1 hsome]
  · next hnone => simp [Option.not_isSome_iff_eq_none.1 hnone]

/-- The range of weekdays goes from one day to an earlier one. -/
def WeekdaysReversed (s : Text) : Prop := ∃ r, weekdaySpan? s = some r ∧ r.2 < r.1

/-- The ends of a range of weekdays are weekdays, each stored as it is. -/
lemma inBounds_of_weekdayRange? {s : Text} {r : ℕ × ℕ} (hr : Clause.weekdayRange? s = some r) :
    Position.dayOfWeek.inBounds r.1 = true ∧ Position.dayOfWeek.inBounds r.2 = true := by
  obtain ⟨hfirst, hlast⟩ := Clause.lt_of_weekdayRange? hr
  exact ⟨Position.inBounds_iff.2 ⟨Nat.zero_le _, hfirst.le⟩,
    Position.inBounds_iff.2 ⟨Nat.zero_le _, hlast.le⟩⟩

namespace Drafted

variable {s t : Text} {p : Position} {f : Field}

/-- What is drafted in ASCII is documented, and it selects a number unless it is a reversed range of
weekdays. -/
lemma exists_writesField (h : Drafted s p t) (hascii : ∀ c ∈ t, c.toNat < 128) :
    ∃ gs, p.documented.WritesField t gs ∧
      ((∃ g ∈ gs, ∃ v, g.Selects p v) ∨ p = .dayOfWeek ∧ WeekdaysReversed s) := by
  cases h with
  | any =>
    have hall : p.documented.Writes "*" ⟨.all, none⟩ := .plain .all
    exact ⟨_, hall.writesField (by decide),
      .inl ⟨_, List.mem_singleton_self _, p.least, Segment.selects_least p none⟩⟩
  | numbers vs hne hvs =>
    obtain ⟨v, hv⟩ := List.exists_mem_of_ne_nil vs hne
    exact ⟨_, Position.writesField_numbers hne hvs,
      .inl ⟨_, List.mem_map_of_mem hv, v, hvs v hv, rfl⟩⟩
  | @span p a b hab ha hb =>
    exact ⟨_, Position.writesField_range ha hb,
      .inl ⟨_, List.mem_singleton_self _, a, ha, le_rfl, hab, by simp⟩⟩
  | @period p unit n hn =>
    obtain ⟨-, hne, hdecimal⟩ := Clause.decimals_of_every? hn
    have hdigits : Text.isDigits n = true := Text.isDigits_iff.2 ⟨hne, fun c hc =>
      Text.isDigit_of_isDecimal (hascii c (List.mem_append_right _ hc)) (hdecimal c hc)⟩
    exact ⟨_, Position.writesField_period hdigits,
      .inl ⟨_, List.mem_singleton_self _, p.least, Segment.selects_least p _⟩⟩
  | @weekdays r hset hr =>
    obtain ⟨hfirst, hlast⟩ := inBounds_of_weekdayRange? hr
    refine ⟨_, Position.writesField_range hfirst hlast, ?_⟩
    -- a range of weekdays is the only text of a draft that can select nothing
    rcases Nat.lt_or_ge r.2 r.1 with hreversed | hforward
    · exact .inr ⟨rfl, r, weekdaySpan?_eq_some_iff.2 ⟨hset, hr⟩, hreversed⟩
    · exact .inl ⟨_, List.mem_singleton_self _, r.1, hfirst, le_rfl, hforward, by simp⟩

/-- A valid field of a draft selects something, unless it is a reversed range of weekdays. -/
lemma weekdaysReversed_of_values (h : Drafted s p t) (hread : Field.read p t = .ok f)
    (hsound : f.isSound = true) (hnil : f.values = []) : p = .dayOfWeek ∧ WeekdaysReversed s := by
  have hblank := h.isSolid.2
  obtain ⟨_, htolerated⟩ := (Field.isSound_iff hblank hread).1 hsound
  obtain ⟨gs, hgs, ⟨g, hg, v, hv⟩ | hreversed⟩ :=
    h.exists_writesField (Field.ascii_of_writesField htolerated)
  · have hmem := (Field.mem_values_iff hblank hread (Field.writesField_tolerated hgs) _).2
      ⟨g, hg, v, hv, rfl⟩
    exact absurd (hnil ▸ hmem) List.not_mem_nil
  · exact hreversed

end Drafted

/-- A range of weekdays selects the days from its first to its last, none if they are reversed. -/
lemma mem_values_weekdays {s : Text} {r : ℕ × ℕ} {f : Field} (hr : Clause.weekdayRange? s = some r)
    (hread : Field.read .dayOfWeek (natText r.1 ++ "-" ++ natText r.2) = .ok f) (v : ℕ) :
    v ∈ f.values ↔ r.1 ≤ v ∧ v ≤ r.2 := by
  have hlast := (Clause.lt_of_weekdayRange? hr).2
  obtain ⟨hfirstBounds, hlastBounds⟩ := inBounds_of_weekdayRange? hr
  have hblank : ∀ c ∈ natText r.1 ++ "-" ++ natText r.2, Text.isBlank c = false := fun c hc => by
    rcases Field.isDigit_or_eq_of_mem_range hc with hc | rfl
    · exact (plain_of_isFieldChar (isFieldChar_of_isDigit hc)).1
    · decide
  have hstored : ∀ u ≤ r.2, Position.dayOfWeek.stored u = u := fun u hu => by
    rw [Position.stored, if_neg (by omega)]
  rw [Field.mem_values_iff hblank hread
    (Field.writesField_tolerated (Position.writesField_range hfirstBounds hlastBounds))]
  constructor
  · rintro ⟨g, hg, u, hu, rfl⟩
    obtain rfl := List.mem_singleton.1 hg
    obtain ⟨-, hfirst, hle, -⟩ := hu
    rw [hstored u hle]
    exact ⟨hfirst, hle⟩
  · rintro ⟨hfirst, hle⟩
    refine ⟨_, List.mem_singleton_self _, v, ⟨?_, hfirst, hle, by simp⟩, hstored v hle⟩
    exact Position.inBounds_iff.2 ⟨Nat.zero_le _, hle.trans hlast.le⟩

/-! ## Generated schedules -/

/-- **What a generated schedule selects.**  An expression that is generated is a schedule.  Its minutes,
hours, days of the month and months are never empty.  Its weekdays are empty exactly when a range of
weekdays set them that goes from one day to an earlier one.  Any range that sets the weekdays selects
the days from its first to its last: both of them as long as it is not reversed, and nothing if it
is. -/
theorem generated_values {phrase expression sentence : Text}
    (h : generate phrase = .ok (.success expression sentence)) :
    ∃ e f, Expression.read expression = .ok e ∧ e.schedule? = some f ∧
      (∀ p, (f.get p).values = [] ↔ p = .dayOfWeek ∧ WeekdaysReversed (plainPhrase phrase)) ∧
      (∀ r, weekdaySpan? (plainPhrase phrase) = some r →
        ∀ v, v ∈ f.dayOfWeek.values ↔ r.1 ≤ v ∧ v ≤ r.2) := by
  obtain ⟨t, e, ht, rfl, hread, hvalid, -⟩ := generate_eq_success_iff.1 h
  have hdrafted := Template.isDrafted_of_ofPhrase? ht
  rw [t.text_eq] at hread ⊢
  obtain ⟨f, hf, hfields⟩ :=
    Expression.exists_schedule_of_read_textOf (fun p => (hdrafted.get p).isSolid) hread hvalid
  have hspan : ∀ r, weekdaySpan? (plainPhrase phrase) = some r →
      ∀ v, v ∈ f.dayOfWeek.values ↔ r.1 ≤ v ∧ v ≤ r.2 := by
    intro r hr
    obtain ⟨hset, hrange⟩ := weekdaySpan?_eq_some_iff.1 hr
    have hcomposed : t = (Draft.compose (plainPhrase phrase)).template :=
      ((Template.ofPhrase?_cases ht).resolve_left (by simp [hset])).2
    have htext : t.dayOfWeek = natText r.1 ++ "-" ++ natText r.2 :=
      hcomposed ▸ Draft.dayOfWeek_compose hrange
    exact mem_values_weekdays hrange (htext ▸ (hfields .dayOfWeek).1)
  refine ⟨e, f, hread, hf, fun p => ⟨?_, ?_⟩, hspan⟩
  · exact (hdrafted.get p).weekdaysReversed_of_values (hfields p).1 (hfields p).2
  · rintro ⟨rfl, r, hr, hreversed⟩
    rw [List.eq_nil_iff_forall_not_mem]
    intro v hv
    obtain ⟨hfirst, hlast⟩ := (hspan r hr v).1 hv
    exact absurd (hfirst.trans hlast) (Nat.not_le.2 hreversed)

/-- From Monday to Friday every field selects something, and the weekdays are the five days. -/
theorem generated_values_weekdays :
    let phrase : Text := "Monday through Friday at 8am in June"
    ∃ e f, generate phrase = .ok (.success "0 8 * 6 1-5" "At minute 0 at 8AM in June on weekdays") ∧
      Expression.read "0 8 * 6 1-5" = .ok e ∧ e.schedule? = some f ∧
      (∀ p, (f.get p).values ≠ []) ∧ (∀ v, v ∈ f.dayOfWeek.values ↔ 1 ≤ v ∧ v ≤ 5) := by
  intro phrase
  have hgenerate : generate phrase =
      .ok (.success "0 8 * 6 1-5" "At minute 0 at 8AM in June on weekdays") := by
    decide
  have hspan : weekdaySpan? (plainPhrase phrase) = some (1, 5) := by decide
  obtain ⟨e, f, hread, hf, hvalues, hweekdays⟩ := generated_values hgenerate
  refine ⟨e, f, hgenerate, hread, hf, fun p hnil => ?_, hweekdays (1, 5) hspan⟩
  obtain ⟨-, r, hr, hreversed⟩ := (hvalues p).1 hnil
  obtain rfl := Option.some.inj (hspan.symm.trans hr)
  exact absurd hreversed (by decide)

/-- From Friday to Monday a schedule is given out that has no weekday at all. -/
theorem friday_to_monday_selects_nothing :
    ∃ e f, generate "friday to monday" = .ok (.success "0 9 * * 5-1" "At minute 0 at 9AM on ") ∧
      weekdaySpan? (plainPhrase "friday to monday") = some (5, 1) ∧
      Expression.read "0 9 * * 5-1" = .ok e ∧ e.schedule? = some f ∧ f.dayOfWeek.values = [] :=
  ⟨_, _, by decide, by decide +kernel, rfl, rfl, rfl⟩

end Crontab
