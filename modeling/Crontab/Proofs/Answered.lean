import Crontab.Advice
import Crontab.Proofs.Field.Meaning
import Crontab.Proofs.Phrase.Drafted

/-!
# Texts are answered

Malformed text is an ordinary input: reading, judging, telling and generating answer with a value that
says what is wrong.  The only thing that stops them is a run of digits that is too long to be a number
(`Except.IsLenient`), and no such run comes up in a text whose runs of letters and digits are short
(`Text.IsTame`).

Both properties are passed on from the reading of a field to everything that is built on it: leniency
by the way computations are put together, tameness by the way texts are taken apart and joined.
-/

namespace Crontab

/-! ## Lenient computations -/

/-- The fault of a run of digits that is too long to be a number. -/
def Fault.IsOverlong (e : Fault) : Prop := ∃ n, digitLimit < n ∧ e = .numeralTooLong n

lemma Fault.ComesFrom.isOverlong {e : Fault} {s : Text} (h : e.ComesFrom s) : e.IsOverlong := by
  obtain ⟨r, -, -, hlong, rfl⟩ := h
  exact ⟨r.length, hlong, rfl⟩

/-- The computation stops at nothing but a run of digits that is too long. -/
def IsLenient {α : Type} (x : Except Fault α) : Prop := ∀ e, x = .error e → e.IsOverlong

namespace IsLenient

variable {α β : Type} {x : Except Fault α} {g : α → Except Fault β}

lemma ok (a : α) : IsLenient (.ok a) := fun _ h => by simp at h

lemma pure (a : α) : IsLenient (Pure.pure a) := ok a

lemma bind (hx : IsLenient x) (hg : ∀ a, IsLenient (g a)) : IsLenient (x >>= g) := by
  intro e h
  rcases bind_eq_error_iff.1 h with h | ⟨a, -, h⟩
  · exact hx e h
  · exact hg a e h

lemma mapM {l : List α} (hg : ∀ a, IsLenient (g a)) : IsLenient (l.mapM g) := by
  intro e h
  obtain ⟨a, -, h⟩ := exists_of_mapM_eq_error h
  exact hg a e h

end IsLenient

lemma isLenient_read_field (p : Position) (s : Text) : IsLenient (Field.read p s) := fun _ h =>
  (Field.comesFrom_of_read h).isOverlong

lemma isLenient_read_fields (m h d mo w : Text) : IsLenient (Fields.read m h d mo w) :=
  (isLenient_read_field _ m).bind fun _ => (isLenient_read_field _ h).bind fun _ =>
    (isLenient_read_field _ d).bind fun _ => (isLenient_read_field _ mo).bind fun _ =>
      (isLenient_read_field _ w).bind fun _ => .pure _

lemma isLenient_ofFields (s : Text) : IsLenient (Content.ofFields s) := by
  unfold Content.ofFields
  split
  · exact (isLenient_read_fields _ _ _ _ _).bind fun _ => .pure _
  · exact (isLenient_read_fields _ _ _ _ _).bind fun _ => .pure _
  · exact .pure _

lemma isLenient_read (s : Text) : IsLenient (Expression.read s) := by
  unfold Expression.read
  split
  · refine IsLenient.bind ?_ fun _ => .pure _
    unfold Content.ofAlias
    split
    · exact .pure _
    · exact .pure _
    · exact isLenient_ofFields _
  · exact (isLenient_ofFields s).bind fun _ => .pure _

lemma isLenient_validate (s : Text) : IsLenient (validate s) := (isLenient_read s).bind fun _ => .pure _

lemma isLenient_describe (s : Text) : IsLenient (describe s) := (isLenient_read s).bind fun _ => .pure _

lemma isLenient_generate (phrase : Text) : IsLenient (generate phrase) := by
  unfold generate
  split
  · exact .pure _
  · refine (isLenient_read _).bind fun e => ?_
    split <;> exact .pure _

/-! ## Tame texts -/

namespace Text

variable {kind : Char → Bool} {n : ℕ} {s t : Text}

/-- A character that is not of the kind ends the runs in front of it. -/
lemma runsFrom_append_cons_iff {c : Char} (hc : kind c = false) {k : ℕ} :
    RunsFrom kind n k (s ++ c :: t) ↔ RunsFrom kind n k s ∧ RunsFrom kind n 0 t := by
  induction s generalizing k with
  | nil => exact runsFrom_cons_of_neg hc
  | cons a s ih =>
    rw [List.cons_append]
    cases ha : kind a with
    | true => rw [runsFrom_cons_of_pos ha, runsFrom_cons_of_pos ha, ih]
    | false => rw [runsFrom_cons_of_neg ha, runsFrom_cons_of_neg ha, ih, and_assoc]

/-- A mark between two texts keeps their runs apart. -/
lemma RunsWithin.append_cons {c : Char} (hc : kind c = false) (hs : RunsWithin kind n s)
    (ht : RunsWithin kind n t) : RunsWithin kind n (s ++ c :: t) :=
  runsWithin_iff.2 ((runsFrom_append_cons_iff hc).2 ⟨runsWithin_iff.1 hs, runsWithin_iff.1 ht⟩)

lemma RunsWithin.join {sep : Char} (hsep : kind sep = false) {ts : List Text}
    (h : ∀ t ∈ ts, RunsWithin kind n t) : RunsWithin kind n (Text.join [sep] ts) := by
  induction ts with
  | nil => exact runsWithin_of_length_le (Nat.zero_le _)
  | cons t ts ih =>
    rw [List.forall_mem_cons] at h
    cases ts with
    | nil => exact h.1
    | cons u ts =>
      rw [join_singleton_cons]
      exact h.1.append_cons hsep (ih h.2)

/-- A character of which digits or letters come in lower case. -/
abbrev isRunning : Char → Bool := lowersTo Char.isAlphanum

/-- A text whose runs of letters and digits are no longer than a number may be. -/
def IsTame (s : Text) : Prop := RunsWithin isRunning digitLimit s

namespace IsTame

lemma of_part (h : IsTame s) (ht : t <:+: s) : IsTame t := RunsWithin.of_part h ht

lemma of_length (h : s.length ≤ digitLimit) : IsTame s := runsWithin_of_length_le h

end IsTame

end Text

open Text (IsTame)

/-- A tame text is read as a field. -/
lemma exists_read_field {s : Text} (h : IsTame s) (p : Position) : ∃ f, Field.read p s = .ok f :=
  Field.exists_read (Field.runsWithin_normalize h)

lemma exists_read_fields {m h d mo w : Text}
    (htame : IsTame m ∧ IsTame h ∧ IsTame d ∧ IsTame mo ∧ IsTame w) :
    ∃ f, Fields.read m h d mo w = .ok f := by
  obtain ⟨hm, hh, hd, hmo, hw⟩ := htame
  obtain ⟨minute, hminute⟩ := exists_read_field hm .minute
  obtain ⟨hour, hhour⟩ := exists_read_field hh .hour
  obtain ⟨dayOfMonth, hdayOfMonth⟩ := exists_read_field hd .dayOfMonth
  obtain ⟨month, hmonth⟩ := exists_read_field hmo .month
  obtain ⟨dayOfWeek, hdayOfWeek⟩ := exists_read_field hw .dayOfWeek
  rw [Fields.read, hminute, hhour, hdayOfMonth, hmonth, hdayOfWeek]
  exact ⟨_, rfl⟩

lemma exists_ofFields {s : Text} (h : IsTame s) : ∃ c, Content.ofFields s = .ok c := by
  have hword : ∀ w ∈ Text.words s, IsTame w := fun w hw => h.of_part (Text.isInfix_of_mem_words hw)
  unfold Content.ofFields
  split
  · next hwords =>
    rw [hwords] at hword
    obtain ⟨f, hf⟩ := exists_read_fields (by simpa using hword)
    exact ⟨_, by rw [hf]; rfl⟩
  · next hwords =>
    rw [hwords, List.forall_mem_cons] at hword
    obtain ⟨f, hf⟩ := exists_read_fields (by simpa using hword.2)
    exact ⟨_, by rw [hf]; rfl⟩
  · exact ⟨_, rfl⟩

lemma exists_ofAlias (s : Text) : ∃ c, Content.ofAlias s = .ok c := by
  have hexpansions : ∀ a ∈ aliases, ∀ t ∈ a.2, t.length ≤ digitLimit := by decide
  unfold Content.ofAlias
  split
  · exact ⟨_, rfl⟩
  · exact ⟨_, rfl⟩
  · next expansion hlookup =>
    exact exists_ofFields (.of_length (hexpansions _ (mem_of_lookup hlookup) expansion rfl))

/-- A tame text is read as an expression. -/
theorem exists_read {s : Text} (h : IsTame s) : ∃ e, Expression.read s = .ok e := by
  unfold Expression.read
  split
  · obtain ⟨c, hc⟩ := exists_ofAlias _
    exact ⟨_, by rw [hc]; rfl⟩
  · obtain ⟨c, hc⟩ := exists_ofFields h
    exact ⟨_, by rw [hc]; rfl⟩

/-! ## Phrases -/

namespace Text

variable {s t : Text} {c : Char}

lemma isAlphanum_of_isRunning (h : isRunning c = true) :
    c.isAlphanum = true ∨ c = '\u0130' ∨ c = '\u212A' := by
  by_cases hc : c.toNat < 128
  · rw [isRunning, lowersTo_of_ascii hc] at h
    exact .inl (isAlphanum_of_toLower h)
  · have hcode : ∀ d : Char, d.isAlphanum = true → d.toNat < 128 ∧ d.toNat ≠ 0 := by
      intro d hd
      refine ⟨toNat_lt_of_isAlphanum hd, fun hzero => ?_⟩
      rw [show d = Char.ofNat 0 from Char.toNat_inj.1 hzero] at hd
      exact absurd hd (by decide)
    exact .inr ((lowersTo_outside hcode hc h).imp And.left And.left)

/-- Decimal digits of any script run no further than the digits of ASCII among them. -/
lemma isTame_of_decimals (hs : ∀ c ∈ s, isDecimal c = true)
    (h : RunsWithin Char.isAlphanum digitLimit s) : IsTame s := by
  refine h.of_imp fun c hc hrunning => ?_
  rcases isAlphanum_of_isRunning hrunning with halpha | rfl | rfl
  · exact halpha
  · exact absurd (hs _ hc) (by decide)
  · exact absurd (hs _ hc) (by decide)

end Text

lemma runsWithin_natText {kind : Char → Bool} {n : ℕ} (h : n < 100) :
    Text.RunsWithin kind digitLimit (natText n) := by
  have hshort : ∀ n < 100, (natText n).length ≤ 2 := by decide
  exact Text.runsWithin_of_length_le ((hshort n h).trans (by decide))

/-- What is drafted has no runs that are too long when the number of a period has none, unless the runs
are of a kind that goes over the marks of a field. -/
lemma Drafted.runsWithin {kind : Char → Bool} {s t : Text} {p : Position} (h : Drafted s p t)
    (hmarks : ∀ c ∈ [',', '-', '/'], kind c = false)
    (hperiod : ∀ unit n, Clause.every? unit s = some n → Text.RunsWithin kind digitLimit n) :
    Text.RunsWithin kind digitLimit t := by
  have hspan : ∀ {a b : ℕ}, a < 100 → b < 100 →
      Text.RunsWithin kind digitLimit (natText a ++ "-" ++ natText b) := by
    intro a b ha hb
    rw [List.append_assoc]
    exact (runsWithin_natText ha).append_cons (hmarks '-' (by decide)) (runsWithin_natText hb)
  cases h with
  | any => exact Text.runsWithin_of_length_le (by decide)
  | numbers _ _ hvs =>
    exact .join (hmarks ',' (by decide)) (List.forall_mem_map.2 fun v hv =>
      runsWithin_natText (Field.lt_hundred_of_inBounds (hvs v hv)))
  | span _ ha hb => exact hspan (Field.lt_hundred_of_inBounds ha) (Field.lt_hundred_of_inBounds hb)
  | period hn =>
    have hstar : Text.RunsWithin kind digitLimit "*" := Text.runsWithin_of_length_le (by decide)
    exact hstar.append_cons (hmarks '/' (by decide)) (hperiod _ _ hn)
  | weekdays _ hr =>
    obtain ⟨hfirst, hlast⟩ := Clause.lt_of_weekdayRange? hr
    exact hspan (hfirst.trans (by decide)) (hlast.trans (by decide))

/-- The texts of a template bound the runs of the whole, which go over no space. -/
lemma Template.runsWithin_text {kind : Char → Bool} {n : ℕ} {t : Template} (hspace : kind ' ' = false)
    (h : ∀ p, Text.RunsWithin kind n (t.get p)) : Text.RunsWithin kind n t.text := by
  rw [t.text_eq, Expression.textOf]
  exact .join hspace (List.forall_mem_map.2 fun p _ => h p)

/-- A tame phrase stands for a tame text. -/
lemma isTame_of_ofPhrase? {phrase : Text} {t : Template} (hphrase : IsTame phrase)
    (h : Template.ofPhrase? phrase = some t) : IsTame t.text := by
  have hruns : Text.RunsWithin Char.isAlphanum digitLimit (plainPhrase phrase) :=
    (Text.RunsWithin.lower ⟨by decide, by decide⟩ hphrase).of_part (Text.isInfix_trim _)
  have hdrafted := Template.isDrafted_of_ofPhrase? h
  refine Template.runsWithin_text (by decide) fun p => ?_
  refine (hdrafted.get p).runsWithin (by decide) fun unit n hn => ?_
  obtain ⟨hpart, -, hdecimal⟩ := Clause.decimals_of_every? hn
  exact Text.isTame_of_decimals hdecimal (hruns.of_part hpart)

/-- A tame phrase is answered. -/
lemma exists_generate {phrase : Text} (h : IsTame phrase) : ∃ g, generate phrase = .ok g := by
  unfold generate
  split
  · exact ⟨_, rfl⟩
  · next t ht =>
    obtain ⟨e, he⟩ := exists_read (isTame_of_ofPhrase? h ht)
    rw [he, ok_bind]
    split <;> exact ⟨_, rfl⟩

end Crontab
