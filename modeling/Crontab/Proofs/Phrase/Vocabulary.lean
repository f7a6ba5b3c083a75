import Crontab.Calendar.Month
import Crontab.Proofs.Phrase.Clauses

/-!
# The words of clauses

A time, a weekday, a day of the month and a month are told in few words: `at`, `on`, `in` and `the`,
names, and words that start with a number (`IsClauseWord`).  This module says what these words are not.
None of them is part of a set phrase, starts a period or joins a range (`IsClauseWord.lacks`,
`IsClauseWord.ne_every`, `IsClauseWord.notMem_rangeWords`), and none is taken for a name that it is not
(`IsClauseWord.isNamed_iff`).
-/

namespace Crontab

/-! ## Names -/

/-- The name that stands for a number, in full or short, in lower case. -/
def IsNameOf (names : List (Text × ℕ)) (v : ℕ) (t : Text) : Prop :=
  ∃ name, (name, v) ∈ names ∧ (t = name.map Char.toLower ∨ t = (shortName name).map Char.toLower)

namespace IsNameOf

variable {names table : List (Text × ℕ)} {v : ℕ} {t : Text}

lemma mem_table (h : IsNameOf names v t)
    (htable : ∀ n ∈ names, (n.1.map Char.toLower, n.2) ∈ table ∧
      ((shortName n.1).map Char.toLower, n.2) ∈ table) : (t, v) ∈ table := by
  obtain ⟨name, hname, rfl | rfl⟩ := h
  · exact (htable _ hname).1
  · exact (htable _ hname).2

lemma mem_weekdayWords (h : IsNameOf dayNames.zipIdx v t) : (t, v) ∈ weekdayWords :=
  h.mem_table (by decide)

lemma mem_monthWords (h : IsNameOf (monthNames.zipIdx 1) v t) : (t, v) ∈ monthWords :=
  h.mem_table (by decide)

end IsNameOf

/-! ## Words that start with a number -/

/-- The letters behind a number: of the halves of the day, and of the endings of an ordinal number. -/
def numberEndings : Text := "ampstndrh"

/-- The characters of words that start with a number. -/
def isNumberChar (c : Char) : Bool := c.isDigit || c == ':' || numberEndings.contains c

/-- A word that starts with a number: a time, or a day of the month. -/
structure IsNumberWord (w : Text) : Prop where
  digit : w.head?.any Char.isDigit = true
  leads : Text.LettersLead w
  chars : ∀ c ∈ w, isNumberChar c = true

section Numerals

variable {n m : Text} {v minute : ℕ}

lemma IsWrittenMinute.isDigit_or_eq_of_mem (h : IsWrittenMinute m minute) {c : Char} (hc : c ∈ m) :
    c.isDigit = true ∨ c = ':' := by
  cases h with
  | absent => simp at hc
  | given hm =>
    rcases List.mem_cons.1 hc with hc | hc
    · exact .inr hc
    · exact .inl ((Text.isDigits_iff.1 hm.digits).2 c hc)

/-- An hour ends with a digit, with minutes behind it or without. -/
lemma IsWrittenMinute.isDigit_of_getLast? (h : IsWrittenMinute m minute) (hn : IsNumeral n v)
    {c : Char} (hc : c ∈ (n ++ m).getLast?) : c.isDigit = true := by
  cases h with
  | absent =>
    rw [List.append_nil] at hc
    exact (Text.isDigits_iff.1 hn.digits).2 c (List.mem_of_getLast? hc)
  | given hm =>
    obtain ⟨hne, hdigits⟩ := Text.isDigits_iff.1 hm.digits
    rw [List.getLast?_append_of_ne_nil _ (List.cons_ne_nil _ _),
      List.getLast?_cons_of_ne_nil hne] at hc
    exact hdigits c (List.mem_of_getLast? hc)

/-- A number, with minutes behind it or without, and letters at the end. -/
lemma IsNumberWord.of_numeral {e : Text} (hn : IsNumeral n v) (hm : IsWrittenMinute m minute)
    (he : ∀ c ∈ e, c ∈ numberEndings) : IsNumberWord (n ++ m ++ e) := by
  obtain ⟨hne, hdigits⟩ := Text.isDigits_iff.1 hn.digits
  have hchars : ∀ c ∈ n ++ m, c.isDigit = true ∨ c = ':' := fun c hc =>
    (List.mem_append.1 hc).elim (fun hc => .inl (hdigits c hc)) hm.isDigit_or_eq_of_mem
  have hletters : ∀ c ∈ numberEndings, Text.isWord c = true := by decide
  refine ⟨?digit, Text.lettersLead_append ?number ?last fun c hc => hletters c (he c hc), ?chars⟩
  case digit =>
    obtain ⟨c, n, rfl⟩ := List.exists_cons_of_ne_nil hne
    simpa using hdigits c List.mem_cons_self
  case number =>
    intro c hc
    rcases hchars c hc with hc | rfl
    · exact Text.isAlpha_eq_false_of_isDigit hc
    · decide
  case last => exact fun c hc => Text.isWord_of_isDigit (hm.isDigit_of_getLast? hn hc)
  case chars =>
    intro c hc
    rcases List.mem_append.1 hc with hc | hc
    · rcases hchars c hc with hc | rfl
      · simp [isNumberChar, hc]
      · decide
    · simp [isNumberChar, he c hc]

end Numerals

lemma TimeOfDay.IsWritten.isNumberWord {t : Text} {time : TimeOfDay} (h : time.IsWritten t) :
    IsNumberWord t := by
  cases h with
  | clock hh _ _ hm hmlength hmle =>
    have := IsNumberWord.of_numeral hh (.given hm hmlength hmle) (e := []) (by simp)
    simpa using this
  | half half hh _ _ hm =>
    refine .of_numeral hh hm ?_
    cases half <;> decide

/-! ## Words of clauses -/

/-- The words of clauses that hold no number. -/
def plainWords : List Text :=
  ["at", "on", "in", "the"].map String.toList ++ weekdayWords.map Prod.fst ++
    monthWords.map Prod.fst

/-- The words of which clauses consist. -/
def IsClauseWord (w : Text) : Prop := w ∈ plainWords ∨ IsNumberWord w

/-- A word that starts with a number starts with no mark. -/
lemma IsNumberWord.not_prefix {w mark : Text} (h : IsNumberWord w) (hmark : Text.IsMark mark) :
    ¬ mark <+: w := by
  rintro ⟨t, rfl⟩
  obtain ⟨c, mark, rfl⟩ := List.exists_cons_of_ne_nil hmark.solid.1
  have hdigit : c.isDigit = true := by simpa using h.digit
  have hletter : c.isAlpha = true := by simpa using hmark.letter
  simp [Text.isAlpha_eq_false_of_isDigit hdigit] at hletter

namespace IsClauseWord

variable {w : Text}

lemma leads (h : IsClauseWord w) : Text.LettersLead w := by
  rcases h with h | h
  · have hwords : ∀ w ∈ plainWords, ∀ c ∈ w, Text.isWord c = true := by decide
    exact Text.lettersLead_append (n := []) (by simp) (by simp) (hwords w h)
  · exact h.leads

lemma ascii (h : IsClauseWord w) {c : Char} (hc : c ∈ w) : c.toNat < 128 := by
  rcases h with h | h
  · have hwords : ∀ w ∈ plainWords, ∀ c ∈ w, c.toNat < 128 := by decide
    exact hwords w h c hc
  · have hendings : ∀ c ∈ numberEndings, c.toNat < 128 := by decide
    have hchar := h.chars c hc
    simp only [isNumberChar, Bool.or_eq_true, beq_iff_eq, List.contains_iff_mem] at hchar
    rcases hchar with (hdigit | rfl) | hending
    · exact Text.toNat_lt_of_isDigit hdigit
    · decide
    · exact hendings c hending

lemma ne_every (h : IsClauseWord w) : w ≠ "every".toList := by
  rcases h with h | h
  · rintro rfl
    exact absurd h (by decide)
  · rintro rfl
    exact h.not_prefix (by decide) (List.prefix_refl _)

lemma notMem_rangeWords (h : IsClauseWord w) : w ∉ Clause.rangeWords := by
  rcases h with h | h
  · have hwords : ∀ w ∈ plainWords, w ∉ Clause.rangeWords := by decide
    exact hwords w h
  · intro hw
    have hstart : ∀ w ∈ Clause.rangeWords, w.head?.any Char.isDigit = false := by decide
    have hdigit := h.digit
    simp [hstart w hw] at hdigit

/-- Of each set phrase there is a word that is not part of any word of a clause. -/
lemma lacks : ∀ q ∈ setPhrases, ∃ v ∈ Text.words q.1, ∀ w, IsClauseWord w → ¬ v <:+: w := by
  have hwords : ∀ q ∈ setPhrases, ∃ v ∈ Text.words q.1, v.all isNumberChar = false ∧
      ∀ w ∈ plainWords, Text.occursIn v w = false := by decide +kernel
  intro q hq
  obtain ⟨v, hv, hchars, hplain⟩ := hwords q hq
  refine ⟨v, hv, fun w hw hpart => ?_⟩
  rcases hw with hw | hw
  · have hlacks := hplain w hw
    rw [Text.occursIn_iff.2 hpart] at hlacks
    simp at hlacks
  · obtain ⟨c, hc, hchar⟩ := List.all_eq_false.1 hchars
    exact hchar (hw.chars c (hpart.subset hc))

/-- A word of a clause is taken for a name when it is the name. -/
lemma isNamed_iff (h : IsClauseWord w) {n : Text × ℕ} (hn : n ∈ weekdayWords) :
    Text.isNamed n.1 w = true ↔ w = n.1 := by
  rcases h with h | h
  · have hnames : ∀ n ∈ weekdayWords, ∀ w ∈ plainWords, Text.isNamed n.1 w = true ↔ w = n.1 := by
      decide +kernel
    exact hnames n hn w h
  · have hmarks : ∀ n ∈ weekdayWords, Text.IsMark n.1 := by decide
    have hapart := h.not_prefix (hmarks n hn)
    refine iff_of_false (fun hnamed => ?_) fun hw => hapart (hw ▸ List.prefix_refl _)
    obtain ⟨t, ht, -⟩ := (Option.any_eq_true _ _).1 hnamed
    exact hapart ⟨t, (Text.eq_append_of_skip? ht).symm⟩

end IsClauseWord

end Crontab
