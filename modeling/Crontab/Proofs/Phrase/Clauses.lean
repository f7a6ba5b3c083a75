import Crontab.Proofs.Phrase.Consistent
import Crontab.Proofs.Phrase.TimeOfDay
import Crontab.Proofs.Text.Marks

/-!
# Clauses, word by word

What a clause finds in a text is decided by the words of the text.  A period needs the word `every`, a
range of weekdays a word that joins its ends, a weekday its name as a word; the other clauses are read
behind a mark.  A set phrase needs each of its words as a part of a word.

The negative half of this is what keeps clauses apart.  `Clause.every?_eq_none` and its companions say
which words a text must have for a clause to be found in it, and `Clause.dateBehind_weekday` and
`Clause.monthBehind_month` that nothing is read behind the mark of a clause but the clause itself.
-/

namespace Crontab

variable {s u : Text}

/-! ## Set phrases -/

/-- A text that lacks a word of each set phrase has no set phrase. -/
lemma setPhrase?_eq_none_of_words
    (h : ∀ q ∈ setPhrases, ∃ v ∈ Text.words q.1, ∀ w ∈ Text.words s, ¬ v <:+: w) :
    setPhrase? s = none := by
  rw [setPhrase?_eq_none_iff]
  intro q hq hpart
  obtain ⟨v, hv, hlacks⟩ := h q hq
  have hsolid := Text.isSolid_of_mem_words hv
  obtain ⟨w, hw, hvw⟩ := Text.exists_mem_words_of_isInfix
    ((Text.isInfix_of_mem_words hv).trans hpart) hsolid.1 hsolid.2
  exact hlacks w hw hvw

namespace Clause

/-! ## Tables of names -/

/-- When one name of a table is found and no other is, its number is looked up. -/
lemma map_find?_eq {table : List (Text × ℕ)} (hnodup : (table.map Prod.fst).Nodup)
    {p : Text × ℕ → Bool} {n : Text × ℕ} (hn : n ∈ table) {said : Prop} [Decidable said]
    (hp : ∀ m ∈ table, p m = true ↔ said ∧ m.1 = n.1) :
    (table.find? p).map Prod.snd = if said then some n.2 else none := by
  split
  · next hsaid =>
    cases hfind : table.find? p with
    | none => exact absurd ((hp n hn).2 ⟨hsaid, rfl⟩) (List.find?_eq_none.1 hfind n hn)
    | some m =>
      have hm := List.mem_of_find?_eq_some hfind
      have hname : m.1 = n.1 := ((hp m hm).1 (List.find?_some hfind)).2
      rw [List.inj_on_of_nodup_map hnodup hm hn hname]
      rfl
  · next hsaid =>
    rw [Option.map_eq_none_iff, List.find?_eq_none]
    exact fun m hm hfound => hsaid ((hp m hm).1 hfound).1

/-! ## Periods and weekdays -/

section Words

variable (hwords : ∀ w ∈ Text.words s, Text.LettersLead w)

include hwords

lemma every?_eq_none (h : ("every" : Text) ∉ Text.words s) (unit : Text) : every? unit s = none :=
  Text.find?_led_eq_none_of_notMem (by decide) hwords h

lemma everyDay_eq_false (h : ("every" : Text) ∉ Text.words s) : everyDay s = false := by
  rw [everyDay, Option.isSome_eq_false_iff, Option.isNone_iff_eq_none]
  exact Text.find?_led_eq_none_of_notMem (by decide) hwords h

lemma namesDay_iff {name : Text} (hname : Text.IsMark name) :
    namesDay name s = true ↔ ∃ w ∈ Text.words s, Text.isNamed name w = true :=
  Text.isSome_find?_named_iff hname hwords

end Words

/-! ## Ranges of weekdays -/

/-- The words that join the ends of a range. -/
def rangeWords : List Text := ["through", "to", "-"].map String.toList

/-- The word between the ends of a range is one of the words of the text. -/
lemma mem_words_of_wordRange? {before : Option Char} {r : (Text × Text) × Text} (p : Text)
    (h : wordRange? before u = some r) : ∃ m ∈ rangeWords, m ∈ Text.words (p ++ u) := by
  unfold wordRange? at h
  split at h
  · simp at h
  · simp only [Option.bind_eq_bind, Option.bind_eq_some_iff] at h
    obtain ⟨⟨first, s₁⟩, hfirst, s₂, hblanks, s₃, hrange, -⟩ := h
    have hu : u = first ++ s₁ := by
      unfold Text.word? at hfirst
      split at hfirst
      · simp at hfirst
      · obtain ⟨rfl, rfl⟩ := Prod.mk.inj (Option.some.inj hfirst)
        exact List.takeWhile_append_dropWhile.symm
    obtain ⟨m, hm, hread⟩ := List.exists_of_findSome?_eq_some hrange
    obtain ⟨s₄, hskip, hbehind⟩ := Option.bind_eq_some_iff.1 hread
    have hrangeWord : m.toList ∈ rangeWords := List.mem_map_of_mem hm
    have hsolid : ∀ m ∈ rangeWords, Text.IsSolid m := by decide
    refine ⟨m.toList, hrangeWord, ?_⟩
    -- there are blanks on both sides of the word
    rw [hu, ← List.append_assoc, Text.words_append_of_skipBlanks? hblanks,
      Text.eq_append_of_skip? hskip, Text.words_append_of_skipBlanks? hbehind,
      Text.words_of_isSolid (hsolid _ hrangeWord)]
    simp

lemma weekdayRange?_eq_none (h : ∀ m ∈ rangeWords, m ∉ Text.words s) : weekdayRange? s = none := by
  have hnone : ∀ before p u, s = p ++ u → wordRange? before u = none := by
    intro before p u hs
    cases hread : wordRange? before u with
    | none => rfl
    | some r =>
      obtain ⟨m, hm, hmem⟩ := mem_words_of_wordRange? p hread
      exact absurd (hs ▸ hmem) (h m hm)
  have hfrom : ∀ u before p, s = p ++ u → weekdayRangeFrom 0 before u = none := by
    intro u
    induction u with
    | nil => exact fun _ _ _ => rfl
    | cons c u ih =>
      intro before p hs
      rw [weekdayRangeFrom, hnone before p (c :: u) hs]
      exact ih (some c) (p ++ [c]) (by simpa using hs)
  exact hfrom s none [] rfl

/-! ## Clauses behind a mark -/

/-- Read the time that stands behind `at`. -/
def timeBehind (s : Text) : Option WrittenTime := do
  let (t, _) ← WrittenTime.read? s
  return t

/-- Read the day of the month that stands behind `on`. -/
def dateBehind (s : Text) : Option ℕ := do
  let s := ((Text.skip? "the" s).bind Text.skipBlanks?).getD s
  let (number, s) ← Text.upToTwoDecimals? s
  if startsOrdinal s || !continuesAsTime s then some (Text.decimalsValue number) else none

/-- Read the name of a month that stands behind `in`. -/
def monthBehind (name s : Text) : Option Unit := do
  let s ← Text.skip? name s
  if Text.wordEnds s then some () else none

lemma atClause?_eq_bind :
    TimeOfDay.atClause? s = (Text.find? (Text.led "at" timeBehind) s).bind WrittenTime.toTime? := rfl

lemma dayOfMonth?_eq_find? : dayOfMonth? s = Text.find? (Text.led "on" dateBehind) s := rfl

lemma namesMonth_eq_isSome (name : Text) :
    namesMonth name s = (Text.find? (Text.led "in" (monthBehind name)) s).isSome := rfl

/-- The endings of an ordinal number. -/
def ordinals : List Text := ["st", "nd", "rd", "th"].map String.toList

/-- A day of the month is read as an ordinal number behind `the`. -/
lemma dateBehind_the {n e r : Text} {v : ℕ} {ws : List Text} (hn : IsNumeral n v)
    (hlength : n.length ≤ 2) (he : e ∈ ordinals) (hr : Text.StartsBlank r)
    (hwords : Text.words r = (n ++ e) :: ws) : dateBehind ("the" ++ r) = some v := by
  obtain ⟨u, hu, husolid, huwords⟩ := Text.exists_skipBlanks? hr hwords
  obtain ⟨t, rfl, -, -⟩ := Text.exists_rest_of_words husolid huwords
  have hordinals : ∀ e ∈ ordinals, ∀ t, startsOrdinal (e ++ t) = true ∧
      (e ++ t).head?.any Text.isDecimal = false := by
    intro e he t
    simp only [ordinals, List.map_cons, List.map_nil, List.mem_cons, List.not_mem_nil, or_false] at he
    rcases he with rfl | rfl | rfl | rfl <;> exact ⟨rfl, rfl⟩
  obtain ⟨hordinal, hdecimal⟩ := hordinals e he t
  rw [List.append_assoc] at hu
  rw [dateBehind, Text.skip?_append, Option.bind_some, hu, Option.getD_some,
    Text.upToTwoDecimals?_append hn.digits hlength hdecimal]
  simp [hordinal, Text.decimalsValue_of_isDigits hn.digits, hn.value]

/-- A weekday behind `on` is not taken for a day of the month. -/
lemma dateBehind_weekday {n : Text × ℕ} (hn : n ∈ weekdayWords) {r : Text} (hr : Text.StartsBlank r) :
    dateBehind (n.1 ++ r) = none := by
  have hplain : ∀ n ∈ weekdayWords, Text.skip? "the" n.1 = none ∧ n.1 ≠ [] ∧
      n.1.head?.any Text.isDecimal = false := by decide
  obtain ⟨hthe, hne, hdecimal⟩ := hplain n hn
  have hskip : Text.skip? "the" (n.1 ++ r) = none := by
    rw [Text.skip?_append_of_startsBlank (by decide) hr, hthe, Option.map_none]
  have hnone : Text.upToTwoDecimals? (n.1 ++ r) = none :=
    Text.upToTwoDecimals?_eq_none (by rwa [List.head?_append_of_ne_nil _ hne])
  rw [dateBehind, hskip, Option.bind_none, Option.getD_none, hnone]
  rfl

/-- The names of months are told apart: `mar` is not read where `march` stands. -/
lemma monthBehind_month {n m : Text × ℕ} (hn : n ∈ monthWords) (hm : m ∈ monthWords) {r : Text}
    (hr : Text.StartsBlank r) :
    monthBehind n.1 (m.1 ++ r) = if n.1 = m.1 then some () else none := by
  have hnames : ∀ n ∈ monthWords, (∀ c ∈ n.1, Text.isBlank c = false) ∧
      ∀ m ∈ monthWords, (Text.skip? n.1 m.1).any Text.wordEnds = decide (n.1 = m.1) := by
    decide +kernel
  obtain ⟨hsolid, hends⟩ := hnames n hn
  have hends := hends m hm
  rw [monthBehind, Text.skip?_append_of_startsBlank hsolid hr]
  cases hskip : Text.skip? n.1 m.1 with
  | none => simp_all
  | some t => simp_all [Text.wordEnds_append hr]

end Clause

end Crontab
