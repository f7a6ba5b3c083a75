import Crontab.Proofs.Text.Words

/-!
# Words that are looked for

Most patterns start with a word, a *mark*, and go on behind the blanks that follow it (`led`).  Such a
pattern is decided by the words of a text: it is tried wherever the mark is one of them, on a text whose
words are those behind the mark (`find?_led_eq_none`, `find?_led_eq_some`).

A pattern that is a single word, in the singular or the plural, is found exactly if it is one of the
words (`isSome_find?_named_iff`).
-/

namespace Crontab.Text

variable {s t u mark : Text}

/-! ## Readers and the end of a word -/

lemma wordEnds_append (ht : StartsBlank t) (s : Text) : wordEnds (s ++ t) = wordEnds s := by
  cases s with
  | nil => exact wordEnds_of_startsBlank ht
  | cons c s => rfl

/-- A mark without blanks does not reach beyond the word. -/
lemma skip?_append_of_startsBlank (hmark : ∀ c ∈ mark, isBlank c = false) (ht : StartsBlank t)
    (s : Text) : skip? mark (s ++ t) = (skip? mark s).map (· ++ t) := by
  induction mark generalizing s with
  | nil => rfl
  | cons m ms ih =>
    rw [List.forall_mem_cons] at hmark
    cases s with
    | nil =>
      cases t with
      | nil => rfl
      | cons b t =>
        have hne : m ≠ b := by
          rintro rfl
          exact absurd (ht m rfl) (by simp [hmark.1])
        simp [skip?, hne]
    | cons c s =>
      rw [List.cons_append, skip?, skip?]
      split
      · exact ih hmark.2 s
      · rfl

lemma pluralEnds_append (ht : StartsBlank t) (s : Text) : pluralEnds (s ++ t) = pluralEnds s := by
  have hskip : skip? "s" (s ++ t) = (skip? "s" s).map (· ++ t) :=
    skip?_append_of_startsBlank (by decide) ht s
  rw [pluralEnds, pluralEnds, wordEnds_append ht, skipOptional, skipOptional, hskip]
  cases skip? "s" s with
  | none => simp [wordEnds_append ht]
  | some r => simp [wordEnds_append ht]

/-! ## Marks -/

/-- A word that starts with a letter. -/
structure IsMark (mark : Text) : Prop where
  solid : IsSolid mark
  letter : mark.head?.all Char.isAlpha = true

instance : DecidablePred IsMark := fun mark =>
  decidable_of_iff (IsSolid mark ∧ mark.head?.all Char.isAlpha = true)
    ⟨fun h => ⟨h.1, h.2⟩, fun h => ⟨h.solid, h.letter⟩⟩

/-- Where a mark is read at the start of a word, one of the words between the blanks starts. -/
lemma IsMark.isBlank_of_wordStart? (hmark : IsMark mark) {p : Text}
    (hwords : ∀ w ∈ words (p ++ u), LettersLead w) (h : wordStart? mark p.getLast? u = some t) :
    (∀ c ∈ p.getLast?, isBlank c = true) ∧ u = mark ++ t := by
  unfold wordStart? at h
  split at h
  · next hstart =>
    obtain rfl := eq_append_of_skip? h
    obtain ⟨c, m, rfl⟩ := List.exists_cons_of_ne_nil hmark.solid.1
    exact ⟨isBlank_of_wordMayStart hwords hmark.letter hstart, rfl⟩
  · simp at h

/-! ## Patterns with a mark in front -/

section Led

variable {α : Type} {k : Text → Option α} {a : α} {vs ws : List Text}

/-- Read a mark as a word of its own, and what follows behind the blanks. -/
def led (mark : Text) (k : Text → Option α) (before : Option Char) (s : Text) : Option α := do
  let s ← wordStart? mark before s
  let s ← skipBlanks? s
  k s

/-- What is read with a mark in front stands behind the mark among the words. -/
lemma IsMark.exists_words_of_led (hmark : IsMark mark) {p : Text}
    (hwords : ∀ w ∈ words (p ++ u), LettersLead w) (h : led mark k p.getLast? u = some a) :
    ∃ t, words (p ++ u) = words p ++ mark :: words t ∧ StartsSolid t ∧ k t = some a := by
  obtain ⟨r, hr, h⟩ := Option.bind_eq_some_iff.1 h
  obtain ⟨t, ht, hk⟩ := Option.bind_eq_some_iff.1 h
  obtain ⟨hblank, rfl⟩ := hmark.isBlank_of_wordStart? hwords hr
  refine ⟨t, ?_, startsSolid_of_skipBlanks? ht, hk⟩
  rw [words_append_of_blank hblank, words_append_of_skipBlanks? ht, words_of_isSolid hmark.solid,
    List.singleton_append]

/-- Wherever a mark is one of the words, what follows is read behind the blanks. -/
lemma exists_led (hs : words s = vs ++ mark :: ws) (hne : ws ≠ []) :
    ∃ p u t, s = p ++ u ∧ led mark k p.getLast? u = k t ∧ StartsSolid t ∧ words t = ws := by
  obtain ⟨p, u, rfl, hp, hu, huwords⟩ := exists_start hs (by simp)
  obtain ⟨r, rfl, hr, hrwords⟩ := exists_rest_of_words hu huwords
  obtain ⟨w, ws, rfl⟩ := List.exists_cons_of_ne_nil hne
  obtain ⟨t, ht, htsolid, htwords⟩ := exists_skipBlanks? hr hrwords
  refine ⟨p, mark ++ r, t, rfl, ?_, htsolid, htwords⟩
  simp [led, wordStart?, wordMayStart_of_blank hp, skip?_append, ht]

variable (hmark : IsMark mark) (hwords : ∀ w ∈ words s, LettersLead w)

include hmark hwords

/-- Nothing is found when nothing is read behind any of the marks. -/
theorem find?_led_eq_none
    (h : ∀ vs t, words s = vs ++ mark :: words t → StartsSolid t → k t = none) :
    find? (led mark k) s = none := by
  rw [find?_eq_none_iff]
  rintro p u rfl
  cases hread : led mark k p.getLast? u with
  | none => rfl
  | some a =>
    obtain ⟨t, hs, ht, hk⟩ := hmark.exists_words_of_led hwords hread
    simp [h _ t hs ht] at hk

lemma find?_led_eq_none_of_notMem (h : mark ∉ words s) : find? (led mark k) s = none :=
  find?_led_eq_none hmark hwords fun vs t hs _ => absurd (by simp [hs]) h

/-- What is read behind one of the marks is found, when nothing else is read behind any of them. -/
theorem find?_led_eq_some (hs : words s = vs ++ mark :: ws) (hne : ws ≠ [])
    (hk : ∀ t, words t = ws → StartsSolid t → k t = some a)
    (hunique : ∀ vs t, words s = vs ++ mark :: words t → StartsSolid t → ∀ b, k t = some b → b = a) :
    find? (led mark k) s = some a := by
  refine find?_eq_some_of_unique ?_ ?_
  · obtain ⟨p, u, t, rfl, hread, ht, htwords⟩ := exists_led (k := k) hs hne
    exact ⟨p, u, rfl, hread.trans (hk t htwords ht)⟩
  · rintro p u b rfl hread
    obtain ⟨t, hs, ht, hb⟩ := hmark.exists_words_of_led hwords hread
    exact hunique _ t hs ht b hb

end Led

/-! ## Patterns of one word -/

/-- Whether a word is the name, in the singular or the plural. -/
def isNamed (name w : Text) : Bool := (skip? name w).any pluralEnds

/-- Read a name as a word, in the singular or the plural. -/
def named (name : Text) (before : Option Char) (s : Text) : Option Unit := do
  let s ← wordStart? name before s
  if pluralEnds s then some () else none

/-- A name is found exactly if it is one of the words. -/
theorem isSome_find?_named_iff {name : Text} (hname : IsMark name)
    (hwords : ∀ w ∈ words s, LettersLead w) :
    (find? (named name) s).isSome = true ↔ ∃ w ∈ words s, isNamed name w = true := by
  constructor
  · intro h
    obtain ⟨a, ha⟩ := Option.isSome_iff_exists.1 h
    obtain ⟨p, u, rfl, hread⟩ := exists_of_search ha
    rw [Option.or_none] at hread
    obtain ⟨t, ht, hplural⟩ := Option.bind_eq_some_iff.1 hread
    have hends : pluralEnds t = true := by
      by_contra hends
      simp [hends] at hplural
    -- words start with letters here, so a name that is read stands at the start of a word
    obtain ⟨hblank, rfl⟩ := hname.isBlank_of_wordStart? hwords ht
    obtain ⟨c, m, rfl⟩ := List.exists_cons_of_ne_nil hname.solid.1
    have hsolid : isBlank c = false := hname.solid.2 c List.mem_cons_self
    obtain ⟨w, ws, hu⟩ := words_cons_solid hsolid (m ++ t)
    have hstarts : StartsSolid (c :: m ++ t) := by simpa [StartsSolid] using hsolid
    obtain ⟨r, hr, hrblank, -⟩ := exists_rest_of_words hstarts hu
    refine ⟨c :: w, ?_, ?_⟩
    · rw [words_append_of_blank hblank, List.cons_append, hu]
      simp
    · -- the name ends inside its word, and so does the plural
      have hskip := skip?_append_of_startsBlank hname.solid.2 hrblank (c :: w)
      rw [← hr, skip?_append] at hskip
      obtain ⟨t', ht', rfl⟩ := Option.map_eq_some_iff.1 hskip.symm
      rw [pluralEnds_append hrblank] at hends
      rw [isNamed, ht']
      exact hends
  · rintro ⟨w, hw, hnamed⟩
    obtain ⟨vs, ws, hs⟩ := List.append_of_mem hw
    -- the reader is tried where the word starts, among other places
    obtain ⟨p, u, rfl, hp, hu, huwords⟩ := exists_start hs (by simp)
    obtain ⟨r, rfl, hr, -⟩ := exists_rest_of_words hu huwords
    have hread : named name p.getLast? (w ++ r) = some () := by
      rw [isNamed, Option.any_eq_true] at hnamed
      obtain ⟨t, ht, hends⟩ := hnamed
      simp [named, wordStart?, wordMayStart_of_blank hp,
        skip?_append_of_startsBlank hname.solid.2 hr, ht, pluralEnds_append hr, hends]
    rw [Option.isSome_iff_ne_none]
    intro hnone
    rw [find?_eq_none_iff.1 hnone p (w ++ r) rfl] at hread
    simp at hread

end Crontab.Text
