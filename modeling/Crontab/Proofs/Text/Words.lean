import Crontab.Proofs.Text.Scanning
import Crontab.Proofs.Text.Splitting

/-!
# Words and positions

A pattern that starts where a word may start is found at the start of one of the words between the
blanks, as long as these hold no letter behind a mark (`LettersLead`).  So a search in a text is decided
by the words of the text, whatever blanks stand between them.

Three steps lead there.  A search is a statement about positions: nothing is found when nothing is read
at any of them (`find?_eq_none_iff`), and what is found is what is read wherever something is
(`find?_eq_some_of_unique`).  A blank ends the words in front of it (`words_append_blank`), so that
behind a position that starts a word stand the last words of the text, and any of its words is such a
position (`exists_start`).  And a position where a word may start and a letter stands starts a word
(`isBlank_of_wordMayStart`).
-/

namespace Crontab.Text

variable {s t u : Text}

/-! ## Positions -/

section Positions

variable {α : Type} {read : Option Char → Text → Option α} {a : α}

/-- The character in front of a position, one character on. -/
lemma getLast?_cons_or (c : Char) (p : Text) (before : Option Char) :
    (c :: p).getLast?.or before = p.getLast?.or (some c) := by
  cases h : p.getLast? <;> simp [List.getLast?_cons, h]

lemma search_eq_none_iff {before : Option Char} :
    search read before s = none ↔ ∀ p u, s = p ++ u → read (p.getLast?.or before) u = none := by
  induction s generalizing before with
  | nil => simp [search]
  | cons c s ih =>
    rw [search]
    constructor
    · intro h p u hpu
      split at h
      · simp at h
      · next hread =>
        cases p with
        | nil =>
          rw [List.nil_append] at hpu
          exact hpu ▸ hread
        | cons d p =>
          obtain ⟨rfl, rfl⟩ := List.cons.inj hpu
          rw [getLast?_cons_or]
          exact ih.1 h p u rfl
    · intro h
      have hread : read before (c :: s) = none := h [] (c :: s) rfl
      rw [hread]
      refine ih.2 fun p u hpu => ?_
      rw [← getLast?_cons_or c p before]
      exact h (c :: p) u (by rw [hpu, List.cons_append])

/-- Nothing is found when nothing is read at any position. -/
lemma find?_eq_none_iff :
    find? read s = none ↔ ∀ p u, s = p ++ u → read p.getLast? u = none := by
  simp only [find?, search_eq_none_iff, Option.or_none]

/-- What is found is read at some position. -/
lemma exists_of_search {before : Option Char} (h : search read before s = some a) :
    ∃ p u, s = p ++ u ∧ read (p.getLast?.or before) u = some a := by
  induction s generalizing before with
  | nil => exact ⟨[], [], rfl, h⟩
  | cons c s ih =>
    rw [search] at h
    split at h
    · next hread =>
      obtain rfl := Option.some.inj h
      exact ⟨[], c :: s, rfl, hread⟩
    · obtain ⟨p, u, rfl, hread⟩ := ih h
      exact ⟨c :: p, u, rfl, (getLast?_cons_or c p before).symm ▸ hread⟩

/-- When the same is read wherever something is, this is what is found. -/
lemma find?_eq_some_of_unique (hread : ∃ p u, s = p ++ u ∧ read p.getLast? u = some a)
    (hunique : ∀ p u b, s = p ++ u → read p.getLast? u = some b → b = a) :
    find? read s = some a := by
  cases hfind : find? read s with
  | none =>
    obtain ⟨p, u, hs, hread⟩ := hread
    rw [find?_eq_none_iff.1 hfind p u hs] at hread
    simp at hread
  | some b =>
    obtain ⟨p, u, hs, hb⟩ := exists_of_search hfind
    rw [Option.or_none] at hb
    rw [hunique p u b hs hb]

end Positions

/-! ## Occurrences -/

/-- A mark occurs in a text when it is a part of it. -/
lemma occursIn_iff {mark : Text} : occursIn mark s = true ↔ mark <:+: s := by
  induction s with
  | nil => simp [occursIn]
  | cons c s ih => rw [occursIn, Bool.or_eq_true, ih, List.isPrefixOf_iff_prefix, List.infix_cons_iff]

/-! ## Words -/

lemma words_cons_solid {c : Char} (hc : isBlank c = false) (s : Text) :
    ∃ w ws, words (c :: s) = (c :: w) :: ws := by
  cases s with
  | nil => exact ⟨[], [], by simp [words, hc]⟩
  | cons d s =>
    rw [words]
    simp only [hc, Bool.false_eq_true, if_false]
    split
    · exact ⟨[], _, rfl⟩
    · split
      · exact ⟨[], [], rfl⟩
      · exact ⟨_, _, rfl⟩

/-- A blank ends the words in front of it. -/
theorem words_append_blank {b : Char} (hb : isBlank b = true) (s t : Text) :
    words (s ++ b :: t) = words s ++ words t := by
  fun_induction words s with
  | case1 => exact words_cons_blank hb t
  | case2 c s hc ih => rw [List.cons_append, words_cons_blank hc, ih]
  | case3 c hc => simp [words, hc, hb]
  | case4 c hc d s hd ih =>
    rw [List.cons_append] at ih
    rw [List.cons_append, List.cons_append, words]
    simp [hc, hd, ih]
  | case5 c hc d s hd hnil ih =>
    obtain ⟨w, ws, hw⟩ := words_cons_solid (c := d) (by simpa using hd) s
    simp [hnil] at hw
  | case6 c hc d s hd v vs hvs ih =>
    rw [hvs, List.cons_append, List.cons_append] at ih
    rw [List.cons_append, List.cons_append, words, ih, hvs]
    simp [hc, hd]

lemma words_of_blank (h : ∀ c ∈ s, isBlank c = true) : words s = [] := by
  induction s with
  | nil => rfl
  | cons c s ih =>
    rw [List.forall_mem_cons] at h
    rw [words_cons_blank h.1, ih h.2]

/-- A part of a text that ends with a blank has words of its own. -/
lemma words_append_of_blank {p : Text} (hp : ∀ c ∈ p.getLast?, isBlank c = true) (u : Text) :
    words (p ++ u) = words p ++ words u := by
  rcases List.eq_nil_or_concat' p with rfl | ⟨p, b, rfl⟩
  · rfl
  · have hb : isBlank b = true := hp b (by simp)
    rw [List.append_assoc, List.singleton_append, words_append_blank hb, words_append_blank hb,
      words_nil, List.append_nil]

lemma words_trimLeft (s : Text) : words (trimLeft s) = words s := by
  induction s with
  | nil => rfl
  | cons c s ih =>
    cases hc : isBlank c with
    | true =>
      have htrim : trimLeft (c :: s) = trimLeft s := List.dropWhile_cons_of_pos hc
      rw [htrim, ih, words_cons_blank hc]
    | false => rw [trimLeft_cons hc]

/-- Blanks that are skipped end the words in front of them. -/
lemma words_append_of_skipBlanks? (h : skipBlanks? s = some t) (p : Text) :
    words (p ++ s) = words p ++ words t := by
  cases s with
  | nil => simp [skipBlanks?] at h
  | cons b s =>
    rw [skipBlanks?] at h
    split at h
    · next hb =>
      obtain rfl := Option.some.inj h
      rw [words_append_blank hb, words_trimLeft]
    · simp at h

lemma words_trimRight (s : Text) : words (trimRight s) = words s := by
  have hsplit : s = trimRight s ++ (s.reverse.takeWhile isBlank).reverse := by
    rw [trimRight, ← List.reverse_append, List.takeWhile_append_dropWhile, List.reverse_reverse]
  have hblank : ∀ c ∈ (s.reverse.takeWhile isBlank).reverse, isBlank c = true := fun c hc =>
    List.mem_takeWhile_imp (List.mem_reverse.1 hc)
  generalize (s.reverse.takeWhile isBlank).reverse = bs at hsplit hblank
  cases bs with
  | nil => rw [List.append_nil] at hsplit; rw [← hsplit]
  | cons b bs =>
    rw [List.forall_mem_cons] at hblank
    conv_rhs => rw [hsplit]
    rw [words_append_blank hblank.1, words_of_blank hblank.2, List.append_nil]

/-- The blanks around a text do not count. -/
theorem words_trim (s : Text) : words (trim s) = words s := by
  rw [trim, words_trimRight, words_trimLeft]

/-- Texts that are joined by single spaces keep their words. -/
lemma words_join_flatMap (ts : List Text) : words (join [' '] ts) = ts.flatMap words := by
  induction ts with
  | nil => rfl
  | cons t ts ih =>
    cases ts with
    | nil => simp
    | cons u ts => rw [join_singleton_cons, words_append_blank rfl, ih, ← List.flatMap_cons]

/-- Of texts without blanks that are joined by single spaces, the empty ones are lost. -/
lemma words_join_filter {ws : List Text} (h : ∀ w ∈ ws, ∀ c ∈ w, isBlank c = false) :
    words (join [' '] ws) = ws.filter (· ≠ []) := by
  have hword : ∀ w ∈ ws, words w = [w].filter (· ≠ []) := by
    intro w hw
    by_cases hnil : w = []
    · simp [hnil]
    · rw [words_of_isSolid ⟨hnil, h w hw⟩, List.filter_singleton]
      simp [hnil]
  rw [words_join_flatMap, List.flatMap_congr hword, ← List.filter_flatMap, List.flatMap_singleton']

/-- Changing characters keeps the words apart as long as blanks stay what they are. -/
lemma words_map {g : Char → Char} (h : ∀ c ∈ s, isBlank (g c) = isBlank c) :
    words (s.map g) = (words s).map (List.map g) := by
  fun_induction words s with
  | case1 => rfl
  | case2 c s hc ih =>
    rw [List.forall_mem_cons] at h
    rw [List.map_cons, words_cons_blank (h.1.trans hc), ih h.2]
  | case3 c hc =>
    have hgc : isBlank (g c) = isBlank c := h c (by simp)
    simp [words, hgc, hc]
  | case4 c hc d s hd ih =>
    rw [List.forall_mem_cons] at h
    have hgd : isBlank (g d) = isBlank d := h.2 d (by simp)
    have ih := ih h.2
    rw [List.map_cons] at ih
    rw [List.map_cons, List.map_cons, words, ih]
    simp [h.1, hc, hgd, hd]
  | case5 c hc d s hd hnil ih =>
    -- a text that starts with a visible character has a word
    obtain ⟨w, ws, hw⟩ := words_cons_solid (c := d) (by simpa using hd) s
    simp [hnil] at hw
  | case6 c hc d s hd v vs hvs ih =>
    rw [List.forall_mem_cons] at h
    have hgd : isBlank (g d) = isBlank d := h.2 d (by simp)
    have ih := ih h.2
    rw [hvs, List.map_cons, List.map_cons] at ih
    rw [List.map_cons, List.map_cons, words, ih, hvs]
    simp [h.1, hc, hgd, hd]

/-! ### Parts of words -/

lemma exists_word_of_prefix {r : Text} (hr : r <+: s) (hne : r ≠ [])
    (hsolid : ∀ c ∈ r, isBlank c = false) : ∃ w ws, words s = w :: ws ∧ r <+: w := by
  induction r generalizing s with
  | nil => exact absurd rfl hne
  | cons c r ih =>
    obtain ⟨t, rfl⟩ := hr
    rw [List.forall_mem_cons] at hsolid
    rw [List.cons_append]
    cases r with
    | nil =>
      obtain ⟨w, ws, hw⟩ := words_cons_solid hsolid.1 t
      exact ⟨c :: w, ws, hw, ⟨w, rfl⟩⟩
    | cons d r =>
      obtain ⟨w, ws, hw, hrw⟩ := ih ⟨t, rfl⟩ (by simp) hsolid.2
      rw [List.cons_append] at hw ⊢
      refine ⟨c :: w, ws, ?_, List.cons_prefix_cons.2 ⟨rfl, hrw⟩⟩
      rw [words, hw]
      simp [hsolid.1, hsolid.2 d]

/-- A part of a text without blanks lies in one of its words. -/
theorem exists_mem_words_of_isInfix {r : Text} (hr : r <:+: s) (hne : r ≠ [])
    (hsolid : ∀ c ∈ r, isBlank c = false) : ∃ w ∈ words s, r <:+: w := by
  induction s with
  | nil => exact absurd (List.infix_nil.1 hr) hne
  | cons c s ih =>
    rcases List.infix_cons_iff.1 hr with hr | hr
    · obtain ⟨w, ws, hw, hrw⟩ := exists_word_of_prefix hr hne hsolid
      exact ⟨w, hw ▸ List.mem_cons_self, hrw.isInfix⟩
    · obtain ⟨w, hw, hrw⟩ := ih hr
      -- a character in front is passed over, starts a word or makes the first word longer
      cases hc : isBlank c with
      | true => exact ⟨w, (words_cons_blank hc s).symm ▸ hw, hrw⟩
      | false =>
        cases s with
        | nil => simp at hw
        | cons d s =>
          rw [words]
          simp only [hc, Bool.false_eq_true, if_false]
          split
          · exact ⟨w, List.mem_cons_of_mem _ hw, hrw⟩
          · split
            · next hnil => simp [hnil] at hw
            · next v vs hvs =>
              rw [hvs] at hw
              rcases List.mem_cons.1 hw with rfl | hw
              · exact ⟨c :: w, List.mem_cons_self, List.infix_cons hrw⟩
              · exact ⟨w, List.mem_cons_of_mem _ hw, hrw⟩

lemma exists_mem_words {c : Char} (hc : c ∈ s) (hsolid : isBlank c = false) :
    ∃ w ∈ words s, c ∈ w := by
  obtain ⟨a, b, rfl⟩ := List.append_of_mem hc
  have hpart : [c] <:+: a ++ c :: b := ⟨a, b, by simp⟩
  obtain ⟨w, hw, hcw⟩ := exists_mem_words_of_isInfix hpart (by simp) (by simpa using hsolid)
  exact ⟨w, hw, hcw.subset List.mem_cons_self⟩

/-! ### Lower case -/

/-- The words of a text in lower case are its words in lower case, where these are in ASCII; the blanks
between them may be any. -/
theorem words_lower (h : ∀ w ∈ words s, ∀ c ∈ w, c.toNat < 128) :
    words (lower s) = (words s).map (List.map Char.toLower) := by
  have hchars : ∀ c ∈ s, c.toNat < 128 ∨ isBlank c = true := by
    intro c hc
    cases hblank : isBlank c with
    | true => exact .inr rfl
    | false =>
      obtain ⟨w, hw, hcw⟩ := exists_mem_words hc hblank
      exact .inl (h w hw c hcw)
  have hsigma : 'Σ' ∉ s := fun hs => by
    rcases hchars _ hs with hascii | hblank
    · exact absurd hascii (by decide)
    · exact absurd hblank (by decide)
  have hlower : ∀ c ∈ s, lowerChar c = [c.toLower] := fun c hc =>
    (hchars c hc).elim lowerChar_of_ascii lowerChar_of_isBlank
  rw [lower_eq_flatMap hsigma, List.flatMap_congr hlower, List.map_eq_flatMap.symm,
    words_map fun c _ => isBlank_toLower c]

/-! ### From one word to the next -/

/-- The text starts with a word, and no blank stands in front of it. -/
def StartsSolid (u : Text) : Prop := ∀ c ∈ u.head?, isBlank c = false

/-- Nothing of a word is left: the text is empty or starts with a blank. -/
def StartsBlank (u : Text) : Prop := ∀ c ∈ u.head?, isBlank c = true

lemma startsSolid_trimLeft (s : Text) : StartsSolid (trimLeft s) := by
  induction s with
  | nil => simp [StartsSolid]
  | cons c s ih =>
    cases hc : isBlank c with
    | true =>
      have htrim : trimLeft (c :: s) = trimLeft s := List.dropWhile_cons_of_pos hc
      rwa [htrim]
    | false =>
      rw [trimLeft_cons hc]
      simpa [StartsSolid] using hc

lemma startsSolid_trim (s : Text) : StartsSolid (trim s) := by
  obtain ⟨r, hr⟩ : trimRight (trimLeft s) <+: trimLeft s := trimRight_isPrefix _
  intro c hc
  apply startsSolid_trimLeft s c
  rw [← hr, List.head?_append, show (trimRight (trimLeft s)).head? = some c from hc]
  rfl

lemma startsSolid_of_skipBlanks? (h : skipBlanks? s = some t) : StartsSolid t := by
  unfold skipBlanks? at h
  split at h
  · split at h
    · exact Option.some.inj h ▸ startsSolid_trimLeft _
    · simp at h
  · simp at h

lemma eq_nil_of_words (hu : StartsSolid u) (h : words u = []) : u = [] := by
  cases u with
  | nil => rfl
  | cons c u =>
    obtain ⟨w, ws, hw⟩ := words_cons_solid (hu c rfl) u
    simp [h] at hw

/-- A text that starts with a word is the word and what stands behind it. -/
lemma exists_rest_of_words {w : Text} {ws : List Text} (hu : StartsSolid u)
    (h : words u = w :: ws) : ∃ r, u = w ++ r ∧ StartsBlank r ∧ words r = ws := by
  have hsplit : u.takeWhile (fun c => !isBlank c) ++ u.dropWhile (fun c => !isBlank c) = u :=
    List.takeWhile_append_dropWhile
  have hblank : StartsBlank (u.dropWhile fun c => !isBlank c) := by
    intro c hc
    have := List.head?_dropWhile_not (fun c => !isBlank c) u
    rw [Option.mem_def.1 hc] at this
    simpa using this
  have hword : IsSolid (u.takeWhile fun c => !isBlank c) := by
    refine ⟨?_, fun c hc => by simpa using List.mem_takeWhile_imp hc⟩
    cases u with
    | nil => simp at h
    | cons c u => simp [show isBlank c = false from hu c rfl]
  generalize u.takeWhile (fun c => !isBlank c) = v at hsplit hword
  generalize u.dropWhile (fun c => !isBlank c) = r at hsplit hblank
  obtain rfl := hsplit
  -- the visible characters in front are the first word, since a blank or nothing follows
  have hwords : words (v ++ r) = v :: words r := by
    cases r with
    | nil => rw [List.append_nil, words_of_isSolid hword, words_nil]
    | cons b r => rw [words_append hword (hblank b rfl), words_cons_blank (hblank b rfl)]
  obtain ⟨rfl, rfl⟩ := List.cons.inj (hwords.symm.trans h)
  exact ⟨r, rfl, hblank, rfl⟩

/-- A text that starts with a word of ASCII starts with this word in lower case as well. -/
lemma exists_lower_trim {w : Text} {ws : List Text} (hascii : ∀ c ∈ w, c.toNat < 128)
    (h : words s = w :: ws) : ∃ r, lower (trim s) = w.map Char.toLower ++ r ∧ StartsBlank r := by
  rw [← words_trim] at h
  obtain ⟨r, hr, hblank, -⟩ := exists_rest_of_words (startsSolid_trim s) h
  have hsigma : 'Σ' ∉ w := fun hmem => absurd (hascii _ hmem) (by decide)
  have hword : w.flatMap lowerChar = w.map Char.toLower := by
    rw [← lower_eq_flatMap hsigma, lower_of_ascii hascii]
  refine ⟨lowerAfter (w.reverse ++ []) r, by rw [hr, lower, lowerAfter_append hsigma, hword], ?_⟩
  cases r with
  | nil => simp [lowerAfter, StartsBlank]
  | cons b r =>
    have hb : isBlank b = true := hblank b rfl
    have hnoSigma : b ≠ 'Σ' := by
      rintro rfl
      exact absurd hb (by decide)
    intro c hc
    rw [lowerAfter, if_neg (by simp [hnoSigma]), lowerChar_of_isBlank hb] at hc
    rw [← Option.some.inj hc, isBlank_toLower, hb]

/-- Behind a word, the blanks lead to the next one. -/
lemma exists_skipBlanks? {w : Text} {ws : List Text} (hs : StartsBlank s) (h : words s = w :: ws) :
    ∃ u, skipBlanks? s = some u ∧ StartsSolid u ∧ words u = w :: ws := by
  cases s with
  | nil => simp at h
  | cons b s =>
    have hb : isBlank b = true := hs b rfl
    refine ⟨trimLeft s, ?_, startsSolid_trimLeft s, ?_⟩
    · rw [skipBlanks?, if_pos hb]
    · rw [words_trimLeft, ← h, words_cons_blank hb]

/-- Any of the words of a text starts behind a blank, or at the start of the text. -/
theorem exists_start {vs ws : List Text} (hs : words s = vs ++ ws) (hne : ws ≠ []) :
    ∃ p u, s = p ++ u ∧ (∀ c ∈ p.getLast?, isBlank c = true) ∧ StartsSolid u ∧ words u = ws := by
  induction vs generalizing s with
  | nil =>
    have hsplit : s.takeWhile isBlank ++ trimLeft s = s := List.takeWhile_append_dropWhile
    refine ⟨_, _, hsplit.symm, fun c hc => List.mem_takeWhile_imp (List.mem_of_mem_getLast? hc),
      startsSolid_trimLeft s, ?_⟩
    rw [words_trimLeft, hs, List.nil_append]
  | cons v vs ih =>
    rw [← words_trimLeft] at hs
    obtain ⟨r, hr, hrblank, hrwords⟩ := exists_rest_of_words (startsSolid_trimLeft s) hs
    obtain ⟨p, u, rfl, hp, hu, huwords⟩ := ih hrwords
    refine ⟨s.takeWhile isBlank ++ v ++ p, u, ?_, ?_, hu, huwords⟩
    · calc s = s.takeWhile isBlank ++ trimLeft s := List.takeWhile_append_dropWhile.symm
        _ = s.takeWhile isBlank ++ v ++ p ++ u := by rw [hr]; simp
    · -- the word is followed by a blank, so what is passed over does not end with the word
      have hpne : p ≠ [] := by
        rintro rfl
        obtain ⟨c, u, rfl⟩ : ∃ c u', u = c :: u' := by
          refine List.exists_cons_of_ne_nil ?_
          rintro rfl
          exact hne huwords.symm
        exact absurd (hrblank c rfl) (by simp [hu c rfl])
      rwa [List.getLast?_append_of_ne_nil _ hpne]

/-- No blank is left at the end. -/
lemma isBlank_of_getLast?_trimRight (s : Text) :
    ∀ c ∈ (trimRight s).getLast?, isBlank c = false := by
  intro c hc
  rw [trimRight, List.getLast?_reverse] at hc
  have hhead := List.head?_dropWhile_not isBlank s.reverse
  rw [Option.mem_def.1 hc] at hhead
  simpa using hhead

/-- A text with a single word is this word once the blanks around it are off. -/
lemma trim_of_words {w : Text} (h : words s = [w]) : trim s = w := by
  rw [← words_trim] at h
  obtain ⟨r, hr, -, hrest⟩ := exists_rest_of_words (startsSolid_trim s) h
  -- a visible character behind the word would lie in a second one
  have hblank : ∀ c ∈ r, isBlank c = true := by
    intro c hc
    by_contra hsolid
    obtain ⟨v, hv, -⟩ := exists_mem_words hc (Bool.eq_false_of_not_eq_true hsolid)
    simp [hrest] at hv
  have hnil : r = [] := by
    by_contra hne
    obtain ⟨c, hc⟩ := Option.ne_none_iff_exists'.1 (mt List.getLast?_eq_none_iff.1 hne)
    have hlast : c ∈ (trim s).getLast? := by
      rw [hr, List.getLast?_append_of_ne_nil _ hne]
      exact hc
    have hsolid := isBlank_of_getLast?_trimRight (trimLeft s) c hlast
    simp [hblank c (List.mem_of_mem_getLast? hc)] at hsolid
  rw [hr, hnil, List.append_nil]

/-! ## Where words may start -/

/-- No blank is a word character. -/
lemma isWord_of_isBlank {c : Char} (h : isBlank c = true) : isWord c = false := by
  by_cases hc : c.toNat < 128
  · exact forall_ascii (P := fun c => isBlank c = true → isWord c = false) (by decide +kernel) hc h
  · have hapart : ∀ w ∈ wordRanges, ∀ b ∈ blankRanges, w.2 < b.1 ∨ b.2 < w.1 := by decide +kernel
    rw [isBlank, Ranges.holds_iff] at h
    obtain ⟨b, hb, hfirst, hlast⟩ := h
    rw [isWord, if_neg hc, ← Bool.not_eq_true, Ranges.holds_iff]
    rintro ⟨w, hw, hwfirst, hwlast⟩
    rcases hapart w hw b hb with h | h <;> omega

lemma wordMayStart_of_blank {p : Text} (hp : ∀ c ∈ p.getLast?, isBlank c = true) :
    wordMayStart p.getLast? = true := by
  cases hlast : p.getLast? with
  | none => rfl
  | some c => simp [wordMayStart, isWord_of_isBlank (hp c hlast)]

lemma wordEnds_of_startsBlank (hs : StartsBlank s) : wordEnds s = true := by
  cases s with
  | nil => rfl
  | cons c s => simp [wordEnds, isWord_of_isBlank (hs c rfl)]

/-- Inside the word, letters stand behind word characters only. -/
def LettersLead (w : Text) : Prop :=
  w.IsChain fun c d => d.isAlpha = true → isWord c = true

/-- Behind a part without letters, letters lead no word of their own when the part ends with a word
character. -/
lemma lettersLead_append {n e : Text} (hn : ∀ c ∈ n, c.isAlpha = false)
    (hlast : ∀ c ∈ n.getLast?, isWord c = true) (he : ∀ c ∈ e, isWord c = true) :
    LettersLead (n ++ e) := by
  refine List.isChain_append.2 ⟨?_, ?_, fun c hc _ _ _ => hlast c hc⟩
  · refine (List.pairwise_of_forall_mem_list fun c _ d hd halpha => ?_).isChain
    simp [hn d hd] at halpha
  · refine (List.pairwise_of_forall_mem_list fun c hc d _ _ => ?_).isChain
    exact he c hc

/-- Where a word may start and a letter stands, one of the words between the blanks starts. -/
lemma isBlank_of_wordMayStart {p : Text} {c : Char} (hwords : ∀ w ∈ words (p ++ c :: u), LettersLead w)
    (hc : c.isAlpha = true) (hp : wordMayStart p.getLast? = true) :
    ∀ d ∈ p.getLast?, isBlank d = true := by
  rcases List.eq_nil_or_concat' p with rfl | ⟨p, d, rfl⟩
  · simp
  · rw [List.getLast?_concat] at hp ⊢
    rintro e he
    obtain rfl := Option.some.inj he
    by_contra hd
    have hcsolid : isBlank c = false :=
      forall_ascii (P := fun c => c.isAlpha = true → isBlank c = false) (by decide +kernel)
        (toNat_lt_of_isAlphanum (by simp [Char.isAlphanum, hc])) hc
    have hpart : [d, c] <:+: p ++ [d] ++ c :: u := ⟨p, u, by simp⟩
    obtain ⟨w, hw, hdc⟩ := exists_mem_words_of_isInfix hpart (by simp) (by simp [hcsolid, hd])
    have hchain : List.IsChain (fun c d => d.isAlpha = true → isWord c = true) [d, c] :=
      List.IsChain.infix (hwords w hw) hdc
    have hword : isWord d = true := by simpa [hc] using hchain
    simp [wordMayStart, hword] at hp

end Crontab.Text
