import Mathlib.Tactic
import Crontab.Text.Blank

/-!
# Splitting and joining

What is joined comes apart again: texts without commas that are joined by commas are the pieces of
the result (`pieces_join`), and words that are joined by single spaces are its words (`words_join`).
The other way round, a text is the join of its pieces (`join_pieces`).

All of this rests on one equation for each way of splitting, which says what happens at the first
separator: `pieces_append`, `words_append` and `cut_append`.
-/

namespace Crontab.Text

/-- Whether a property holds for every character of a text is found by going through the text, and not
through all characters there are. -/
instance decidableForallMem (t : Text) (p : Char → Prop) [DecidablePred p] : Decidable (∀ c ∈ t, p c) :=
  List.decidableBAll p t

/-! ## Joining -/

lemma mem_join {sep : Text} {ts : List Text} {c : Char} (h : c ∈ join sep ts) :
    c ∈ sep ∨ ∃ t ∈ ts, c ∈ t := by
  induction ts with
  | nil => simp at h
  | cons t ts ih =>
    cases ts with
    | nil => exact .inr ⟨t, by simp, h⟩
    | cons u ts =>
      rw [join_cons_cons, List.mem_append, List.mem_append] at h
      rcases h with (h | h) | h
      · exact .inr ⟨t, by simp, h⟩
      · exact .inl h
      · exact (ih h).imp_right fun ⟨v, hv, hc⟩ => ⟨v, List.mem_cons_of_mem _ hv, hc⟩

lemma mem_join_of_mem {sep t : Text} {ts : List Text} {c : Char} (ht : t ∈ ts) (hc : c ∈ t) :
    c ∈ join sep ts := by
  induction ts with
  | nil => simp at ht
  | cons u ts ih =>
    cases ts with
    | nil => rwa [List.mem_singleton.1 ht] at hc
    | cons v ts =>
      rw [join_cons_cons, List.mem_append, List.mem_append]
      rcases List.mem_cons.1 ht with rfl | ht
      · exact .inl (.inl hc)
      · exact .inr (ih ht)

/-- Joining by a single character puts that character behind every text but the last. -/
lemma join_singleton_cons (sep : Char) (t u : Text) (ts : List Text) :
    join [sep] (t :: u :: ts) = t ++ sep :: join [sep] (u :: ts) := by
  simp [join_cons_cons]

lemma join_ne_nil {sep : Char} {w : Text} (ws : List Text) (hw : w ≠ []) :
    join [sep] (w :: ws) ≠ [] := by
  cases ws with
  | nil => exact hw
  | cons v ws => simp [join_singleton_cons]

lemma head?_join {sep : Char} {w : Text} (ws : List Text) (hw : w ≠ []) :
    (join [sep] (w :: ws)).head? = w.head? := by
  cases ws with
  | nil => rfl
  | cons v ws => rw [join_singleton_cons, List.head?_append_of_ne_nil _ hw]

/-- Characters that are left out are left out of the texts and of what stands between them. -/
lemma filter_join (keep : Char → Bool) (sep : Text) (ts : List Text) :
    (join sep ts).filter keep = join (sep.filter keep) (ts.map (List.filter keep)) := by
  induction ts with
  | nil => rfl
  | cons t ts ih =>
    cases ts with
    | nil => rfl
    | cons u ts =>
      rw [join_cons_cons, List.filter_append, List.filter_append, ih]
      rfl

/-! ## Pieces -/

section Pieces

variable {sep : Char}

lemma pieces_of_notMem {s : Text} (h : sep ∉ s) : pieces sep s = [s] := by
  induction s with
  | nil => rfl
  | cons c s ih =>
    have hc : c ≠ sep := fun e => h (by simp [e])
    rw [pieces, if_neg hc, ih fun hs => h (List.mem_cons_of_mem c hs)]

/-- The first separator ends the first piece. -/
lemma pieces_append {s : Text} (h : sep ∉ s) (t : Text) :
    pieces sep (s ++ sep :: t) = s :: pieces sep t := by
  induction s with
  | nil => simp [pieces]
  | cons c s ih =>
    have hc : c ≠ sep := fun e => h (by simp [e])
    rw [List.cons_append, pieces, if_neg hc, ih fun hs => h (List.mem_cons_of_mem c hs)]

theorem pieces_join {ts : List Text} (hne : ts ≠ []) (h : ∀ t ∈ ts, sep ∉ t) :
    pieces sep (join [sep] ts) = ts := by
  induction ts with
  | nil => exact absurd rfl hne
  | cons t ts ih =>
    have ht : sep ∉ t := h t (by simp)
    cases ts with
    | nil => exact pieces_of_notMem ht
    | cons u ts =>
      rw [join_singleton_cons, pieces_append ht,
        ih (by simp) fun v hv => h v (List.mem_cons_of_mem t hv)]

/-- A text either has no separator, or it has a first one. -/
lemma eq_append_of_mem {c : Char} {s : Text} (h : c ∈ s) :
    ∃ a b, s = a ++ c :: b ∧ c ∉ a := by
  induction s with
  | nil => simp at h
  | cons d s ih =>
    by_cases hd : d = c
    · exact ⟨[], s, by simp [hd], by simp⟩
    · obtain ⟨a, b, rfl, ha⟩ := ih (List.mem_of_ne_of_mem (Ne.symm hd) h)
      exact ⟨d :: a, b, rfl, by simp [ha, Ne.symm hd]⟩

/-- Induction from separator to separator. -/
theorem pieces_induction (sep : Char) {motive : Text → Prop}
    (last : ∀ s, sep ∉ s → motive s)
    (more : ∀ s t, sep ∉ s → motive t → motive (s ++ sep :: t)) (s : Text) : motive s := by
  induction hn : s.length using Nat.strong_induction_on generalizing s with
  | _ n ih =>
    by_cases h : sep ∈ s
    · obtain ⟨a, b, rfl, ha⟩ := eq_append_of_mem h
      exact more a b ha (ih b.length (by simp at hn; omega) b rfl)
    · exact last s h

theorem join_pieces (sep : Char) (s : Text) : join [sep] (pieces sep s) = s := by
  induction s using pieces_induction sep with
  | last s h => rw [pieces_of_notMem h, join_singleton]
  | more s t h ih =>
    obtain ⟨u, us, hu⟩ := List.exists_cons_of_ne_nil (pieces_ne_nil sep t)
    rw [pieces_append h, hu, join_singleton_cons, ← hu, ih]

lemma mem_of_mem_pieces {s t : Text} {c : Char} (ht : t ∈ pieces sep s) (hc : c ∈ t) : c ∈ s := by
  induction s using pieces_induction sep with
  | last s h =>
    rw [pieces_of_notMem h, List.mem_singleton] at ht
    exact ht ▸ hc
  | more s u h ih =>
    rw [pieces_append h, List.mem_cons] at ht
    rcases ht with rfl | ht
    · exact List.mem_append_left _ hc
    · exact List.mem_append_right _ (List.mem_cons_of_mem _ (ih ht))

/-- Every character of a text is a separator or stands in a piece. -/
lemma mem_pieces_of_mem (sep : Char) {s : Text} {c : Char} (hc : c ∈ s) :
    c = sep ∨ ∃ t ∈ pieces sep s, c ∈ t := by
  rw [← join_pieces sep s] at hc
  exact (mem_join hc).imp_left List.mem_singleton.1

end Pieces

/-! ## Cutting at a character -/

section Cut

variable {m : Char}

lemma cut_of_notMem {ms s : Text} (h : m ∉ s) : cut (m :: ms) s = (s, none) := by
  induction s with
  | nil => rfl
  | cons c s ih =>
    have hc : m ≠ c := fun e => h (by simp [e])
    simp [cut, skip?, hc, ih fun hs => h (List.mem_cons_of_mem c hs)]

/-- A text is cut at the first mark; it is enough that the first character of the mark is not there
before. -/
lemma cut_append_mark {s : Text} (h : m ∉ s) (ms t : Text) :
    cut (m :: ms) (s ++ (m :: ms ++ t)) = (s, some t) := by
  induction s with
  | nil =>
    have hskip : skip? (m :: ms) (m :: (ms ++ t)) = some t := skip?_append (m :: ms) t
    rw [List.nil_append, List.cons_append, cut, hskip]
  | cons c s ih =>
    have hc : m ≠ c := fun e => h (by simp [e])
    rw [List.cons_append, cut, ih fun hs => h (List.mem_cons_of_mem c hs)]
    simp [skip?, hc]

lemma cut_append {s : Text} (h : m ∉ s) (t : Text) : cut [m] (s ++ m :: t) = (s, some t) :=
  cut_append_mark h [] t

lemma cut_eq_none_iff {s a : Text} : cut [m] s = (a, none) ↔ a = s ∧ m ∉ s := by
  constructor
  · intro h
    by_cases hm : m ∈ s
    · obtain ⟨b, c, rfl, hb⟩ := eq_append_of_mem hm
      simp [cut_append hb] at h
    · rw [cut_of_notMem hm, Prod.mk.injEq] at h
      exact ⟨h.1.symm, hm⟩
  · rintro ⟨rfl, hm⟩
    exact cut_of_notMem hm

lemma cut_eq_some_iff {s a b : Text} : cut [m] s = (a, some b) ↔ s = a ++ m :: b ∧ m ∉ a := by
  constructor
  · intro h
    by_cases hm : m ∈ s
    · obtain ⟨c, d, rfl, hc⟩ := eq_append_of_mem hm
      rw [cut_append hc, Prod.mk.injEq, Option.some.injEq] at h
      obtain ⟨rfl, rfl⟩ := h
      exact ⟨rfl, hc⟩
    · simp [cut_of_notMem hm] at h
  · rintro ⟨rfl, ha⟩
    exact cut_append ha b

lemma eq_of_cut_eq_none {mark s a : Text} (h : cut mark s = (a, none)) : a = s := by
  induction s generalizing a with
  | nil => simpa [cut, eq_comm] using h
  | cons c s ih =>
    rw [cut] at h
    split at h
    · simp at h
    · obtain ⟨rfl, hrest⟩ := Prod.mk.inj h
      exact congrArg (List.cons c) (ih (Prod.ext rfl hrest))

lemma eq_append_of_cut_eq_some {mark s a b : Text} (h : cut mark s = (a, some b)) :
    s = a ++ (mark ++ b) := by
  induction s generalizing a with
  | nil => simp [cut] at h
  | cons c s ih =>
    rw [cut] at h
    split at h
    · next rest hskip =>
      obtain ⟨rfl, hrest⟩ := Prod.mk.inj h
      rw [eq_append_of_skip? hskip, Option.some.inj hrest, List.nil_append]
    · obtain ⟨rfl, hrest⟩ := Prod.mk.inj h
      rw [List.cons_append, ← ih (Prod.ext rfl hrest)]

end Cut

/-! ## Changing characters

Where the characters of a mark are changed into themselves and nothing else is changed into them, a
text is split at the same places before and after the change. -/

section Map

variable {g : Char → Char} {s : Text}

lemma pieces_map {sep : Char} (h : ∀ c ∈ s, g c = sep ↔ c = sep) :
    pieces sep (s.map g) = (pieces sep s).map (List.map g) := by
  have hnotMem : ∀ {u : Text}, (∀ c ∈ u, g c = sep ↔ c = sep) → sep ∉ u → sep ∉ u.map g := by
    intro u hu hsep hmem
    obtain ⟨c, hc, heq⟩ := List.mem_map.1 hmem
    exact hsep ((hu c hc).1 heq ▸ hc)
  induction s using pieces_induction sep with
  | last s hs => rw [pieces_of_notMem hs, pieces_of_notMem (hnotMem h hs), List.map_singleton]
  | more s t hs ih =>
    rw [List.forall_mem_append, List.forall_mem_cons] at h
    rw [List.map_append, List.map_cons, h.2.1.2 rfl, pieces_append hs,
      pieces_append (hnotMem h.1 hs), ih h.2.2, List.map_cons]

lemma skip?_map {mark : Text} (h : ∀ m ∈ mark, ∀ c ∈ s, g c = m ↔ c = m) :
    skip? mark (s.map g) = (skip? mark s).map (List.map g) := by
  induction mark generalizing s with
  | nil => rfl
  | cons m ms ih =>
    cases s with
    | nil => rfl
    | cons c s =>
      have hc : m = g c ↔ m = c := by
        rw [eq_comm, h m List.mem_cons_self c List.mem_cons_self, eq_comm]
      by_cases hm : m = c
      · rw [List.map_cons, skip?, skip?, if_pos hm, if_pos (hc.2 hm)]
        exact ih fun n hn d hd => h n (List.mem_cons_of_mem m hn) d (List.mem_cons_of_mem c hd)
      · rw [List.map_cons, skip?, skip?, if_neg hm, if_neg (mt hc.1 hm), Option.map_none]

lemma cut_map {mark : Text} (h : ∀ m ∈ mark, ∀ c ∈ s, g c = m ↔ c = m) :
    cut mark (s.map g) = ((cut mark s).1.map g, (cut mark s).2.map (List.map g)) := by
  induction s with
  | nil => rfl
  | cons c s ih =>
    have hskip := skip?_map h
    rw [List.map_cons] at hskip ⊢
    rw [cut, cut, hskip, ih fun m hm d hd => h m hm d (List.mem_cons_of_mem c hd)]
    cases skip? mark (c :: s) <;> rfl

end Map

/-! ## Words -/

/-- A text that can be a word: it is not empty and holds no blank. -/
def IsSolid (w : Text) : Prop := w ≠ [] ∧ ∀ c ∈ w, isBlank c = false

instance : DecidablePred IsSolid := fun w =>
  inferInstanceAs (Decidable (w ≠ [] ∧ ∀ c ∈ w, isBlank c = false))

/-- The first blank ends the first word. -/
lemma words_append {w : Text} (hw : IsSolid w) {b : Char} (hb : isBlank b = true) (s : Text) :
    words (w ++ b :: s) = w :: words s := by
  obtain ⟨hne, hsolid⟩ := hw
  induction w with
  | nil => exact absurd rfl hne
  | cons c w ih =>
    have hc : isBlank c = false := hsolid c (by simp)
    cases w with
    | nil => simp [words, hc, hb]
    | cons d w =>
      have hd : isBlank d = false := hsolid d (by simp)
      have hrest := ih (by simp) fun x hx => hsolid x (List.mem_cons_of_mem c hx)
      rw [List.cons_append] at hrest
      rw [List.cons_append, List.cons_append, words, hrest]
      simp [hc, hd]

lemma words_of_isSolid {w : Text} (hw : IsSolid w) : words w = [w] := by
  obtain ⟨hne, hsolid⟩ := hw
  induction w with
  | nil => exact absurd rfl hne
  | cons c w ih =>
    have hc : isBlank c = false := hsolid c (by simp)
    cases w with
    | nil => simp [words, hc]
    | cons d w =>
      have hd : isBlank d = false := hsolid d (by simp)
      rw [words, ih (by simp) fun x hx => hsolid x (List.mem_cons_of_mem c hx)]
      simp [hc, hd]

theorem words_join {ws : List Text} (h : ∀ w ∈ ws, IsSolid w) : words (join [' '] ws) = ws := by
  induction ws with
  | nil => rfl
  | cons w ws ih =>
    have hw : IsSolid w := h w (by simp)
    cases ws with
    | nil => exact words_of_isSolid hw
    | cons v ws =>
      rw [join_singleton_cons, words_append hw (by decide),
        ih fun u hu => h u (List.mem_cons_of_mem w hu)]

lemma isSolid_of_mem_words {s w : Text} (h : w ∈ words s) : IsSolid w := by
  fun_induction words s generalizing w with
  | case1 => simp at h
  | case2 c s hc ih => exact ih h
  | case3 c hc =>
    obtain rfl := List.mem_singleton.1 h
    exact ⟨by simp, by simpa using hc⟩
  | case4 c hc d s hd ih =>
    rcases List.mem_cons.1 h with rfl | h
    · exact ⟨by simp, by simpa using hc⟩
    · exact ih h
  | case5 c hc d s hd hnil ih =>
    obtain rfl : w = [c] := by simpa [hnil] using h
    exact ⟨by simp, by simpa using hc⟩
  | case6 c hc d s hd v vs hvs ih =>
    rw [hvs] at h ih
    rcases List.mem_cons.1 h with rfl | h
    · have hv := (ih List.mem_cons_self).2
      exact ⟨by simp, List.forall_mem_cons.2 ⟨by simpa using hc, hv⟩⟩
    · exact ih (List.mem_cons_of_mem v h)

/-! ## Blanks around a text -/

lemma trimLeft_cons {c : Char} (h : isBlank c = false) (s : Text) :
    trimLeft (c :: s) = c :: s := by
  simp [trimLeft, h]

lemma trimRight_concat {c : Char} (h : isBlank c = false) (s : Text) :
    trimRight (s ++ [c]) = s ++ [c] := by
  simp [trimRight, h]

lemma trimRight_isPrefix (s : Text) : trimRight s <+: s := by
  have hsuffix := List.dropWhile_suffix isBlank (l := s.reverse)
  rwa [← List.reverse_prefix, List.reverse_reverse] at hsuffix

/-- A text that neither starts nor ends with a blank stays as it is. -/
lemma trim_of_ends {s : Text} (hhead : ∀ c ∈ s.head?, isBlank c = false)
    (hlast : ∀ c ∈ s.getLast?, isBlank c = false) : trim s = s := by
  cases s with
  | nil => rfl
  | cons c s =>
    have hsplit := List.dropLast_append_getLast (l := c :: s) (by simp)
    rw [trim, trimLeft_cons (hhead c (by simp)), ← hsplit]
    exact trimRight_concat (hlast _ (by simp [List.getLast?_eq_some_getLast])) _

/-- Words with single spaces between them start with the first of them. -/
lemma isBlank_of_head?_join {ws : List Text} (h : ∀ w ∈ ws, IsSolid w) :
    ∀ c ∈ (join [' '] ws).head?, isBlank c = false := by
  cases ws with
  | nil => simp
  | cons w ws =>
    obtain ⟨hne, hw⟩ := h w List.mem_cons_self
    rw [head?_join ws hne]
    exact fun c hc => hw c (List.mem_of_mem_head? hc)

/-- Words with single spaces between them end with the last of them. -/
lemma isBlank_of_getLast?_join {ws : List Text} (h : ∀ w ∈ ws, IsSolid w) :
    ∀ c ∈ (join [' '] ws).getLast?, isBlank c = false := by
  induction ws with
  | nil => simp
  | cons w ws ih =>
    cases ws with
    | nil => exact fun c hc => (h w List.mem_cons_self).2 c (List.mem_of_mem_getLast? hc)
    | cons v ws =>
      have hv : join [' '] (v :: ws) ≠ [] := join_ne_nil ws (h v (by simp)).1
      rw [join_singleton_cons, List.append_cons, List.getLast?_append_of_ne_nil _ hv]
      exact ih fun u hu => h u (List.mem_cons_of_mem w hu)

/-- Words with single spaces between them have no blanks around them. -/
lemma trim_join {ws : List Text} (h : ∀ w ∈ ws, IsSolid w) :
    trim (join [' '] ws) = join [' '] ws :=
  trim_of_ends (isBlank_of_head?_join h) (isBlank_of_getLast?_join h)

lemma trim_of_noBlank {s : Text} (h : ∀ c ∈ s, isBlank c = false) : trim s = s :=
  trim_of_ends (fun c hc => h c (List.mem_of_mem_head? hc))
    fun c hc => h c (List.mem_of_mem_getLast? hc)

end Crontab.Text
