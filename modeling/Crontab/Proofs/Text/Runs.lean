import Mathlib.Data.List.TakeWhile
import Crontab.Numeral.Reader
import Crontab.Proofs.Answer
import Crontab.Proofs.Text.Rewriting
import Crontab.Proofs.Text.Splitting

/-!
# Runs of characters

A run of digits that is too long stops the reading of a number, so what has to be known of a text is
how long its runs are.  `RunsWithin` bounds the runs of one kind of characters, and every part of a
text keeps the bound: the text without the blanks around it, its pieces and its words.

Lower-casing and replacing change the runs.  `RunsWithin.lower` and `RunsWithin.replaceAll` carry a
bound through both.  They count the run that ends at the current place (`RunsFrom`), so that what is
written can be compared, step by step, with what is passed.

`Fault.ComesFrom` says that a fault is due to a run of digits that is too long.  No other fault comes
up when a number is read (`Fault.ComesFrom.of_readNat?`).
-/

namespace Crontab

namespace Text

variable {kind : Char → Bool} {n : ℕ} {s t : Text}

/-- No run of characters of a kind is longer than `n`. -/
def RunsWithin (kind : Char → Bool) (n : ℕ) (s : Text) : Prop :=
  ∀ r : Text, r <:+: s → (∀ c ∈ r, kind c = true) → r.length ≤ n

lemma RunsWithin.of_part (h : RunsWithin kind n s) (ht : t <:+: s) : RunsWithin kind n t :=
  fun r hr => h r (hr.trans ht)

/-- A text without characters of the kind has no runs at all. -/
lemma runsWithin_of_forall (h : ∀ c ∈ s, kind c = false) : RunsWithin kind n s := by
  intro r hr hkind
  cases r with
  | nil => exact Nat.zero_le n
  | cons c r =>
    have hc := h c (hr.subset List.mem_cons_self)
    exact absurd (hkind c List.mem_cons_self) (by simp [hc])

lemma runsWithin_of_length_le (h : s.length ≤ n) : RunsWithin kind n s :=
  fun _ hr _ => hr.length_le.trans h

/-! ## Parts of a text -/

/-- What stands behind a character is a part of the text. -/
lemma isInfix_append_cons (s : Text) (c : Char) (t : Text) : t <:+: s ++ c :: t :=
  ⟨s ++ [c], [], by simp⟩

lemma isInfix_trim (s : Text) : trim s <:+: s :=
  (trimRight_isPrefix (trimLeft s)).isInfix.trans (List.dropWhile_suffix isBlank).isInfix

lemma isInfix_of_mem_pieces {sep : Char} (ht : t ∈ pieces sep s) : t <:+: s := by
  induction s using pieces_induction sep with
  | last s h =>
    rw [pieces_of_notMem h, List.mem_singleton] at ht
    exact ht ▸ List.infix_refl _
  | more s u h ih =>
    rw [pieces_append h, List.mem_cons] at ht
    rcases ht with rfl | ht
    · exact (List.prefix_append _ _).isInfix
    · exact (ih ht).trans (isInfix_append_cons s sep u)

/-- A text that does not start with a blank starts with its first word. -/
lemma prefix_of_words {w : Text} {ws : List Text} (hw : words s = w :: ws)
    (hhead : ∀ c ∈ s.head?, isBlank c = false) : w <+: s := by
  fun_induction words s generalizing w ws with
  | case1 => simp at hw
  | case2 c s hc ih => exact absurd (hhead c rfl) (by simp [hc])
  | case3 c hc =>
    obtain ⟨rfl, -⟩ := List.cons.inj hw
    exact List.prefix_refl _
  | case4 c hc d s hd ih =>
    obtain ⟨rfl, -⟩ := List.cons.inj hw
    exact ⟨d :: s, rfl⟩
  | case5 c hc d s hd hnil ih =>
    rw [hnil] at hw
    obtain ⟨rfl, -⟩ := List.cons.inj hw
    exact ⟨d :: s, rfl⟩
  | case6 c hc d s hd v vs hvs ih =>
    rw [hvs] at hw
    obtain ⟨rfl, -⟩ := List.cons.inj hw
    exact List.cons_prefix_cons.2 ⟨rfl, ih hvs (by simpa using hd)⟩

lemma isInfix_of_mem_words {w : Text} (hw : w ∈ words s) : w <:+: s := by
  fun_induction words s with
  | case1 => simp at hw
  | case2 c s hc ih => exact List.infix_cons (ih hw)
  | case3 c hc => rw [List.mem_singleton.1 hw]
  | case4 c hc d s hd ih =>
    rcases List.mem_cons.1 hw with rfl | hw
    · exact ⟨[], d :: s, rfl⟩
    · exact List.infix_cons (ih hw)
  | case5 c hc d s hd hnil ih =>
    rw [hnil] at hw
    rw [List.mem_singleton.1 hw]
    exact ⟨[], d :: s, rfl⟩
  | case6 c hc d s hd v vs hvs ih =>
    rw [hvs] at hw ih
    rcases List.mem_cons.1 hw with rfl | hw
    · exact (List.cons_prefix_cons.2 ⟨rfl, prefix_of_words hvs (by simpa using hd)⟩).isInfix
    · exact List.infix_cons (ih (List.mem_cons_of_mem v hw))

/-! ## Runs in a rewritten text -/

/-- No run is longer than `n` when `k` characters of the kind stand in front of the text. -/
def RunsFrom (kind : Char → Bool) (n : ℕ) : ℕ → Text → Prop
  | k, [] => k ≤ n
  | k, c :: s => if kind c = true then RunsFrom kind n (k + 1) s else k ≤ n ∧ RunsFrom kind n 0 s

lemma runsFrom_cons_of_pos {c : Char} (hc : kind c = true) {k : ℕ} :
    RunsFrom kind n k (c :: s) ↔ RunsFrom kind n (k + 1) s := by
  rw [RunsFrom, if_pos hc]

lemma runsFrom_cons_of_neg {c : Char} (hc : kind c = false) {k : ℕ} :
    RunsFrom kind n k (c :: s) ↔ k ≤ n ∧ RunsFrom kind n 0 s := by
  rw [RunsFrom, if_neg (by simp [hc])]

lemma RunsFrom.mono {j k : ℕ} (h : RunsFrom kind n k s) (hjk : j ≤ k) : RunsFrom kind n j s := by
  induction s generalizing j k with
  | nil => exact hjk.trans h
  | cons c s ih =>
    cases hc : kind c with
    | true => exact (runsFrom_cons_of_pos hc).2 (ih ((runsFrom_cons_of_pos hc).1 h) (by omega))
    | false =>
      obtain ⟨hk, h⟩ := (runsFrom_cons_of_neg hc).1 h
      exact (runsFrom_cons_of_neg hc).2 ⟨hjk.trans hk, h⟩

lemma RunsFrom.le {k : ℕ} (h : RunsFrom kind n k s) : k ≤ n := by
  induction s generalizing k with
  | nil => exact h
  | cons c s ih =>
    cases hc : kind c with
    | true => exact Nat.le_of_succ_le (ih ((runsFrom_cons_of_pos hc).1 h))
    | false => exact ((runsFrom_cons_of_neg hc).1 h).1

/-- Characters in front count at most as many as they are. -/
lemma RunsFrom.append {k : ℕ} (h : RunsFrom kind n (k + s.length) t) :
    RunsFrom kind n k (s ++ t) := by
  induction s generalizing k with
  | nil => exact h
  | cons c s ih =>
    have hrest : RunsFrom kind n (k + 1) (s ++ t) := ih (by rwa [Nat.add_right_comm, Nat.add_assoc])
    cases hc : kind c with
    | true => exact (runsFrom_cons_of_pos hc).2 hrest
    | false => exact (runsFrom_cons_of_neg hc).2 ⟨by have := hrest.le; omega, hrest.mono (by omega)⟩

lemma RunsWithin.length_takeWhile_le (h : RunsWithin kind n s) :
    (s.takeWhile kind).length ≤ n :=
  h _ (List.takeWhile_prefix kind).isInfix fun _ hc => List.mem_takeWhile_imp hc

/-- A run either starts at the first character or lies behind it. -/
lemma runsWithin_cons_iff {c : Char} :
    RunsWithin kind n (c :: s) ↔ ((c :: s).takeWhile kind).length ≤ n ∧ RunsWithin kind n s := by
  constructor
  · intro h
    exact ⟨h.length_takeWhile_le, h.of_part (List.suffix_cons c s).isInfix⟩
  · rintro ⟨hfirst, hrest⟩ r hr hkind
    rcases List.infix_cons_iff.1 hr with ⟨u, hu⟩ | hr
    · rw [← hu, List.takeWhile_append_of_pos hkind, List.length_append] at hfirst
      omega
    · exact hrest r hr hkind

lemma runsFrom_iff {k : ℕ} :
    RunsFrom kind n k s ↔ k + (s.takeWhile kind).length ≤ n ∧ RunsWithin kind n s := by
  induction s generalizing k with
  | nil => simp [RunsFrom, RunsWithin]
  | cons c s ih =>
    rw [runsWithin_cons_iff]
    cases hc : kind c with
    | true =>
      rw [runsFrom_cons_of_pos hc, ih, List.takeWhile_cons_of_pos hc, List.length_cons]
      constructor
      · rintro ⟨hfirst, hrest⟩
        exact ⟨by omega, by omega, hrest⟩
      · rintro ⟨hfirst, -, hrest⟩
        exact ⟨by omega, hrest⟩
    | false =>
      rw [runsFrom_cons_of_neg hc, ih, List.takeWhile_cons_of_neg (by simp [hc])]
      constructor
      · rintro ⟨hk, -, hrest⟩
        exact ⟨by simpa using hk, by simp, hrest⟩
      · rintro ⟨hk, -, hrest⟩
        exact ⟨by simpa using hk, by simpa using hrest.length_takeWhile_le, hrest⟩

lemma runsWithin_iff : RunsWithin kind n s ↔ RunsFrom kind n 0 s := by
  rw [runsFrom_iff, Nat.zero_add]
  exact ⟨fun h => ⟨h.length_takeWhile_le, h⟩, fun h => h.2⟩

/-! ### Replacing -/

section Replacing

variable {mark fresh : Text}

/-- What is written so far is compared with what is passed: `j` characters of an occurrence are still
to be passed over, and these are of the kind. -/
lemma RunsFrom.replaceFrom (hne : mark ≠ []) (hmark : ∀ c ∈ mark, kind c = true)
    (hlength : fresh.length ≤ mark.length)
    {a b j : ℕ} (h : RunsFrom kind n b s) (hab : a ≤ b + j) (hj : j ≤ s.length)
    (hpassed : ∀ c ∈ s.take j, kind c = true) :
    RunsFrom kind n a (replaceFrom mark fresh j s) := by
  induction s generalizing a b j with
  | nil =>
    obtain rfl : j = 0 := by simpa using hj
    exact hab.trans h
  | cons c s ih =>
    cases j with
    | succ j =>
      rw [List.take_succ_cons, List.forall_mem_cons] at hpassed
      rw [runsFrom_cons_of_pos hpassed.1] at h
      exact ih h (by omega) (by simpa using hj) hpassed.2
    | zero =>
      rw [Text.replaceFrom]
      split
      · next hprefix =>
        obtain ⟨m, ms, rfl⟩ := List.exists_cons_of_ne_nil hne
        obtain ⟨rfl, u, rfl⟩ := List.cons_prefix_cons.1 (List.isPrefixOf_iff_prefix.1 hprefix)
        rw [List.forall_mem_cons] at hmark
        rw [runsFrom_cons_of_pos hmark.1] at h
        rw [List.length_cons] at hlength
        -- the fresh text is no longer than the mark, whose characters are passed over
        refine (ih h ?_ ?_ ?_).append
        · rw [List.length_cons]
          omega
        · simp
        · simpa using hmark.2
      · cases hc : kind c with
        | true =>
          rw [runsFrom_cons_of_pos hc] at h ⊢
          exact ih h (by omega) (Nat.zero_le _) (by simp)
        | false =>
          rw [runsFrom_cons_of_neg hc] at h ⊢
          exact ⟨hab.trans h.1, ih h.2 (Nat.zero_le _) (Nat.zero_le _) (by simp)⟩

/-- **Replacing by something that is not longer keeps the bound**, when the mark is itself of the
kind. -/
theorem RunsWithin.replaceAll (hne : mark ≠ []) (hmark : ∀ c ∈ mark, kind c = true)
    (hlength : fresh.length ≤ mark.length) (h : RunsWithin kind n s) :
    RunsWithin kind n (replaceAll mark fresh s) := by
  rw [runsWithin_iff] at h ⊢
  exact h.replaceFrom hne hmark hlength le_rfl (Nat.zero_le _) (by simp)

end Replacing

/-! ### Lower case -/

/-- Whether a character of a kind comes out of a character in lower case. -/
def lowersTo (kind : Char → Bool) (c : Char) : Bool := (lowerChar c).any kind

lemma lowersTo_of_ascii {c : Char} (hc : c.toNat < 128) : lowersTo kind c = kind c.toLower := by
  rw [lowersTo, lowerChar_of_ascii hc]
  simp

/-- Outside ASCII, lower-casing brings in no character of ASCII but an `i` and a `k`. -/
lemma lowersTo_outside {c : Char} (hkind : ∀ d : Char, kind d = true → d.toNat < 128 ∧ d.toNat ≠ 0)
    (hc : ¬ c.toNat < 128) (h : lowersTo kind c = true) :
    c = '\u0130' ∧ kind 'i' = true ∨ c = '\u212A' ∧ kind 'k' = true := by
  rw [lowersTo] at h
  rcases lowerChar_outside hc with ⟨rfl, hlower⟩ | ⟨rfl, hlower⟩ | ⟨d, hlower, hd⟩
  · rw [hlower, List.any_cons, List.any_cons, List.any_nil, Bool.or_false, Bool.or_eq_true] at h
    rcases h with h | h
    · exact .inl ⟨rfl, h⟩
    · exact absurd (hkind _ h).1 (by decide)
  · rw [hlower, List.any_cons, List.any_nil, Bool.or_false] at h
    exact .inr ⟨rfl, h⟩
  · rw [hlower, List.any_cons, List.any_nil, Bool.or_false] at h
    have := hkind d h
    omega

/-- A digit comes out of itself only. -/
lemma isDigit_of_lowersTo {c : Char} (h : lowersTo Char.isDigit c = true) : c.isDigit = true := by
  by_cases hc : c.toNat < 128
  · rw [lowersTo_of_ascii hc] at h
    exact toLower_of_isDigit h ▸ h
  · have hcode : ∀ d : Char, d.isDigit = true → d.toNat < 128 ∧ d.toNat ≠ 0 := by
      intro d hd
      refine ⟨toNat_lt_of_isDigit hd, fun hzero => ?_⟩
      rw [show d = Char.ofNat 0 from Char.toNat_inj.1 hzero] at hd
      exact absurd hd (by decide)
    rcases lowersTo_outside hcode hc h with ⟨-, hi⟩ | ⟨-, hk⟩
    · exact absurd hi (by decide)
    · exact absurd hk (by decide)

/-- The two forms that are not found character by character are of no interest to a kind: neither the
dot of `İ` nor the last sigma of a word. -/
structure IsPlainKind (kind : Char → Bool) : Prop where
  dot : kind '\u0307' = false
  sigma : kind 'ς' = false

/-- Only `İ` becomes two characters. -/
lemma lowerChar_cases (c : Char) : lowerChar c = ['i', '\u0307'] ∨ ∃ d, lowerChar c = [d] := by
  by_cases hc : c.toNat < 128
  · exact .inr ⟨_, lowerChar_of_ascii hc⟩
  · rcases lowerChar_outside hc with ⟨-, hlower⟩ | ⟨-, hlower⟩ | ⟨d, hlower, -⟩
    · exact .inl hlower
    · exact .inr ⟨_, hlower⟩
    · exact .inr ⟨d, hlower⟩

lemma RunsFrom.lowerAfter (hkind : IsPlainKind kind) {k : ℕ} (h : RunsFrom (lowersTo kind) n k s)
    (before : Text) : RunsFrom kind n k (lowerAfter before s) := by
  induction s generalizing k before with
  | nil => exact h
  | cons c s ih =>
    rw [Text.lowerAfter]
    cases hc : lowersTo kind c with
    | true =>
      have hrest := ih ((runsFrom_cons_of_pos hc).1 h) (c :: before)
      split
      · exact hrest.append
      · rcases lowerChar_cases c with hlower | ⟨d, hlower⟩
        · rw [lowersTo, hlower, List.any_cons, List.any_cons, hkind.dot] at hc
          rw [hlower]
          -- the letter becomes two characters, and the second one, a dot, ends the run
          refine (runsFrom_cons_of_pos (by simpa using hc)).2 ((runsFrom_cons_of_neg hkind.dot).2 ?_)
          exact ⟨hrest.le, hrest.mono (Nat.zero_le _)⟩
        · rw [hlower]
          exact hrest.append
    | false =>
      obtain ⟨hk, h⟩ := (runsFrom_cons_of_neg hc).1 h
      have hrest := ih h (c :: before)
      split
      · exact (runsFrom_cons_of_neg hkind.sigma).2 ⟨hk, hrest⟩
      · rcases lowerChar_cases c with hlower | ⟨d, hlower⟩
        · rw [lowersTo, hlower, List.any_cons, Bool.or_eq_false_iff] at hc
          rw [hlower]
          exact (runsFrom_cons_of_neg hc.1).2
            ⟨hk, (runsFrom_cons_of_neg hkind.dot).2 ⟨Nat.zero_le n, hrest⟩⟩
        · rw [lowersTo, hlower] at hc
          rw [hlower]
          exact (runsFrom_cons_of_neg (by simpa using hc)).2 ⟨hk, hrest⟩

/-- **Lower-casing keeps the bound**, counted over the characters from which the kind comes. -/
theorem RunsWithin.lower (hkind : IsPlainKind kind) (h : RunsWithin (lowersTo kind) n s) :
    RunsWithin kind n (lower s) :=
  runsWithin_iff.2 ((runsWithin_iff.1 h).lowerAfter hkind [])

/-- A bound on the runs of a kind bounds the runs of a part of the kind. -/
lemma RunsWithin.of_imp {kind' : Char → Bool} (h : RunsWithin kind n s)
    (himp : ∀ c ∈ s, kind' c = true → kind c = true) : RunsWithin kind' n s :=
  fun r hr hkind => h r hr fun c hc => himp c (hr.subset hc) (hkind c hc)

end Text

/-- The fault comes from a run of digits in the text that is too long to be a number. -/
def Fault.ComesFrom (e : Fault) (s : Text) : Prop :=
  ∃ r : Text, r <:+: s ∧ (∀ c ∈ r, c.isDigit = true) ∧ digitLimit < r.length ∧
    e = .numeralTooLong r.length

namespace Fault.ComesFrom

variable {e : Fault} {s t : Text}

lemma of_part (h : e.ComesFrom t) (ht : t <:+: s) : e.ComesFrom s := by
  obtain ⟨r, hr, hdigits, hlong, rfl⟩ := h
  exact ⟨r, hr.trans ht, hdigits, hlong, rfl⟩

lemma not_runsWithin (h : e.ComesFrom s) : ¬ Text.RunsWithin Char.isDigit digitLimit s := by
  obtain ⟨r, hr, hdigits, hlong, -⟩ := h
  exact fun hruns => absurd (hruns r hr hdigits) (by omega)

/-- Reading a number stops at nothing but a run of digits that is too long. -/
lemma of_readNat? (h : readNat? s = .error e) : e.ComesFrom s := by
  unfold readNat? at h
  split at h
  · next hdigits =>
    rcases bind_eq_error_iff.1 h with h | ⟨v, -, h⟩
    · unfold readDigits at h
      split at h
      · simp at h
      · next hlong =>
        refine ⟨Text.trim s, Text.isInfix_trim s, (Text.isDigits_iff.1 hdigits).2, by omega, ?_⟩
        exact (Except.error.inj h).symm
    · exact absurd h pure_ne_error
  · exact absurd h pure_ne_error

end Fault.ComesFrom

end Crontab
