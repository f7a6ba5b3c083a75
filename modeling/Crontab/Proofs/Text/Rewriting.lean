import Mathlib.Tactic
import Crontab.Text.Blank
import Crontab.Text.Digit
import Crontab.Text.Lower

/-!
# Replacing and lower-casing

Before a field is read, it is put into lower case and names are replaced by numbers.  Both change
characters only: they never bring in a blank (`isBlank_of_mem_lower`), and what stands on the two sides
of a character that is in no name is replaced on its own (`replaceAll_append`).  A text in which no
name can start stays as it is (`replaceAll_of_notMem`).
-/

namespace Crontab.Text

/-! ## Replacing -/

section Replacing

variable {mark fresh : Text}

lemma replaceAll_of_notMem {m : Char} {ms s : Text} (h : m ∉ s) :
    replaceAll (m :: ms) fresh s = s := by
  unfold replaceAll
  induction s with
  | nil => rfl
  | cons c s ih =>
    have hc : m ≠ c := fun e => h (by simp [e])
    rw [replaceFrom, ih fun hs => h (List.mem_cons_of_mem c hs)]
    simp [hc]

lemma mem_replaceFrom {n : Nat} {s : Text} {c : Char} (h : c ∈ replaceFrom mark fresh n s) :
    c ∈ s ∨ c ∈ fresh := by
  fun_induction replaceFrom mark fresh n s with
  | case1 => simp at h
  | case2 n d s ih => exact (ih h).imp_left (List.mem_cons_of_mem d)
  | case3 d s hprefix ih =>
    rcases List.mem_append.1 h with h | h
    · exact .inr h
    · exact (ih h).imp_left (List.mem_cons_of_mem d)
  | case4 d s hprefix ih =>
    rcases List.mem_cons.1 h with rfl | h
    · exact .inl List.mem_cons_self
    · exact (ih h).imp_left (List.mem_cons_of_mem d)

lemma mem_replaceAll {s : Text} {c : Char} (h : c ∈ replaceAll mark fresh s) : c ∈ s ∨ c ∈ fresh :=
  mem_replaceFrom h

/-- An occurrence does not go past a character that is not in the mark. -/
lemma isPrefixOf_append {c : Char} (hc : c ∉ mark) (s t : Text) :
    mark.isPrefixOf (s ++ c :: t) = mark.isPrefixOf s := by
  induction mark generalizing s with
  | nil => simp
  | cons m mark ih =>
    have hm : m ≠ c := fun e => hc (by simp [e])
    cases s with
    | nil => simp [List.isPrefixOf, hm]
    | cons d s => simp [List.isPrefixOf, ih (fun h => hc (List.mem_cons_of_mem m h)) s]

lemma replaceFrom_append {c : Char} (hne : mark ≠ []) (hc : c ∉ mark) {n : Nat} {s : Text}
    (hn : n ≤ s.length) (t : Text) :
    replaceFrom mark fresh n (s ++ c :: t) =
      replaceFrom mark fresh n s ++ c :: replaceFrom mark fresh 0 t := by
  induction s generalizing n with
  | nil =>
    obtain rfl : n = 0 := by simpa using hn
    have hprefix := isPrefixOf_append hc [] t
    have hnil : mark.isPrefixOf [] = false := by
      cases mark with
      | nil => exact absurd rfl hne
      | cons m mark => rfl
    rw [List.nil_append, hnil] at hprefix
    simp [replaceFrom, hprefix]
  | cons d s ih =>
    cases n with
    | succ n =>
      rw [List.cons_append, replaceFrom, replaceFrom]
      exact ih (by simpa using hn)
    | zero =>
      -- no occurrence reaches over the character `c`
      have hprefix := isPrefixOf_append hc (d :: s) t
      rw [List.cons_append] at hprefix ⊢
      rw [replaceFrom, replaceFrom, hprefix]
      by_cases hd : mark.isPrefixOf (d :: s) = true
      · -- the rest of the occurrence lies in the first of the two texts
        have hlength := (List.isPrefixOf_iff_prefix.1 hd).length_le
        rw [List.length_cons] at hlength
        rw [if_pos hd, if_pos hd, ih (by omega), List.append_assoc]
      · rw [if_neg hd, if_neg hd, ih (Nat.zero_le _), List.cons_append]

/-- Where a character is in no occurrence, the text before it and the text behind it are replaced on
their own. -/
lemma replaceAll_append {c : Char} (hne : mark ≠ []) (hc : c ∉ mark) (s t : Text) :
    replaceAll mark fresh (s ++ c :: t) = replaceAll mark fresh s ++ c :: replaceAll mark fresh t :=
  replaceFrom_append hne hc (Nat.zero_le _) t

/-- A character with which no occurrence starts is kept. -/
lemma replaceAll_cons {c : Char} {s : Text} (h : ¬ mark <+: c :: s) :
    replaceAll mark fresh (c :: s) = c :: replaceAll mark fresh s := by
  rw [replaceAll, replaceFrom, if_neg (by rwa [List.isPrefixOf_iff_prefix]), replaceAll]

/-- Passing over characters leaves the text behind them. -/
lemma replaceFrom_append_of_length (s t : Text) :
    replaceFrom mark fresh s.length (s ++ t) = replaceAll mark fresh t := by
  induction s with
  | nil => rfl
  | cons c s ih => exact ih

/-- An occurrence in front is replaced. -/
lemma replaceAll_append_self (hne : mark ≠ []) (s : Text) :
    replaceAll mark fresh (mark ++ s) = fresh ++ replaceAll mark fresh s := by
  obtain ⟨m, ms, rfl⟩ := List.exists_cons_of_ne_nil hne
  have hprefix : (m :: ms).isPrefixOf (m :: ms ++ s) = true :=
    List.isPrefixOf_iff_prefix.2 (List.prefix_append _ _)
  rw [replaceAll, List.cons_append, replaceFrom, ← List.cons_append, if_pos hprefix]
  exact congrArg (fresh ++ ·) (replaceFrom_append_of_length ms s)

/-- Characters at which no occurrence starts are kept. -/
lemma replaceAll_append_of_not_prefix {s t : Text}
    (h : ∀ i < s.length, ¬ mark <+: s.drop i ++ t) :
    replaceAll mark fresh (s ++ t) = s ++ replaceAll mark fresh t := by
  induction s with
  | nil => rfl
  | cons c s ih =>
    have hfirst : ¬ mark <+: c :: (s ++ t) := h 0 (Nat.zero_lt_succ _)
    have hrest : ∀ i < s.length, ¬ mark <+: s.drop i ++ t := fun i hi =>
      h (i + 1) (Nat.succ_lt_succ hi)
    rw [List.cons_append, replaceAll_cons hfirst, ih hrest, List.cons_append]

/-- A character that is not in the mark is kept. -/
lemma mem_replaceAll_of_notMem {c : Char} {s : Text} (hne : mark ≠ []) (hmark : c ∉ mark)
    (h : c ∈ s) : c ∈ replaceAll mark fresh s := by
  obtain ⟨a, b, rfl⟩ := List.append_of_mem h
  rw [replaceAll_append hne hmark]
  simp

/-- What starts with another character does not start with the mark. -/
lemma skip?_of_head? {m : Char} {ms s : Text} (h : ∀ c ∈ s.head?, c ≠ m) :
    skip? (m :: ms) s = none := by
  cases s with
  | nil => rfl
  | cons c s => exact if_neg (Ne.symm (h c rfl))

/-- A text occurs at its own start. -/
lemma occursIn_append (hne : mark ≠ []) (s : Text) : occursIn mark (mark ++ s) = true := by
  obtain ⟨m, ms, rfl⟩ := List.exists_cons_of_ne_nil hne
  rw [List.cons_append, occursIn, Bool.or_eq_true]
  exact .inl (List.isPrefixOf_iff_prefix.2 ⟨s, rfl⟩)

lemma occursIn_of_notMem {m : Char} {ms s : Text} (h : m ∉ s) : occursIn (m :: ms) s = false := by
  induction s with
  | nil => rfl
  | cons c s ih =>
    have hc : m ≠ c := fun e => h (by simp [e])
    rw [occursIn, ih fun hs => h (List.mem_cons_of_mem c hs)]
    simp [List.isPrefixOf, hc]

end Replacing

/-! ## Lower case -/

/-- The codes of letters. -/
lemma isAlpha_iff {c : Char} : c.isAlpha = true ↔
    'A'.toNat ≤ c.toNat ∧ c.toNat ≤ 'Z'.toNat ∨ 'a'.toNat ≤ c.toNat ∧ c.toNat ≤ 'z'.toNat := by
  have hle : ∀ {m n : Char}, m.val ≤ n.val ↔ m.toNat ≤ n.toNat := UInt32.le_iff_toNat_le
  refine Bool.or_eq_true_iff.trans (or_congr ?_ ?_)
  · exact decide_eq_true_iff.trans (and_congr hle hle)
  · exact Bool.and_eq_true_iff.trans
      (and_congr (decide_eq_true_iff.trans hle) (decide_eq_true_iff.trans hle))

/-- Nothing but a letter has another form in lower case, and that is a letter. -/
lemma toLower_cases (c : Char) : c.toLower = c ∨ c.isAlpha = true ∧ c.toLower.isAlpha = true := by
  unfold Char.toLower
  split
  · next h =>
    have hfrom : 65 ≤ c.toNat := UInt32.le_iff_toNat_le.1 h.1
    have hto : c.toNat ≤ 90 := UInt32.le_iff_toNat_le.1 h.2
    have hcode : (c.val + 32).toNat = c.toNat + 32 := by
      rw [UInt32.toNat_add]
      exact Nat.mod_eq_of_lt (show c.toNat + 32 < 2 ^ 32 by omega)
    refine .inr ⟨isAlpha_iff.2 (.inl ⟨hfrom, hto⟩), isAlpha_iff.2 (.inr ?_)⟩
    change 97 ≤ (c.val + 32).toNat ∧ (c.val + 32).toNat ≤ 122
    omega
  · exact .inl rfl

lemma isAlpha_of_toLower {c : Char} (h : c.toLower.isAlpha = true) : c.isAlpha = true := by
  rcases toLower_cases c with heq | ⟨hletter, -⟩
  · rwa [heq] at h
  · exact hletter

lemma isAlpha_toLower {c : Char} (h : c.isAlpha = true) : c.toLower.isAlpha = true := by
  rcases toLower_cases c with heq | ⟨-, hsmall⟩
  · rwa [heq]
  · exact hsmall

lemma isAlphanum_of_toLower {c : Char} (h : c.toLower.isAlphanum = true) : c.isAlphanum = true := by
  rcases toLower_cases c with heq | ⟨hletter, -⟩
  · rwa [heq] at h
  · exact Bool.or_eq_true_iff.2 (.inl hletter)

lemma isDigit_eq_false_of_isAlpha {c : Char} (h : c.isAlpha = true) : c.isDigit = false := by
  rw [isAlpha_iff] at h
  simp [Char.isDigit, UInt32.le_iff_toNat_le] at h ⊢
  omega

/-- A digit is the lower case of itself alone. -/
lemma toLower_of_isDigit {c : Char} (h : c.toLower.isDigit = true) : c.toLower = c := by
  rcases toLower_cases c with heq | ⟨-, hletter⟩
  · exact heq
  · rw [isDigit_eq_false_of_isAlpha hletter] at h
    simp at h

lemma toNat_lt_of_isAlphanum {c : Char} (h : c.isAlphanum = true) : c.toNat < 128 := by
  rcases Bool.or_eq_true_iff.1 h with hletter | hdigit
  · have hcode := isAlpha_iff.1 hletter
    simp at hcode
    omega
  · exact toNat_lt_of_isDigit hdigit

/-- No row of small letters touches a range of blanks. -/
lemma capitalRows_apart : ∀ r ∈ capitalRows, ∀ b ∈ blankRanges,
    r.target + r.count * r.stride ≤ b.1 ∨ b.2 < r.target := by
  decide +kernel

lemma toNat_ofNat (n : Nat) : (Char.ofNat n).toNat = n ∨ (Char.ofNat n).toNat = 0 := by
  by_cases h : n.isValidChar
  · have hchar : Char.ofNat n = Char.ofNatAux n h := dif_pos h
    exact .inl (by rw [hchar]; rfl)
  · have hchar : Char.ofNat n = Char.ofNat 0 := dif_neg h
    exact .inr (by rw [hchar]; rfl)

lemma isBlank_ofNat_of_small? {r : CapitalRow} (hr : r ∈ capitalRows) {n m : Nat}
    (h : r.small? n = some m) : isBlank (Char.ofNat m) = false := by
  unfold CapitalRow.small? at h
  split at h
  · next hrow =>
    obtain rfl := Option.some.inj h
    rw [Bool.eq_false_iff, isBlank, Ne, Ranges.holds_iff]
    rintro ⟨b, hb, hfirst, hlast⟩
    have hapart := capitalRows_apart r hr b hb
    have hpos : ∀ b ∈ blankRanges, 0 < b.1 := by decide
    have := hpos b hb
    rcases toNat_ofNat (r.target + (n - r.first)) with hcode | hcode <;>
      rw [hcode] at hfirst hlast <;> omega
  · simp at h

/-- What is checked number by number holds for every character of ASCII. -/
lemma forall_ascii {P : Char → Prop} (h : ∀ n < 128, P (Char.ofNat n)) {c : Char}
    (hc : c.toNat < 128) : P c := by
  have hP := h c.toNat hc
  rwa [Char.ofNat_toNat] at hP

lemma toNat_toLower_lt {c : Char} (h : c.toNat < 128) : c.toLower.toNat < 128 :=
  forall_ascii (P := fun c => c.toLower.toNat < 128) (by decide +kernel) h

/-- Nothing but a mark itself becomes a mark in lower case. -/
lemma toLower_eq_iff {m c : Char} (hm : m.isAlphanum = false) : c.toLower = m ↔ c = m := by
  have hletter : m.isAlpha = false := by
    simp only [Char.isAlphanum, Bool.or_eq_false_iff] at hm
    exact hm.1
  constructor
  · intro h
    rcases toLower_cases c with heq | ⟨-, hsmall⟩
    · exact heq.symm.trans h
    · simp [h, hletter] at hsmall
  · rintro rfl
    rcases toLower_cases c with heq | ⟨hcapital, -⟩
    · exact heq
    · simp [hletter] at hcapital

/-- A letter of ASCII is no blank, and neither is its small form. -/
lemma isBlank_toLower (c : Char) : isBlank c.toLower = isBlank c := by
  rcases toLower_cases c with heq | ⟨hletter, -⟩
  · rw [heq]
  · have hascii : c.toNat < 128 := toNat_lt_of_isAlphanum (Bool.or_eq_true_iff.2 (.inl hletter))
    exact forall_ascii (P := fun c => isBlank c.toLower = isBlank c) (by decide +kernel) hascii

lemma toLower_toLower (c : Char) : c.toLower.toLower = c.toLower := by
  rcases toLower_cases c with heq | ⟨hletter, -⟩
  · rw [heq, heq]
  · have hascii : c.toNat < 128 := toNat_lt_of_isAlphanum (Bool.or_eq_true_iff.2 (.inl hletter))
    exact forall_ascii (P := fun c => c.toLower.toLower = c.toLower) (by decide +kernel) hascii

lemma lowerAfter_append {s : Text} (h : 'Σ' ∉ s) (before t : Text) :
    lowerAfter before (s ++ t) = s.flatMap lowerChar ++ lowerAfter (s.reverse ++ before) t := by
  induction s generalizing before with
  | nil => rfl
  | cons c s ih =>
    rw [List.mem_cons, not_or] at h
    rw [List.cons_append, lowerAfter, ih h.2]
    simp [Ne.symm h.1]

/-- The small letters outside ASCII are outside ASCII, but for the `k` of the Kelvin sign. -/
lemma capitalRows_outside : ∀ r ∈ capitalRows, 128 ≤ r.target ∨
    r.target = 'k'.toNat ∧ r.first = '\u212A'.toNat ∧ r.count = 1 ∧ r.stride = 1 := by
  decide +kernel

lemma small?_outside {r : CapitalRow} (hr : r ∈ capitalRows) {n m : Nat} (h : r.small? n = some m) :
    128 ≤ m ∨ m = 'k'.toNat ∧ n = '\u212A'.toNat := by
  unfold CapitalRow.small? at h
  split at h
  · next hrow =>
    obtain rfl := Option.some.inj h
    obtain ⟨hfirst, hlast, -⟩ := hrow
    rcases capitalRows_outside r hr with htarget | ⟨htarget, hkelvin, hcount, hstride⟩
    · exact .inl (by omega)
    · rw [hcount, hstride] at hlast
      exact .inr (by omega)
  · simp at h

/-- A character outside ASCII stays outside in lower case, but for two letters: `İ` becomes an `i` with
a dot behind it that is outside, and the Kelvin sign becomes a `k`. -/
lemma lowerChar_outside {c : Char} (hc : ¬ c.toNat < 128) :
    (c = '\u0130' ∧ lowerChar c = ['i', '\u0307']) ∨ (c = '\u212A' ∧ lowerChar c = ['k']) ∨
      ∃ d, lowerChar c = [d] ∧ (128 ≤ d.toNat ∨ d.toNat = 0) := by
  rw [lowerChar, if_neg hc]
  split
  · next hdotted => exact .inl ⟨hdotted, rfl⟩
  · cases hrow : capitalRows.findSome? fun r => r.small? c.toNat with
    | none => exact .inr (.inr ⟨c, rfl, .inl (Nat.le_of_not_lt hc)⟩)
    | some m =>
      obtain ⟨r, hr, hm⟩ := List.exists_of_findSome?_eq_some hrow
      rcases small?_outside hr hm with hm | ⟨rfl, hkelvin⟩
      · refine .inr (.inr ⟨Char.ofNat m, rfl, ?_⟩)
        rcases toNat_ofNat m with hcode | hcode
        · exact .inl (by omega)
        · exact .inr hcode
      · exact .inr (.inl ⟨Char.toNat_inj.1 hkelvin, rfl⟩)

lemma isBlank_of_mem_lowerChar {c d : Char} (hc : isBlank c = false) (hd : d ∈ lowerChar c) :
    isBlank d = false := by
  unfold lowerChar at hd
  split at hd
  · next hascii =>
    rw [List.mem_singleton.1 hd]
    rwa [isBlank_toLower]
  · split at hd
    · rcases List.mem_cons.1 hd with rfl | hd
      · decide
      · rw [List.mem_singleton.1 hd]
        decide
    · rw [List.mem_singleton.1 hd]
      cases hrow : capitalRows.findSome? fun r => r.small? c.toNat with
      | none => exact hc
      | some m =>
        obtain ⟨r, hr, hm⟩ := List.exists_of_findSome?_eq_some hrow
        exact isBlank_ofNat_of_small? hr hm

/-- No capital is a blank. -/
lemma lowerChar_of_isBlank {c : Char} (h : isBlank c = true) : lowerChar c = [c.toLower] := by
  by_cases hc : c.toNat < 128
  · exact lowerChar_of_ascii hc
  · have hdotted : c ≠ '\u0130' := by
      rintro rfl
      exact absurd h (by decide)
    have hletter : c.toLower = c := by
      rcases toLower_cases c with heq | ⟨hletter, -⟩
      · exact heq
      · exact absurd (toNat_lt_of_isAlphanum (Bool.or_eq_true_iff.2 (.inl hletter))) hc
    have hrows : ∀ r ∈ capitalRows, ∀ b ∈ blankRanges,
        r.first + r.count * r.stride ≤ b.1 ∨ b.2 < r.first := by decide +kernel
    have hrow : (capitalRows.findSome? fun r => r.small? c.toNat) = none := by
      rw [List.findSome?_eq_none_iff]
      intro r hr
      obtain ⟨b, hb, hfirst, hlast⟩ := (Ranges.holds_iff ..).1 h
      rw [CapitalRow.small?, if_neg]
      rcases hrows r hr b hb with hapart | hapart <;> omega
    rw [lowerChar, if_neg hc, if_neg hdotted, hrow, hletter]
    rfl

/-- Lower-casing brings in no blank. -/
theorem isBlank_of_mem_lower {s : Text} (h : ∀ c ∈ s, isBlank c = false) :
    ∀ c ∈ lower s, isBlank c = false := by
  have hafter : ∀ before, ∀ c ∈ lowerAfter before s, isBlank c = false := by
    induction s with
    | nil => simp [lowerAfter]
    | cons d s ih =>
      intro before c hc
      rw [lowerAfter, List.mem_append] at hc
      rcases hc with hc | hc
      · split at hc
        · rw [List.mem_singleton.1 hc]
          decide
        · exact isBlank_of_mem_lowerChar (h d List.mem_cons_self) hc
      · exact ih (fun x hx => h x (List.mem_cons_of_mem d hx)) _ c hc
  exact hafter []

/-- Lower-casing keeps the spaces. -/
lemma space_mem_lower {s : Text} (h : ' ' ∈ s) : ' ' ∈ lower s := by
  have hafter : ∀ before, ' ' ∈ lowerAfter before s := by
    induction s with
    | nil => simp at h
    | cons c s ih =>
      intro before
      rw [lowerAfter, List.mem_append]
      rcases List.mem_cons.1 h with rfl | h
      · left
        rw [if_neg (by simp), lowerChar_of_ascii (by decide)]
        decide
      · exact .inr (ih h _)
  exact hafter []

end Crontab.Text
