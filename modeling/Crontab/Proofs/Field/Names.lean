import Crontab.Proofs.Field.Stored

/-!
# Names in a field

Names are replaced one after the other, each in the whole text, so it is not obvious what becomes of a
text in which names and digits touch.  `Glued` says it without any replacing: a text is cut into names
and digits from left to right, and each name stands for its digits.  `glued_iff` says that this is
what the replacement does, when nothing but digits is left.  It rests on a property of the tables:
a name cannot begin inside one name and end in what follows it (`NamesApart`).

Names are ASCII, and so is every text that becomes a field in its stored form
(`Field.ascii_of_normalize`): the characters that lower-casing brings into ASCII are in no name.
-/

namespace Crontab

/-! ## Names and digits -/

/-- Names and digits one after the other, with the digits that stand for them. -/
inductive Glued (names : List (Text × ℕ)) : Text → Text → Prop
  | nil : Glued names [] []
  | digit {c : Char} {t d : Text} (hc : c.isDigit = true) (h : Glued names t d) :
    Glued names (c :: t) (c :: d)
  | name {n : Text × ℕ} {t d : Text} (hn : n ∈ names) (h : Glued names t d) :
    Glued names (n.1 ++ t) (natText n.2 ++ d)

/-- Names of three letters, of which none begins inside another and ends in the next. -/
structure NamesApart (names : List (Text × ℕ)) : Prop where
  length : ∀ n ∈ names, n.1.length = 3
  letters : ∀ n ∈ names, ∀ c ∈ n.1, c.isDigit = false
  distinct : names.Pairwise fun m n => m.1 ≠ n.1
  apart : ∀ n ∈ names, ∀ m ∈ names, ∀ l ∈ names, ∀ i ∈ [1, 2], ¬ n.1 <+: m.1.drop i ++ l.1

lemma namesApart (p : Position) : NamesApart p.names := by
  have hlength : ∀ n ∈ p.names, n.1.length = 3 := by cases p <;> decide
  -- two names overlap rarely, and then no name goes on as the second one does
  have hends : ∀ n ∈ p.names, ∀ m ∈ p.names, ∀ i ∈ [1, 2], n.1.take (3 - i) = m.1.drop i →
      ∀ l ∈ p.names, n.1.drop (3 - i) ≠ l.1.take i := by
    cases p <;> decide
  refine ⟨hlength, by cases p <;> decide, by cases p <;> decide, fun n hn m hm l hl i hi hpart => ?_⟩
  have hdrop : (m.1.drop i).length = 3 - i := by rw [List.length_drop, hlength m hm]
  have hrest : 3 - (3 - i) = i := by
    simp at hi
    omega
  have hsplit : n.1 = m.1.drop i ++ l.1.take i := by
    rw [List.prefix_iff_eq_take.1 hpart, hlength n hn, List.take_append, hdrop, hrest,
      List.take_of_length_le (by omega)]
  refine hends n hn m hm i hi ?_ l hl ?_
  · rw [hsplit, ← hdrop, List.take_left]
  · rw [hsplit, ← hdrop, List.drop_left]

namespace NamesApart

variable {n : Text × ℕ} {names : List (Text × ℕ)}

lemma tail (h : NamesApart (n :: names)) : NamesApart names where
  length m hm := h.length m (List.mem_cons_of_mem n hm)
  letters m hm := h.letters m (List.mem_cons_of_mem n hm)
  distinct := (List.pairwise_cons.1 h.distinct).2
  apart m hm k hk l hl := h.apart m (List.mem_cons_of_mem n hm) k (List.mem_cons_of_mem n hk) l
    (List.mem_cons_of_mem n hl)

lemma ne_nil (h : NamesApart names) (hn : n ∈ names) : n.1 ≠ [] := by
  intro hnil
  have hlength := h.length n hn
  simp [hnil] at hlength

end NamesApart

namespace Glued

variable {names : List (Text × ℕ)} {n : Text × ℕ} {t u d x : Text}

lemma isDigit_of_mem (h : Glued names t d) : ∀ c ∈ d, c.isDigit = true := by
  induction h with
  | nil => simp
  | digit hc _ ih => exact List.forall_mem_cons.2 ⟨hc, ih⟩
  | name hn _ ih => exact List.forall_mem_append.2 ⟨fun c => isDigit_of_mem_natText, ih⟩

/-- Digits stand for themselves. -/
lemma digits (hx : ∀ c ∈ x, c.isDigit = true) (h : Glued names t d) :
    Glued names (x ++ t) (x ++ d) := by
  induction x with
  | nil => exact h
  | cons c x ih =>
    rw [List.forall_mem_cons] at hx
    exact .digit hx.1 (ih hx.2)

/-- Digits in front have been put there as digits. -/
lemma of_digits (hnames : NamesApart names) (hx : ∀ c ∈ x, c.isDigit = true)
    (h : Glued names (x ++ t) d) : ∃ d', d = x ++ d' ∧ Glued names t d' := by
  induction x generalizing d with
  | nil => exact ⟨d, rfl, h⟩
  | cons c x ih =>
    rw [List.forall_mem_cons] at hx
    generalize hs : c :: x ++ t = s at h
    cases h with
    | nil => simp at hs
    | digit _ h =>
      obtain ⟨rfl, rfl⟩ := List.cons.inj hs
      obtain ⟨d', rfl, hrest⟩ := ih hx.2 h
      exact ⟨d', rfl, hrest⟩
    | @name n u d hn h =>
      obtain ⟨a, as, ha⟩ := List.exists_cons_of_ne_nil (hnames.ne_nil hn)
      rw [ha] at hs
      obtain ⟨rfl, -⟩ := List.cons.inj hs
      have hletter := hnames.letters n hn c (ha ▸ List.mem_cons_self)
      exact absurd hx.1 (by simp [hletter])

/-! ### One name -/

/-- A name does not begin inside another one, whatever names and digits follow. -/
lemma not_prefix_drop (hnames : NamesApart names) (hn : n ∈ names) {m : Text × ℕ} (hm : m ∈ names)
    {i : ℕ} (hi : i ∈ [1, 2]) (h : Glued names t d) : ¬ n.1 <+: m.1.drop i ++ t := by
  intro hprefix
  have hn3 := hnames.length n hn
  have hdrop : (m.1.drop i).length < 3 := by
    rw [List.length_drop, hnames.length m hm]
    simp at hi
    omega
  cases h with
  | nil =>
    have hle := hprefix.length_le
    rw [List.append_nil] at hle
    omega
  | @digit c t d hc h =>
    -- the name would reach up to the digit, but it has letters only
    have hmem : c ∈ n.1 := by
      have hfront : m.1.drop i ++ [c] <+: n.1 :=
        List.prefix_of_prefix_length_le ⟨t, by simp⟩ hprefix
          (by rw [List.length_append, List.length_singleton]; omega)
      exact hfront.subset (by simp)
    exact absurd hc (by simp [hnames.letters n hn c hmem])
  | @name l t d hl h =>
    -- the name would lie across the seam of two others
    refine hnames.apart n hn m hm l hl i hi ?_
    rw [← List.append_assoc] at hprefix
    refine List.prefix_of_prefix_length_le hprefix (List.prefix_append _ _) ?_
    rw [List.length_append, hnames.length l hl]
    omega

/-- Replacing one name leaves the other names and the digits. -/
lemma replaceAll (hnames : NamesApart (n :: names)) (h : Glued (n :: names) t d) :
    Glued names (Text.replaceAll n.1 (natText n.2) t) d := by
  have hn : n ∈ n :: names := List.mem_cons_self
  have hne := hnames.ne_nil hn
  induction h with
  | nil => exact .nil
  | @digit c t d hc h ih =>
    rw [Text.replaceAll_cons]
    · exact .digit hc ih
    · intro hprefix
      obtain ⟨a, as, ha⟩ := List.exists_cons_of_ne_nil hne
      have hac : a = c := (List.cons_prefix_cons.1 (ha ▸ hprefix)).1
      have hletter := hnames.letters n hn a (ha ▸ List.mem_cons_self)
      exact absurd hc (by simp [← hac, hletter])
  | @name m t d hm h ih =>
    rcases List.mem_cons.1 hm with rfl | hrest
    · rw [Text.replaceAll_append_self hne]
      exact digits (fun c => isDigit_of_mem_natText) ih
    · -- another name stays: it is not this one, and this one does not begin inside it
      rw [Text.replaceAll_append_of_not_prefix]
      · exact .name hrest ih
      · intro i hi hprefix
        have hlength := hnames.length m hm
        rcases Nat.eq_zero_or_pos i with rfl | hpos
        · have hsame : n.1.length = m.1.length := by rw [hlength, hnames.length n hn]
          have heq : n.1 = m.1 := (List.prefix_of_prefix_length_le hprefix (List.prefix_append _ _)
            hsame.le).eq_of_length hsame
          exact (List.pairwise_cons.1 hnames.distinct).1 m hrest heq
        · refine not_prefix_drop hnames hn hm ?_ h hprefix
          rw [hlength] at hi
          simp
          omega

/-- Letters that are left after replacing were there before, at the same place. -/
lemma exists_of_replaceAll_eq_append {mark fresh : Text} (hmark : mark ≠ []) (hfresh : fresh ≠ [])
    (hdigits : ∀ c ∈ fresh, c.isDigit = true) (hx : ∀ c ∈ x, c.isDigit = false)
    (h : Text.replaceAll mark fresh t = x ++ u) :
    ∃ v, t = x ++ v ∧ Text.replaceAll mark fresh v = u := by
  induction x generalizing t with
  | nil => exact ⟨t, rfl, h⟩
  | cons a x ih =>
    rw [List.forall_mem_cons] at hx
    by_cases hprefix : mark <+: t
    · obtain ⟨v, rfl⟩ := hprefix
      obtain ⟨c, cs, rfl⟩ := List.exists_cons_of_ne_nil hfresh
      rw [Text.replaceAll_append_self hmark] at h
      obtain ⟨rfl, -⟩ := List.cons.inj h
      exact absurd (hdigits c List.mem_cons_self) (by simp [hx.1])
    · cases t with
      | nil => simp [Text.replaceAll, Text.replaceFrom] at h
      | cons c t =>
        rw [Text.replaceAll_cons hprefix] at h
        obtain ⟨rfl, hrest⟩ := List.cons.inj h
        obtain ⟨v, rfl, hv⟩ := ih hx.2 hrest
        exact ⟨v, rfl, hv⟩

/-- What is names and digits once a name has been replaced was names and digits before. -/
lemma of_replaceAll (hnames : NamesApart (n :: names))
    (h : Glued names (Text.replaceAll n.1 (natText n.2) t) d) : Glued (n :: names) t d := by
  have hn : n ∈ n :: names := List.mem_cons_self
  have hne := hnames.ne_nil hn
  -- by the length of the text, since a name takes three characters away at once
  induction hlength : t.length using Nat.strong_induction_on generalizing t d with
  | _ k ih =>
    by_cases hprefix : n.1 <+: t
    · obtain ⟨v, rfl⟩ := hprefix
      rw [Text.replaceAll_append_self hne] at h
      obtain ⟨d', rfl, hrest⟩ := h.of_digits hnames.tail fun c => isDigit_of_mem_natText
      refine .name hn (ih v.length ?_ hrest rfl)
      have hpos := List.length_pos_of_ne_nil hne
      rw [List.length_append] at hlength
      omega
    · generalize hr : Text.replaceAll n.1 (natText n.2) t = r at h
      cases h with
      | nil =>
        cases t with
        | nil => exact .nil
        | cons c t =>
          rw [Text.replaceAll_cons hprefix] at hr
          simp at hr
      | @digit c u d hc h =>
        cases t with
        | nil => simp [Text.replaceAll, Text.replaceFrom] at hr
        | cons a t =>
          rw [Text.replaceAll_cons hprefix] at hr
          obtain ⟨rfl, rfl⟩ := List.cons.inj hr
          refine .digit hc (ih t.length ?_ h rfl)
          rw [List.length_cons] at hlength
          omega
      | @name m u d hm h =>
        have hm' := List.mem_cons_of_mem n hm
        -- replacing makes digits only, so this name was there before
        obtain ⟨v, rfl, rfl⟩ := exists_of_replaceAll_eq_append hne (natText_ne_nil n.2)
          (fun c => isDigit_of_mem_natText) (hnames.letters m hm') hr
        refine .name hm' (ih v.length ?_ h rfl)
        have hpos := List.length_pos_of_ne_nil (hnames.ne_nil hm')
        rw [List.length_append] at hlength
        omega

end Glued

/-- **Replacing the names, one after the other, leaves digits exactly when the text is names and digits
one after the other**, and these are the digits that they stand for. -/
theorem glued_iff {p : Position} {t d : Text} :
    Glued p.names t d ↔ Field.replaceNames p t = d ∧ ∀ c ∈ d, c.isDigit = true := by
  have hnames := namesApart p
  unfold Field.replaceNames
  generalize p.names = names at hnames
  induction names generalizing t with
  | nil =>
    constructor
    · intro h
      refine ⟨?_, h.isDigit_of_mem⟩
      induction h with
      | nil => rfl
      | digit _ _ ih => exact congrArg (List.cons _) ih
      | name hn => exact absurd hn List.not_mem_nil
    · rintro ⟨rfl, hdigits⟩
      have h : Glued [] (t ++ []) (t ++ []) := .digits hdigits .nil
      rwa [List.append_nil] at h
  | cons n names ih =>
    -- each name that is replaced leaves an equivalent question about the others
    have hone : Glued (n :: names) t d ↔
        Glued names (Text.replaceAll n.1 (natText n.2) t) d :=
      ⟨Glued.replaceAll hnames, Glued.of_replaceAll hnames⟩
    exact hone.trans (ih hnames.tail)

/-! ## ASCII -/

namespace Field

variable {p : Position} {s : Text}

/-- A character that is in no name is kept. -/
lemma mem_replaceNames_of_notMem {c : Char} (hnames : ∀ n ∈ p.names, c ∉ n.1) (hc : c ∈ s) :
    c ∈ replaceNames p s := by
  have hne : ∀ n ∈ p.names, n.1 ≠ [] := fun n => (namesApart p).ne_nil
  unfold replaceNames
  generalize p.names = names at hnames hne
  induction names generalizing s with
  | nil => exact hc
  | cons n names ih =>
    rw [List.forall_mem_cons] at hnames hne
    exact ih (Text.mem_replaceAll_of_notMem hne.1 hnames.1 hc) hnames.2 hne.2

/-- The codes of the letters of names. -/
lemma code_of_mem_names (p : Position) :
    ∀ n ∈ p.names, ∀ c ∈ n.1, c.toNat < 128 ∧ c.toNat ≠ 'k'.toNat ∧ c.toNat ≠ 0 := by
  cases p <;> decide

/-- Lower-casing a character outside ASCII gives a character that is in no field and in no name. -/
lemma exists_foreign_of_mem {c : Char} (hc : c ∈ s) (houtside : ¬ c.toNat < 128) :
    ∃ d ∈ Text.lower s, 128 ≤ d.toNat ∨ d.toNat = 'k'.toNat ∨ d.toNat = 0 := by
  have hafter : ∀ before, ∃ d ∈ Text.lowerAfter before s,
      128 ≤ d.toNat ∨ d.toNat = 'k'.toNat ∨ d.toNat = 0 := by
    induction s with
    | nil => simp at hc
    | cons a s ih =>
      intro before
      rw [Text.lowerAfter]
      rcases List.mem_cons.1 hc with rfl | hc
      · split
        · exact ⟨'ς', by simp, .inl (by decide)⟩
        · -- `İ` leaves a dot above, and the Kelvin sign becomes a `k`
          rcases Text.lowerChar_outside houtside with ⟨-, hlower⟩ | ⟨-, hlower⟩ | ⟨d, hlower, hd⟩
          · exact ⟨'\u0307', by simp [hlower], .inl (by decide)⟩
          · exact ⟨'k', by simp [hlower], .inr (.inl rfl)⟩
          · exact ⟨d, by simp [hlower], hd.imp_right .inr⟩
      · obtain ⟨d, hd, hcode⟩ := ih hc (a :: before)
        exact ⟨d, List.mem_append_right _ hd, hcode⟩
  exact hafter []

/-- A text that becomes a field in its stored form is ASCII. -/
theorem ascii_of_normalize (h : ∀ c ∈ normalize p s, isFieldChar c = true) :
    ∀ c ∈ s, c.toNat < 128 := by
  intro c hc
  by_contra houtside
  obtain ⟨d, hd, hcode⟩ := exists_foreign_of_mem hc houtside
  -- what is in no name is not replaced
  have hkept : d ∈ normalize p s := by
    refine mem_replaceNames_of_notMem (fun n hn hmem => ?_) hd
    obtain ⟨hascii, hk, hzero⟩ := code_of_mem_names p n hn d hmem
    omega
  have hascii := toNat_lt_of_isFieldChar (h d hkept)
  have hk : d ≠ 'k' := by
    rintro rfl
    exact absurd (h _ hkept) (by decide)
  have hzero : d ≠ Char.ofNat 0 := by
    rintro rfl
    exact absurd (h _ hkept) (by decide)
  rw [Ne, ← Char.toNat_inj] at hk hzero
  change d.toNat ≠ 0 at hzero
  omega

end Field

end Crontab
