import Mathlib.Tactic
import Crontab.Fault

/-!
# Computations that answer

A computation either stops with a `Fault` or answers.  A sequence of computations answers exactly
when each of them does; the lemmas here take such a sequence apart, so that no proof has to look at
the faults on the way.
-/

namespace Crontab

variable {α β : Type}

lemma bind_eq_ok_iff {x : Except Fault α} {g : α → Except Fault β} {b : β} :
    x >>= g = .ok b ↔ ∃ a, x = .ok a ∧ g a = .ok b := by
  cases x <;> simp [bind, Except.bind]

lemma pure_eq_ok_iff {a b : α} : (pure a : Except Fault α) = .ok b ↔ a = b := by
  simp [pure, Except.pure]

@[simp] lemma ok_bind (a : α) (g : α → Except Fault β) : (Except.ok a >>= g) = g a := rfl

lemma eq_ok_of_toOption {x : Except β α} {a : α} (h : x.toOption = some a) : x = .ok a := by
  cases x with
  | error b => simp [Except.toOption] at h
  | ok b => simpa [Except.toOption] using h

/-- A computation for each entry of a list answers exactly when each of them does. -/
lemma mapM_eq_ok_iff {g : α → Except Fault β} {l : List α} {r : List β} :
    l.mapM g = .ok r ↔ List.Forall₂ (fun a b => g a = .ok b) l r := by
  induction l generalizing r with
  | nil => simp [pure, Except.pure, eq_comm]
  | cons a l ih =>
    rw [List.mapM_cons, bind_eq_ok_iff]
    constructor
    · rintro ⟨b, hb, h⟩
      obtain ⟨bs, hbs, h⟩ := bind_eq_ok_iff.1 h
      obtain rfl := pure_eq_ok_iff.1 h
      exact .cons hb (ih.1 hbs)
    · rintro (_ | ⟨hb, hbs⟩)
      exact ⟨_, hb, bind_eq_ok_iff.2 ⟨_, ih.2 hbs, rfl⟩⟩

/-- When each entry of a list has an answer of a kind, so has the list. -/
lemma exists_mapM_of_forall {g : α → Except Fault β} {P : β → Prop} {l : List α}
    (h : ∀ a ∈ l, ∃ b, g a = .ok b ∧ P b) : ∃ r, l.mapM g = .ok r ∧ ∀ b ∈ r, P b := by
  induction l with
  | nil => exact ⟨[], rfl, by simp⟩
  | cons a l ih =>
    rw [List.forall_mem_cons] at h
    obtain ⟨b, hb, hPb⟩ := h.1
    obtain ⟨r, hr, hPr⟩ := ih h.2
    refine ⟨b :: r, ?_, List.forall_mem_cons.2 ⟨hPb, hPr⟩⟩
    rw [List.mapM_cons, hb, ok_bind, hr]
    rfl

/-! ## Where a fault comes from -/

lemma bind_eq_error_iff {x : Except Fault α} {g : α → Except Fault β} {e : Fault} :
    x >>= g = .error e ↔ x = .error e ∨ ∃ a, x = .ok a ∧ g a = .error e := by
  cases x <;> simp [bind, Except.bind]

lemma pure_ne_error {a : α} {e : Fault} : (pure a : Except Fault α) ≠ .error e := by
  simp [pure, Except.pure]

/-- When the computations for the entries of a list stop, one of them stops. -/
lemma exists_of_mapM_eq_error {g : α → Except Fault β} {l : List α} {e : Fault}
    (h : l.mapM g = .error e) : ∃ a ∈ l, g a = .error e := by
  induction l with
  | nil => simp [pure, Except.pure] at h
  | cons a l ih =>
    rw [List.mapM_cons] at h
    rcases bind_eq_error_iff.1 h with h | ⟨b, -, h⟩
    · exact ⟨a, List.mem_cons_self, h⟩
    · rcases bind_eq_error_iff.1 h with h | ⟨bs, -, h⟩
      · obtain ⟨x, hx, hstop⟩ := ih h
        exact ⟨x, List.mem_cons_of_mem a hx, hstop⟩
      · exact absurd h pure_ne_error

/-! ## Lists that belong together entry by entry -/

lemma exists_of_forall₂ {α β : Type} {R : α → β → Prop} {l : List α} {r : List β}
    (h : List.Forall₂ R l r) {a : α} (ha : a ∈ l) : ∃ b ∈ r, R a b := by
  induction h with
  | nil => simp at ha
  | @cons x y l r hxy _ ih =>
    rcases List.mem_cons.1 ha with rfl | ha
    · exact ⟨y, List.mem_cons_self, hxy⟩
    · obtain ⟨b, hb, hab⟩ := ih ha
      exact ⟨b, List.mem_cons_of_mem y hb, hab⟩

lemma exists_of_forall₂_right {α β : Type} {R : α → β → Prop} {l : List α} {r : List β}
    (h : List.Forall₂ R l r) {b : β} (hb : b ∈ r) : ∃ a ∈ l, R a b := by
  induction h with
  | nil => simp at hb
  | @cons x y l r hxy _ ih =>
    rcases List.mem_cons.1 hb with rfl | hb
    · exact ⟨x, List.mem_cons_self, hxy⟩
    · obtain ⟨a, ha, hab⟩ := ih hb
      exact ⟨a, List.mem_cons_of_mem x ha, hab⟩

/-- Only the entries of the first list matter for which relation holds. -/
lemma forall₂_congr_of_mem {α β : Type} {R S : α → β → Prop} {l : List α} {r : List β}
    (h : ∀ a ∈ l, ∀ b, R a b ↔ S a b) : List.Forall₂ R l r ↔ List.Forall₂ S l r := by
  induction l generalizing r with
  | nil => simp
  | cons a l ih =>
    rw [List.forall_mem_cons] at h
    cases r with
    | nil => simp
    | cons b r => rw [List.forall₂_cons, List.forall₂_cons, h.1, ih h.2]

lemma forall₂_trans {α β γ : Type} {R : α → β → Prop} {S : β → γ → Prop} {T : α → γ → Prop}
    {l : List α} {m : List β} {r : List γ} (hlm : List.Forall₂ R l m) (hmr : List.Forall₂ S m r)
    (h : ∀ a b, ∀ c ∈ r, R a b → S b c → T a c) : List.Forall₂ T l r := by
  induction hlm generalizing r with
  | nil =>
    cases hmr
    exact .nil
  | cons hab _ ih =>
    cases hmr with
    | cons hbc hrest =>
      exact .cons (h _ _ _ List.mem_cons_self hab hbc)
        (ih hrest fun a b c hc => h a b c (List.mem_cons_of_mem _ hc))

end Crontab
