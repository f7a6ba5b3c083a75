/-!
# Ascending lists

A set of numbers is held as its strictly ascending list: `ascending` sorts a list and drops what
occurs twice.  Two ascending lists with the same members are the same list, so equality of sets is
equality of lists.
-/

namespace Crontab

/-- Put a number at its place in an ascending list, unless it is there already. -/
def insertAscending (v : Nat) : List Nat → List Nat
  | [] => [v]
  | w :: ws =>
    if v < w then v :: w :: ws else if v = w then w :: ws else w :: insertAscending v ws

/-- The members of a list in strictly ascending order, each once. -/
def ascending (vs : List Nat) : List Nat := vs.foldr insertAscending []

@[simp] theorem ascending_nil : ascending [] = [] := rfl

theorem mem_insertAscending {x v : Nat} {ws : List Nat} :
    x ∈ insertAscending v ws ↔ x = v ∨ x ∈ ws := by
  induction ws with
  | nil => simp [insertAscending]
  | cons w ws ih =>
    simp only [insertAscending]
    split
    · simp
    · split
      · next h => simp [h]
      · simp only [List.mem_cons, ih]
        constructor
        · rintro (h | h | h) <;> simp [h]
        · rintro (h | h | h) <;> simp [h]

theorem pairwise_insertAscending {v : Nat} {ws : List Nat} (h : ws.Pairwise (· < ·)) :
    (insertAscending v ws).Pairwise (· < ·) := by
  induction ws with
  | nil => simp [insertAscending]
  | cons w ws ih =>
    simp only [insertAscending]
    have hw := List.pairwise_cons.1 h
    split
    · next hv =>
      refine List.pairwise_cons.2 ⟨fun x hx => ?_, h⟩
      rcases List.mem_cons.1 hx with rfl | hx
      · exact hv
      · exact Nat.lt_trans hv (hw.1 x hx)
    · split
      · exact h
      · next h₁ h₂ =>
        refine List.pairwise_cons.2 ⟨fun x hx => ?_, ih hw.2⟩
        rcases mem_insertAscending.1 hx with rfl | hx
        · omega
        · exact hw.1 x hx

@[simp] theorem mem_ascending {x : Nat} {vs : List Nat} : x ∈ ascending vs ↔ x ∈ vs := by
  induction vs with
  | nil => simp
  | cons v vs ih =>
    change x ∈ insertAscending v (ascending vs) ↔ _
    simp [mem_insertAscending, ih]

theorem pairwise_ascending (vs : List Nat) : (ascending vs).Pairwise (· < ·) := by
  induction vs with
  | nil => simp
  | cons v vs ih => exact pairwise_insertAscending ih

end Crontab
