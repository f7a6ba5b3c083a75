import Crontab.Text.Basic

/-!
# Character ranges

A class of characters outside ASCII is given by a table of code ranges in ascending order.  Both
ends of a range belong to it.
-/

namespace Crontab.Text

/-- A table of character codes: each pair is a first and a last code. -/
abbrev Ranges := List (Nat × Nat)

/-- Whether a character lies in one of the ranges. -/
def Ranges.holds (t : Ranges) (c : Char) : Bool :=
  t.any fun r => decide (r.1 ≤ c.toNat) && decide (c.toNat ≤ r.2)

@[simp] theorem Ranges.holds_nil (c : Char) : Ranges.holds [] c = false := rfl

theorem Ranges.holds_cons (r : Nat × Nat) (t : Ranges) (c : Char) :
    Ranges.holds (r :: t) c = (decide (r.1 ≤ c.toNat) && decide (c.toNat ≤ r.2) || t.holds c) := rfl

theorem Ranges.holds_iff {t : Ranges} {c : Char} :
    t.holds c = true ↔ ∃ r ∈ t, r.1 ≤ c.toNat ∧ c.toNat ≤ r.2 := by
  simp [Ranges.holds]

end Crontab.Text
