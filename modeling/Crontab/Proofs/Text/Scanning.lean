import Mathlib.Data.List.TakeWhile
import Crontab.Proofs.Text.Rewriting
import Crontab.Text.Scan

/-!
# What readers take from a text

A reader that succeeds leaves an end of the text, and a search hands a reader an end of the text too, so
whatever a chain of readers finds is a part of the text that was searched.

What `Text.decimals?` takes is a run of decimal digits of any script.  None of these is blank
(`Text.isBlank_of_isDecimal`), and those of ASCII are the digits of a number
(`Text.isDigit_of_isDecimal`).
-/

namespace Crontab

namespace Text

variable {s t : Text} {c : Char}

/-! ## Ends of a text -/

lemma suffix_of_find? {α : Type} {read : Option Char → Text → Option α} {a : α}
    (h : find? read s = some a) : ∃ before t, t <:+ s ∧ read before t = some a := by
  have hsearch : ∀ before, search read before s = some a →
      ∃ before t, t <:+ s ∧ read before t = some a := by
    clear h
    induction s with
    | nil => exact fun before h => ⟨before, [], List.suffix_refl _, h⟩
    | cons c s ih =>
      intro before h
      rw [search] at h
      split at h
      · next hread =>
        obtain rfl := Option.some.inj h
        exact ⟨before, c :: s, List.suffix_refl _, hread⟩
      · obtain ⟨before, t, ht, hread⟩ := ih _ h
        exact ⟨before, t, ht.trans (List.suffix_cons c s), hread⟩
  exact hsearch none h

lemma suffix_of_skip? {mark : Text} (h : skip? mark s = some t) : t <:+ s :=
  ⟨mark, (eq_append_of_skip? h).symm⟩

lemma suffix_of_wordStart? {mark : Text} {before : Option Char}
    (h : wordStart? mark before s = some t) : t <:+ s := by
  unfold wordStart? at h
  split at h
  · exact suffix_of_skip? h
  · simp at h

lemma suffix_of_skipBlanks? (h : skipBlanks? s = some t) : t <:+ s := by
  unfold skipBlanks? at h
  split at h
  · split at h
    · rw [← Option.some.inj h]
      exact (List.dropWhile_suffix isBlank).trans (List.suffix_cons _ _)
    · simp at h
  · simp at h

/-! ## Decimal digits -/

lemma prefix_of_decimals? {r : Text} (h : decimals? s = some (t, r)) :
    t <+: s ∧ t ≠ [] ∧ ∀ c ∈ t, isDecimal c = true := by
  unfold decimals? at h
  split at h
  · simp at h
  · next hne =>
    obtain ⟨rfl, -⟩ := Prod.mk.inj (Option.some.inj h)
    exact ⟨List.takeWhile_prefix _, hne, fun c => List.mem_takeWhile_imp⟩

/-- The decimal digits of ASCII are the digits of numbers. -/
lemma isDigit_of_isDecimal (hc : c.toNat < 128) (h : isDecimal c = true) : c.isDigit = true := by
  by_contra hdigit
  simp [isDecimal, decimal?, hc, hdigit] at h

/-- The digits of a script are apart from the blanks. -/
lemma zeros_apart_blanks :
    ∀ z ∈ zeros, ∀ r ∈ blankRanges, r.2 < z ∨ z + 10 ≤ r.1 := by
  decide

/-- No decimal digit is blank. -/
lemma isBlank_of_isDecimal (h : isDecimal c = true) : isBlank c = false := by
  by_cases hc : c.toNat < 128
  · exact forall_ascii (P := fun c => c.isDigit = true → isBlank c = false) (by decide) hc
      (isDigit_of_isDecimal hc h)
  · obtain ⟨v, hv⟩ := Option.isSome_iff_exists.1 h
    rw [decimal?, if_neg hc] at hv
    obtain ⟨z, hz, -⟩ := Option.map_eq_some_iff.1 hv
    have hrange := List.find?_some hz
    simp only [Bool.and_eq_true, decide_eq_true_eq] at hrange
    rw [← Bool.not_eq_true, isBlank, Ranges.holds_iff]
    rintro ⟨r, hr, hfirst, hlast⟩
    rcases zeros_apart_blanks z (List.mem_of_find?_eq_some hz) r hr with hbehind | hbefore <;> omega

end Text

/-- What is found in a table is an entry of it. -/
lemma mem_of_lookup {α : Type} {table : List (Text × α)} {k : Text} {v : α}
    (h : table.lookup k = some v) : (k, v) ∈ table := by
  obtain ⟨before, after, rfl, -⟩ := List.lookup_eq_some_iff.1 h
  simp

end Crontab
