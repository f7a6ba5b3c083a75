import Crontab.Text.Basic

/-!
# References

A value in a settings file may refer to a variable: `$` and a name in braces stand for the value of
the variable.  Behind the name `:-` and another text may stand, which is taken if there is no such
variable; without it nothing is taken.  Whatever does not have this form stands for itself, and a
value that was put in is not read again.
-/

namespace Crontab

/-- A reference to a variable, and the text that stands in for it if there is none. -/
structure Reference where
  name : Text
  substitute : Text
  deriving DecidableEq, Repr

namespace Reference

/-- Whether a character may stand in the name of a variable. -/
def isNameChar (c : Char) : Bool := c != '\x7d' && c != ':'

/-- Read a reference: it, and the text behind it. -/
def read? : Text → Option (Reference × Text)
  | '$' :: '\x7b' :: s =>
    match s.dropWhile isNameChar with
    | '\x7d' :: rest => some (⟨s.takeWhile isNameChar, []⟩, rest)
    | ':' :: '-' :: s' =>
      match s'.dropWhile (· != '\x7d') with
      | _ :: rest => some (⟨s.takeWhile isNameChar, s'.takeWhile (· != '\x7d')⟩, rest)
      | [] => none
    | _ => none
  | _ => none

/-- A reference takes characters away. -/
theorem length_lt_of_read? {s rest : Text} {r : Reference} (h : read? s = some (r, rest)) :
    rest.length < s.length := by
  unfold read? at h
  split at h
  · rename_i s
    have hs := (List.dropWhile_suffix isNameChar (l := s)).length_le
    split at h
    · rename_i hd
      rw [hd] at hs
      simp only [Option.some.injEq, Prod.mk.injEq] at h
      simp only [List.length_cons, ← h.2] at hs ⊢
      omega
    · rename_i s' hd
      have hs' := (List.dropWhile_suffix (· != '\x7d') (l := s')).length_le
      rw [hd] at hs
      split at h
      · rename_i hd'
        rw [hd'] at hs'
        simp only [Option.some.injEq, Prod.mk.injEq] at h
        simp only [List.length_cons, ← h.2] at hs hs' ⊢
        omega
      · simp at h
    · simp at h
  · simp at h

/-- The text with the value of each variable in the place of the references to it. -/
def resolve (valueOf : Text → Option Text) (s : Text) : Text :=
  match s with
  | [] => []
  | c :: s =>
    match _h : read? (c :: s) with
    | some (r, rest) => (valueOf r.name).getD r.substitute ++ resolve valueOf rest
    | none => c :: resolve valueOf s
termination_by s.length
decreasing_by
  · exact length_lt_of_read? _h
  · simp

/-- The names that a text refers to. -/
def namesIn (s : Text) : List Text :=
  match s with
  | [] => []
  | c :: s =>
    match _h : read? (c :: s) with
    | some (r, rest) => r.name :: namesIn rest
    | none => namesIn s
termination_by s.length
decreasing_by
  · exact length_lt_of_read? _h
  · simp

end Reference

end Crontab
