/-!
# Texts

Everything the library reads and writes is a *text*: the list of its characters.  A schedule, a
phrase or a calendar specification is short, and every rule about it is a rule about characters from
left to right, so lists are the form in which the rules can be read and reasoned about.

The operations here know nothing about any character class: cutting at a mark, splitting at a
separator, joining, replacing, and looking for an occurrence.  Each is a structural recursion on the
text, and the small facts behind each definition say what it does on the empty text and on a first
character.
-/

namespace Crontab

/-- A text, as the list of its characters. -/
abbrev Text := List Char

/-- A string literal may stand where a text is expected. -/
instance : Coe String Text := ⟨String.toList⟩

namespace Text

/-! ## Occurrences -/

/-- Whether `mark` occurs somewhere in a text. -/
def occursIn (mark : Text) : Text → Bool
  | [] => mark.isEmpty
  | x :: s => mark.isPrefixOf (x :: s) || occursIn mark s

/-- The text behind `mark`, if the text starts with `mark`. -/
def skip? : Text → Text → Option Text
  | [], s => some s
  | _ :: _, [] => none
  | m :: ms, x :: s => if m = x then skip? ms s else none

@[simp] theorem skip?_nil (s : Text) : skip? [] s = some s := rfl

theorem skip?_append (mark s : Text) : skip? mark (mark ++ s) = some s := by
  induction mark with
  | nil => rfl
  | cons m ms ih => simpa [skip?] using ih

theorem eq_append_of_skip? {mark s r : Text} (h : skip? mark s = some r) : s = mark ++ r := by
  fun_induction skip? mark s with
  | case1 s => simpa using h
  | case2 => simp at h
  | case3 ms x s ih => simp [ih h]
  | case4 m ms x s hne => simp at h

theorem skip?_eq_some_iff {mark s r : Text} : skip? mark s = some r ↔ s = mark ++ r :=
  ⟨eq_append_of_skip?, fun h => h ▸ skip?_append mark r⟩

/-! ## Cutting and splitting -/

/-- The part of a text before the first occurrence of `mark`, and the part behind it when there is
one.  The mark is not empty wherever the library cuts. -/
def cut (mark : Text) : Text → Text × Option Text
  | [] => ([], none)
  | x :: s =>
    match skip? mark (x :: s) with
    | some rest => ([], some rest)
    | none => (x :: (cut mark s).1, (cut mark s).2)

/-- The pieces between the occurrences of a separating character; a text without the separator is
one piece, the empty text included. -/
def pieces (sep : Char) : Text → List Text
  | [] => [[]]
  | x :: s =>
    if x = sep then [] :: pieces sep s
    else
      match pieces sep s with
      | [] => [[x]]
      | p :: ps => (x :: p) :: ps

theorem pieces_ne_nil (sep : Char) (s : Text) : pieces sep s ≠ [] := by
  cases s with
  | nil => simp [pieces]
  | cons x s =>
    simp only [pieces]
    split
    · simp
    · split <;> simp

/-- The texts one after the other, with `sep` between them. -/
def join (sep : Text) : List Text → Text
  | [] => []
  | [t] => t
  | t :: u :: ts => t ++ sep ++ join sep (u :: ts)

@[simp] theorem join_nil (sep : Text) : join sep [] = [] := rfl

@[simp] theorem join_singleton (sep t : Text) : join sep [t] = t := rfl

theorem join_cons_cons (sep t u : Text) (ts : List Text) :
    join sep (t :: u :: ts) = t ++ sep ++ join sep (u :: ts) := rfl

/-! ## Replacing -/

/-- Replace the occurrences of `mark` by `fresh`, from left to right and without overlap.  The counter
says how many characters of an occurrence are still to be passed over. -/
def replaceFrom (mark fresh : Text) : Nat → Text → Text
  | _, [] => []
  | n + 1, _ :: s => replaceFrom mark fresh n s
  | 0, x :: s =>
    if mark.isPrefixOf (x :: s) then fresh ++ replaceFrom mark fresh (mark.length - 1) s
    else x :: replaceFrom mark fresh 0 s

/-- Replace every occurrence of `mark`, from left to right and without overlap. -/
def replaceAll (mark fresh s : Text) : Text := replaceFrom mark fresh 0 s

/-! ## Layout -/

/-- `n` times the same character. -/
def fill (n : Nat) (c : Char) : Text := List.replicate n c

/-- The text, filled up with `c` on the left to a width. -/
def padLeft (width : Nat) (c : Char) (s : Text) : Text := fill (width - s.length) c ++ s

end Text

end Crontab
