import Crontab.Text.Ranges

/-!
# Blanks

Blanks are the white space of Unicode together with the four separator controls `U+001C` to
`U+001F`; the zero-width space is none of them.  Fields of an expression, words of a phrase and
parts of a calendar text are separated by runs of blanks, and blanks around a text do not count.

`words` is the splitting at runs of blanks, `trim` the text without the blanks around it.
-/

namespace Crontab.Text

/-- The ranges of the blanks. -/
def blankRanges : Ranges :=
  [(0x9, 0xD), (0x1C, 0x20), (0x85, 0x85), (0xA0, 0xA0), (0x1680, 0x1680), (0x2000, 0x200A),
    (0x2028, 0x2029), (0x202F, 0x202F), (0x205F, 0x205F), (0x3000, 0x3000)]

/-- Whether a character is blank. -/
def isBlank (c : Char) : Bool := blankRanges.holds c

/-- Every white-space character of ASCII is blank. -/
theorem isBlank_of_isWhitespace {c : Char} (h : c.isWhitespace = true) : isBlank c = true := by
  simp only [Char.isWhitespace, Bool.or_eq_true, decide_eq_true_eq] at h
  rcases h with ((rfl | rfl) | rfl) | rfl <;> decide

/-! ## Blanks around a text -/

/-- The text without the blanks in front. -/
def trimLeft (s : Text) : Text := s.dropWhile isBlank

/-- The text without the blanks at its end. -/
def trimRight (s : Text) : Text := (s.reverse.dropWhile isBlank).reverse

/-- The text without the blanks around it. -/
def trim (s : Text) : Text := trimRight (trimLeft s)

@[simp] theorem trimLeft_nil : trimLeft [] = [] := rfl

@[simp] theorem trimRight_nil : trimRight [] = [] := rfl

@[simp] theorem trim_nil : trim [] = [] := rfl

/-! ## Words -/

/-- The maximal runs of characters that are not blank, from left to right. -/
def words : Text → List Text
  | [] => []
  | c :: s =>
    if isBlank c then words s
    else
      match s with
      | [] => [[c]]
      | d :: _ =>
        if isBlank d then [c] :: words s
        else
          match words s with
          | [] => [[c]]
          | w :: ws => (c :: w) :: ws

@[simp] theorem words_nil : words [] = [] := rfl

theorem words_cons_blank {c : Char} (h : isBlank c = true) (s : Text) :
    words (c :: s) = words s := by
  cases s <;> simp [words, h]

/-! ## Reading over blanks -/

/-- The text behind a run of blanks, if it starts with at least one. -/
def skipBlanks? : Text → Option Text
  | c :: s => if isBlank c then some (trimLeft s) else none
  | [] => none

end Crontab.Text
