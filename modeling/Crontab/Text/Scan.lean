import Crontab.Text.Blank
import Crontab.Text.Digit
import Crontab.Text.Word

/-!
# Scanning

A pattern is looked for at every position of a text, from left to right, and the first position
where it is found decides.  A position is given by the character before it, if there is one, and the
text from it on: that is what is needed to tell where words start.

The readers of this module consume what they recognise from the front of a text and hand on the
rest.
-/

namespace Crontab.Text

/-! ## Searching -/

/-- The first result of a reader at a position of the text, from left to right; `before` is the
character in front of the text. -/
def search {α : Type} (read : Option Char → Text → Option α) : Option Char → Text → Option α
  | before, [] => read before []
  | before, c :: s =>
    match read before (c :: s) with
    | some a => some a
    | none => search read (some c) s

/-- The first result of a reader in a whole text. -/
def find? {α : Type} (read : Option Char → Text → Option α) (s : Text) : Option α :=
  search read none s

/-! ## Readers -/

/-- Read a mark at the start of a word. -/
def wordStart? (mark : Text) (before : Option Char) (s : Text) : Option Text :=
  if wordMayStart before then skip? mark s else none

/-- Read a non-empty run of decimal digits. -/
def decimals? (s : Text) : Option (Text × Text) :=
  match s.takeWhile isDecimal with
  | [] => none
  | ds => some (ds, s.dropWhile isDecimal)

/-- Read one or two decimal digits. -/
def upToTwoDecimals? : Text → Option (Text × Text)
  | a :: b :: s =>
    if !isDecimal a then none
    else if isDecimal b then some ([a, b], s)
    else some ([a], b :: s)
  | [a] => if isDecimal a then some ([a], []) else none
  | [] => none

/-- Read a non-empty run of word characters. -/
def word? (s : Text) : Option (Text × Text) :=
  match s.takeWhile isWord with
  | [] => none
  | w => some (w, s.dropWhile isWord)

/-- Read a mark if it is there. -/
def skipOptional (mark s : Text) : Text := (skip? mark s).getD s

/-- Whether a word that was read up to here ends here, perhaps after an `s`. -/
def pluralEnds (s : Text) : Bool := wordEnds (skipOptional "s" s) || wordEnds s

end Crontab.Text
