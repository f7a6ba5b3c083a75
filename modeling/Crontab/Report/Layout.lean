import Crontab.Text.Blank
import Crontab.Text.Columns
import Crontab.Text.Picture

/-!
# Layout

Plain text for a terminal of a fixed width: lines that wrap between words, and a panel with a title.

A text is first made `printable`: the control characters that would move the cursor are left out.
Tabulators advance to the next multiple of eight columns.  A line that is too long is broken before
the words that do not fit.  A word that fits on no line is broken anywhere in a `block`; `wrap`
leaves it to others what becomes of such a word.
-/

namespace Crontab.Layout

/-- The number of columns of the terminal. -/
abbrev terminalWidth : Nat := 120

/-! ## Lines -/

/-- Whether a character would move the cursor: bell, backspace, vertical tabulator, form feed and
carriage return. -/
def movesCursor (c : Char) : Bool :=
  c == '\x07' || c == '\x08' || c == '\x0b' || c == '\x0c' || c == '\r'

/-- The text without the characters that move the cursor. -/
def printable (s : Text) : Text := s.filter fun c => !movesCursor c

/-- Tabulators replaced by blanks, from a column on. -/
def expandTabs (column : Nat) : Text → Text
  | [] => []
  | c :: s =>
    if c = '\t' then Text.fill (8 - column % 8) ' ' ++ expandTabs (column + (8 - column % 8)) s
    else c :: expandTabs (column + Text.charColumns c) s

/-- The words of a line, each with the blanks behind it, and the first one also with the blanks in
front of it.  Blanks alone make no word. -/
def blankedWords : Text → List Text
  | [] => []
  | c :: s =>
    match blankedWords s with
    | [] => if Text.isBlank c then [] else [c :: s]
    | w :: ws =>
      if !Text.isBlank c && (w.head?.map Text.isBlank).getD false then
        (c :: w.takeWhile Text.isBlank) :: w.dropWhile Text.isBlank :: ws
      else (c :: w) :: ws

/-- Break a word into parts of at most `width` columns; `used` are taken on the current part. -/
def chop (width used : Nat) : Text → List Text
  | [] => [[]]
  | c :: s =>
    if width < used + Text.charColumns c then
      match chop width (Text.charColumns c) s with
      | [] => [[], [c]]
      | p :: ps => [] :: (c :: p) :: ps
    else
      match chop width (used + Text.charColumns c) s with
      | [] => [[c]]
      | p :: ps => (c :: p) :: ps

/-- Set words in lines: `line` is the current line, of which `used` columns count as taken.  A word
that is too long for any line is broken if `breaking` is set, and stands on a line of its own
otherwise. -/
def setWords (breaking : Bool) (width : Nat) :
    (line : Text) → (used : Nat) → List Text → List Text
  | line, _, [] => [line]
  | line, used, w :: ws =>
    let size := Text.columns (Text.trimRight w)
    if used + size ≤ width then setWords breaking width (line ++ w) (used + Text.columns w) ws
    else if width < size ∧ breaking then
      let parts := chop width 0 w
      (if line.isEmpty then [] else [line]) ++ parts.dropLast ++
        setWords breaking width (parts.getLastD []) (Text.columns (parts.getLastD [])) ws
    else (if line.isEmpty then [] else [line]) ++ setWords breaking width w (Text.columns w) ws

/-- A line without the blanks at its end that are beyond the width. -/
def cutBlanks (width : Nat) (line : Text) : Text :=
  let blanks := line.length - (Text.trimRight line).length
  line.take (line.length - min blanks (line.length - width))

/-- Fill up a text with blanks to a number of columns. -/
def padTo (width : Nat) (s : Text) : Text := s ++ Text.fill (width - Text.columns s) ' '

/-- The longest start of a text that fits into a number of columns. -/
def fitting (width : Nat) : Text → Text
  | [] => []
  | c :: s =>
    if Text.charColumns c ≤ width then c :: fitting (width - Text.charColumns c) s else []

/-- A line, cut off if it is too long. -/
def crop (width : Nat) (line : Text) : Text :=
  if Text.columns line ≤ width then line else padTo width (fitting width line)

/-- The lines of a text in a width. -/
def wrap (breaking : Bool) (width : Nat) (s : Text) : List Text :=
  (Text.pieces '\n' s).flatMap fun line =>
    let line := expandTabs 0 line
    match blankedWords line with
    | [] => [cutBlanks width line]
    | ws => (setWords breaking width [] 0 ws).map (cutBlanks width)

/-- The lines of a text in a width, where words that are too long are broken. -/
def block (width : Nat) (s : Text) : List Text := (wrap true width (printable s)).map (crop width)

/-- Print a text: its lines, each with a line feed behind it. -/
def print (s : Text) : Text := (block terminalWidth s).flatMap fun line => line ++ "\n"

/-- A text in the middle of a number of columns, filled up with a character. -/
def centreIn (width : Nat) (c : Char) (s : Text) : Text :=
  let rest := width - Text.columns s
  Text.fill (rest / 2) c ++ s ++ Text.fill (rest - rest / 2) c

/-! ## Texts of the user

In the text of a report, words in brackets may be tags that say how to show what follows.  A text of
the user has no tags, so its brackets are shown as they are.  But like all text of a report it may
name pictures, and a backslash in front of a bracket that opens no tag is left out. -/

/-- Whether a text starts with a tag: an opening bracket, a small letter or one of `#`, `/` and `@`,
and a closing bracket in front of the next opening one. -/
def startsTag : Text → Bool
  | '[' :: c :: s =>
    (('a' ≤ c && c ≤ 'z') || c == '#' || c == '/' || c == '@') &&
      (s.dropWhile fun c => c != '[' && c != ']').head? == some ']'
  | _ => false

/-- A text, cut in front of its tags and behind them. -/
def cutAtTags (inTag : Bool) : Text → List Text
  | [] => [[]]
  | c :: s =>
    let ends := inTag && c == ']'
    let starts := !inTag && startsTag (c :: s)
    match cutAtTags (starts || inTag && !ends) s with
    | [] => [[c]]
    | p :: ps => (if starts then [[]] else []) ++ if ends then [c] :: p :: ps else (c :: p) :: ps

/-- A text of the user among other text.  A backslash that ends it is doubled, unless it is doubled
already. -/
def literal (s : Text) : Text :=
  let shown := (cutAtTags false s).flatMap fun part =>
    Text.withPictures (Text.replaceAll ['\x5c', '['] ['['] part)
  match s.reverse with
  | ['\x5c'] => shown ++ ['\x5c']
  | '\x5c' :: c :: _ => if c = '\x5c' then shown else shown ++ ['\x5c']
  | _ => shown

/-! ## Panels -/

/-- The title of a panel, in one line and between two blanks; nothing if there is no title.  What is
too long is cut off. -/
def panelTitle (width : Nat) (s : Text) : Text :=
  if s.isEmpty then []
  else
    let title := ' ' :: expandTabs 0 ((printable s).map fun c => if c = '\n' then ' ' else c) ++ " "
    crop width title

/-- A line inside a panel. -/
def panelLine (width : Nat) (line : Text) : Text := '│' :: ' ' :: padTo width line ++ " │\n"

/-- A frame over the whole width of the terminal, with a title in its upper edge. -/
def panel (title body : Text) : Text :=
  let inner := terminalWidth - 4
  "╭─" ++ centreIn inner '─' (panelTitle inner title) ++ "─╮\n" ++
    (block inner body).flatMap (panelLine inner) ++
    "╰" ++ Text.fill (terminalWidth - 2) '─' ++ "╯\n"

end Crontab.Layout
