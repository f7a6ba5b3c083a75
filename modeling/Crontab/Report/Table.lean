import Crontab.Report.Layout

/-!
# Tables

A table has a title, a header over each column, and rows of cells in a frame.  Its columns are as
wide as their widest cells ask for.  If the terminal is too narrow for that, the widest columns give
way, down to the width of the next ones, until all columns have room.

The text of a cell wraps between words.  A line that is still too long, since a word on it is, is
cut off.
-/

namespace Crontab.Layout

/-- A column of a table. -/
structure Column where
  header : Text
  alignRight : Bool
  deriving DecidableEq, Repr

/-- A column whose cells start at the left. -/
def Column.left (header : Text) : Column := ⟨header, false⟩

/-- A column whose cells end at the right. -/
def Column.right (header : Text) : Column := ⟨header, true⟩

/-- A table with a title. -/
structure Table where
  title : Text
  columns : List Column
  rows : List (List Text)
  deriving DecidableEq, Repr

namespace Table

/-! ## Widths -/

/-- Whether a character ends a line where the lines of a cell are measured: the line feed, and the
blanks of Unicode that separate lines, paragraphs or larger units. -/
def separatesLines (c : Char) : Bool :=
  c == '\n' || c == '\x1c' || c == '\x1d' || c == '\x1e' || c == '\u0085' || c == '\u2028' ||
    c == '\u2029'

/-- The columns that a cell asks for: those of its longest line, tabulators not counted. -/
def cellWidth (s : Text) : Nat :=
  ((Text.pieces '\n' ((printable s).map fun c => if separatesLines c then '\n' else c)).map
    Text.columns).foldl max 0

/-- The cells of the column with a number, its header first. -/
def cellsOf (t : Table) (i : Nat) : List Text :=
  ((t.columns[i]?.map Column.header).getD []) :: t.rows.map fun r => r.getD i []

/-- The whole number next to a quotient; in the middle between two, the even one. -/
def halfToEven (a b : Nat) : Nat :=
  let q := a / b
  if 2 * (a % b) < b then q
  else if b < 2 * (a % b) then q + 1
  else if q % 2 = 0 then q else q + 1

/-- Take columns of the terminal away from the table columns whose width is `widest`, as evenly as
possible and at most `most` from each; `among` of them are still to come. -/
def shareLoss (widest most : Nat) : (among loss : Nat) → List Nat → List Nat
  | _, _, [] => []
  | among, loss, w :: ws =>
    if w = widest ∧ 0 < among then
      let share := min most (halfToEven loss among)
      (w - share) :: shareLoss widest most (among - 1) (loss - share) ws
    else w :: shareLoss widest most among loss ws

/-- The sum of widths. -/
def totalWidth (widths : List Nat) : Nat := widths.foldl (· + ·) 0

/-- The greatest of widths. -/
def widest (widths : List Nat) : Nat := widths.foldl max 0

/-- Make the widest of the table columns narrower, down to the width of the next ones or until all
columns together are not wider than `room`. -/
def narrowOnce (room : Nat) (widths : List Nat) : List Nat :=
  let loss := totalWidth widths - room
  let next := widest (widths.filter (· != widest widths))
  shareLoss (widest widths) (min loss (widest widths - next)) (widths.count (widest widths)) loss
    widths

/-- Make table columns narrower until all together they are not wider than `room`. -/
def narrow (room : Nat) (widths : List Nat) : List Nat :=
  if totalWidth widths ≤ room then widths
  else
    let narrower := narrowOnce room widths
    if totalWidth narrower < totalWidth widths then narrow room narrower else widths
termination_by totalWidth widths

/-- The widths of the columns, the blanks on both sides of each not counted: as wide as the widest
cell, if the terminal has room for that. -/
def widths (t : Table) : List Nat :=
  let room := terminalWidth - (t.columns.length + 1)
  (narrow room ((List.range t.columns.length).map fun i =>
    min room (widest ((t.cellsOf i).map cellWidth) + 2))).map (· - 2)

/-! ## Rows -/

/-- A line of the frame: `fill` over the widths, between the corners and the joints. -/
def rule (left joint right fill : Char) (widths : List Nat) : Text :=
  left :: Text.join [joint] (widths.map fun w => Text.fill (w + 2) fill) ++ [right, '\n']

/-- A line of a cell, cut off if it is too long. -/
def cutOff (width : Nat) (line : Text) : Text :=
  if Text.columns line ≤ width then line else padTo (width - 1) (fitting (width - 1) line) ++ "…"

/-- The lines of a cell in its width; without any room it is empty. -/
def cellLines (alignRight : Bool) (width : Nat) (s : Text) : List Text :=
  if width = 0 then [[]]
  else
    (wrap false width (printable s)).map fun line =>
      let line := cutOff width line
      if alignRight then Text.fill (width - Text.columns line) ' ' ++ line else padTo width line

/-- The lines of a row, between bars.  Cells with fewer lines than the others are filled up below,
and in the header above. -/
def row (bar : Char) (header : Bool) (columns : List Column) (widths : List Nat)
    (cells : List Text) : Text :=
  let blocks := (columns.zip (widths.zip cells)).map fun x =>
    (x.2.1, cellLines x.1.alignRight x.2.1 x.2.2)
  let height := (blocks.map fun b => b.2.length).foldl max 0
  let full := blocks.map fun b =>
    let missing := List.replicate (height - b.2.length) (Text.fill b.1 ' ')
    if header then missing ++ b.2 else b.2 ++ missing
  (List.range height).flatMap fun i =>
    bar :: Text.join [bar] (full.map fun b => ' ' :: b.getD i [] ++ " ") ++ [bar, '\n']

/-- The table: title, header and rows in a frame. -/
def text (t : Table) : Text :=
  let ws := t.widths
  let total := ws.foldl (fun n w => n + w + 3) 1
  centreIn total ' ' t.title ++ "\n" ++
    rule '┏' '┳' '┓' '━' ws ++
    row '┃' true t.columns ws (t.columns.map Column.header) ++
    rule '┡' '╇' '┩' '━' ws ++
    (t.rows.flatMap (row '│' false t.columns ws)) ++
    rule '└' '┴' '┘' '─' ws

end Table

end Crontab.Layout
