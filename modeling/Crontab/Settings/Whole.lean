import Crontab.Fault
import Crontab.Numeral.Basic
import Crontab.Text.Blank

/-!
# Whole numbers in settings

A number of the settings is written in digits, with a sign or without one.  Blanks around it do not
count, nor does a fraction of zeros.  Between two digits an underscore may stand, so that long
numbers can be read more easily; leading zeros are passed over together with all underscores among
them.

A number of more than `digitLimit` digits is too long, and this is found out as soon as the digits
have been seen, whatever comes behind them.
-/

namespace Crontab.Settings

/-- What a text that should be a whole number can be. -/
inductive Whole where
  | number (n : Int)
  | tooLong
  | notANumber
  deriving DecidableEq, Repr

namespace Whole

/-- Whether a character may stand around a number: the blanks without the separator controls. -/
def isAround (c : Char) : Bool := Text.isBlank c && !(0x1C ≤ c.toNat && c.toNat ≤ 0x1F)

/-- The text without what may stand around a number. -/
def trimmed (s : Text) : Text := ((s.dropWhile isAround).reverse.dropWhile isAround).reverse

/-- The text of a number without a fraction that is zero. -/
def withoutZeroFraction (s : Text) : Text :=
  match Text.cut "." s with
  | (whole, some fraction) => if fraction.all (· == '0') then whole else s
  | (_, none) => s

/-- The text of a number without leading zeros and without the underscores among them; where nothing
or a fraction follows, the last of these characters is left. -/
def withoutLeadingZeros (s : Text) : Text :=
  if s.head? = some '0' then
    let rest := s.dropWhile fun c => c == '0' || c == '_'
    if rest = [] ∨ rest.head? = some '.' then s.drop (s.length - rest.length - 1) else rest
  else s

/-- The digits of a text in which single underscores may stand between digits. -/
def digits? (s : Text) : Option Text :=
  let groups := Text.pieces '_' s
  if groups.all Text.isDigits then some groups.flatten else none

/-- The whole number without a sign that a text stands for, made of its value by `signed`, where
`room` digits are allowed. -/
def ofUnsigned (room : Nat) (signed : Nat → Int) (s : Text) : Whole :=
  let s := withoutLeadingZeros s
  if room < (s.takeWhile Char.isDigit).length then tooLong
  else
    match digits? (withoutZeroFraction s) with
    | none => notANumber
    | some ds => if room < ds.length then tooLong else number (signed (digitsValue ds))

/-- The whole number that a text stands for; a minus sign takes the room of a digit. -/
def ofText (s : Text) : Whole :=
  match trimmed s with
  | '-' :: s => ofUnsigned (digitLimit - 1) (fun n => -(n : Int)) s
  | '+' :: s => ofUnsigned digitLimit (fun n => (n : Int)) s
  | s => ofUnsigned digitLimit (fun n => (n : Int)) s

end Whole

end Crontab.Settings
