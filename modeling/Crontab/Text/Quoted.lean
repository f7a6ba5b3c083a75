import Crontab.Text.Printable

/-!
# Quoted texts

A text that a message shows as it was given stands in quotes, with every character that could be
misread written by an escape.  The quotes are single, unless the text holds a single quote and no
double one.  Inside, the quote in use and the backslash are escaped by a backslash, tabulator, line
feed and carriage return have their letters, and every other unprintable character stands with its
code in the shortest of the forms `\xNN`, `\uNNNN` and `\UNNNNNNNN`.
-/

namespace Crontab.Text

/-- The last `width` hexadecimal digits of a number, in small letters. -/
def hex : (width n : Nat) → Text
  | 0, _ => []
  | width + 1, n => hex width (n / 16) ++ [Nat.digitChar (n % 16)]

@[simp] theorem length_hex (width n : Nat) : (hex width n).length = width := by
  induction width generalizing n with
  | zero => rfl
  | succ width ih => simp [hex, ih]

/-- The quote that a text is written in. -/
def quoteMark (s : Text) : Char :=
  if s.contains '\x27' && !s.contains '\x22' then '\x22' else '\x27'

/-- One character inside quotes. -/
def escapeQuoted (quote c : Char) : Text :=
  if c = quote ∨ c = '\x5c' then ['\x5c', c]
  else if c = '\t' then ['\x5c', 't']
  else if c = '\n' then ['\x5c', 'n']
  else if c = '\r' then ['\x5c', 'r']
  else if isPrintable c then [c]
  else if c.toNat < 0x100 then '\x5c' :: 'x' :: hex 2 c.toNat
  else if c.toNat < 0x10000 then '\x5c' :: 'u' :: hex 4 c.toNat
  else '\x5c' :: 'U' :: hex 8 c.toNat

/-- The text in quotes. -/
def quoted (s : Text) : Text :=
  quoteMark s :: s.flatMap (escapeQuoted (quoteMark s)) ++ [quoteMark s]

end Crontab.Text
