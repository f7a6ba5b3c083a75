import Crontab.Text.Basic

/-!
# Digits

Two kinds of digit occur.  A cron field takes the ASCII digits alone (`isDigits`); a phrase such as
"every ٣ minutes" may be written with the decimal digits of any script (`decimal?`).  In every
script the ten digits stand next to each other in ascending order, so a table of the zeros is
enough.
-/

namespace Crontab.Text

/-! ## ASCII digits -/

/-- Whether a text is a non-empty run of ASCII digits. -/
def isDigits (s : Text) : Bool := !s.isEmpty && s.all Char.isDigit

@[simp] theorem isDigits_nil : isDigits [] = false := rfl

theorem isDigits_iff {s : Text} : isDigits s = true ↔ s ≠ [] ∧ ∀ c ∈ s, c.isDigit = true := by
  cases s <;> simp [isDigits]

/-! ## Decimal digits of every script -/

/-- The zeros of the scripts outside ASCII. -/
def zeros : List Nat :=
  [
    0x660, 0x6F0, 0x7C0, 0x966, 0x9E6, 0xA66, 0xAE6, 0xB66, 0xBE6, 0xC66, 0xCE6, 0xD66, 0xDE6,
    0xE50, 0xED0, 0xF20, 0x1040, 0x1090, 0x17E0, 0x1810, 0x1946, 0x19D0, 0x1A80, 0x1A90, 0x1B50,
    0x1BB0, 0x1C40, 0x1C50, 0xA620, 0xA8D0, 0xA900, 0xA9D0, 0xA9F0, 0xAA50, 0xABF0, 0xFF10,
    0x104A0, 0x10D30, 0x11066, 0x110F0, 0x11136, 0x111D0, 0x112F0, 0x11450, 0x114D0, 0x11650,
    0x116C0, 0x11730, 0x118E0, 0x11950, 0x11C50, 0x11D50, 0x11DA0, 0x16A60, 0x16AC0, 0x16B50,
    0x1D7CE, 0x1D7D8, 0x1D7E2, 0x1D7EC, 0x1D7F6, 0x1E140, 0x1E2F0, 0x1E950, 0x1FBF0
  ]

/-- The value of a decimal digit of any script. -/
def decimal? (c : Char) : Option Nat :=
  if c.toNat < 128 then if c.isDigit then some (c.toNat - '0'.toNat) else none
  else
    (zeros.find? fun z => decide (z ≤ c.toNat) && decide (c.toNat < z + 10)).map fun z => c.toNat - z

/-- Whether a character is a decimal digit of some script. -/
def isDecimal (c : Char) : Bool := (decimal? c).isSome

/-- The number that a run of decimal digits of any script denotes; a character that is no digit
counts as zero. -/
def decimalsValue (s : Text) : Nat := s.foldl (fun n c => 10 * n + (decimal? c).getD 0) 0

@[simp] theorem decimalsValue_nil : decimalsValue [] = 0 := rfl

theorem toNat_lt_of_isDigit {c : Char} (h : c.isDigit = true) : c.toNat < 128 := by
  have hle : c.val ≤ 57 := by
    simp only [Char.isDigit, Bool.and_eq_true, decide_eq_true_eq] at h
    exact h.2
  exact Nat.lt_of_le_of_lt (UInt32.le_iff_toNat_le.1 hle) (by decide)

theorem decimal?_of_isDigit {c : Char} (h : c.isDigit = true) :
    decimal? c = some (c.toNat - '0'.toNat) := by
  simp [decimal?, toNat_lt_of_isDigit h, h]

end Crontab.Text
