import Crontab.Text.Digit

/-!
# Numerals

How numbers are written: in decimal digits, without leading zeros or filled up with zeros to a width.
`digitsValue` is the number that a run of digits denotes, and it undoes the writing
(`digitsValue_natText`, `digitsValue_paddedText`).
-/

namespace Crontab

/-- A natural number in decimal digits. -/
def natText (n : Nat) : Text := Nat.toDigits 10 n

/-- An integer in decimal digits, with a minus sign if it is negative. -/
def intText : Int → Text
  | .ofNat n => natText n
  | .negSucc n => '-' :: natText (n + 1)

/-- A natural number in at least `width` digits, filled up with zeros. -/
def paddedText (width n : Nat) : Text := Text.padLeft width '0' (natText n)

/-- The number that a run of ASCII digits denotes. -/
def digitsValue (s : Text) : Nat := Nat.ofDigitChars 10 s 0

@[simp] theorem digitsValue_nil : digitsValue [] = 0 := rfl

@[simp] theorem digitsValue_natText (n : Nat) : digitsValue (natText n) = n :=
  Nat.ofDigitChars_toDigits (by decide) (by decide)

theorem isDigit_of_mem_natText {n : Nat} {c : Char} (h : c ∈ natText n) : c.isDigit = true :=
  Nat.isDigit_of_mem_toDigits (by decide) (by decide) h

theorem natText_ne_nil (n : Nat) : natText n ≠ [] :=
  List.ne_nil_of_length_pos Nat.length_toDigits_pos

theorem isDigits_natText (n : Nat) : Text.isDigits (natText n) = true :=
  Text.isDigits_iff.2 ⟨natText_ne_nil n, fun _ => isDigit_of_mem_natText⟩

theorem natText_injective {m n : Nat} (h : natText m = natText n) : m = n := by
  simpa using congrArg digitsValue h

/-! ## Numbers filled up with zeros -/

theorem digitsValue_zeros (n : Nat) : digitsValue (List.replicate n '0') = 0 := by
  induction n with
  | zero => rfl
  | succ n ih => exact ih

@[simp] theorem digitsValue_paddedText (width n : Nat) : digitsValue (paddedText width n) = n := by
  have hzeros : Nat.ofDigitChars 10 (List.replicate (width - (natText n).length) '0') 0 = 0 :=
    digitsValue_zeros _
  rw [paddedText, Text.padLeft, Text.fill, digitsValue, Nat.ofDigitChars_append, hzeros]
  exact digitsValue_natText n

theorem isDigit_of_mem_paddedText {width n : Nat} {c : Char} (h : c ∈ paddedText width n) :
    c.isDigit = true := by
  rcases List.mem_append.1 h with hzero | hdigit
  · exact List.eq_of_mem_replicate hzero ▸ rfl
  · exact isDigit_of_mem_natText hdigit

theorem length_paddedText {width n : Nat} (hwidth : 0 < width) (h : n < Nat.pow 10 width) :
    (paddedText width n).length = width := by
  have hle : (natText n).length ≤ width := (Nat.length_toDigits_le_iff (by decide) hwidth).2 h
  rw [paddedText, Text.padLeft, Text.fill, List.length_append, List.length_replicate]
  exact Nat.sub_add_cancel hle

theorem paddedText_two {n : Nat} (h : n < 100) :
    paddedText 2 n = [Nat.digitChar (n / 10), Nat.digitChar (n % 10)] := by
  have hones : n % 10 < 10 := Nat.mod_lt n (by decide)
  have htens : n / 10 < 10 := by omega
  rw [paddedText, natText, Nat.toDigits_eq_if (by decide)]
  by_cases hlow : n < 10
  · rw [if_pos hlow, Nat.mod_eq_of_lt hlow, Nat.div_eq_of_lt hlow]
    rfl
  · rw [if_neg hlow, Nat.toDigits_of_lt_base htens]
    rfl

/-! ## Integers and lists -/

@[simp] theorem intText_ofNat (n : Nat) : intText (n : Int) = natText n := rfl

/-- Numbers with commas and blanks between them, as messages list them. -/
def natsText (ns : List Nat) : Text := Text.join ", " (ns.map natText)

end Crontab
