import Crontab.Numeral.Basic
import Crontab.Phrase.TimeOfDay
import Crontab.Proofs.Text.Words

/-!
# How times of day are written

A time of day is written on the clock of twenty-four hours, as in `19:05`, or on that of twelve, with
`am` or `pm` behind it and perhaps without minutes, as in `7:05pm` and `7pm` (`TimeOfDay.IsWritten`).
Such a word is read as its time, whatever stands behind the next blank, as long as this is no half of the
day (`TimeOfDay.IsWritten.exists_read?`): `7:05 pm` would go on.
-/

namespace Crontab

/-! ## Numbers -/

/-- A run of digits that stands for the number. -/
structure IsNumeral (t : Text) (v : ℕ) : Prop where
  digits : Text.isDigits t = true
  value : digitsValue t = v

namespace Text

variable {n r : Text} {c : Char}

lemma isDecimal_of_isDigit (h : c.isDigit = true) : isDecimal c = true := by
  simp [isDecimal, decimal?_of_isDigit h]

lemma isAlpha_eq_false_of_isDigit (h : c.isDigit = true) : c.isAlpha = false := by
  by_contra hletter
  simp [isDigit_eq_false_of_isAlpha (by simpa using hletter)] at h

lemma isWord_of_isDigit (h : c.isDigit = true) : isWord c = true := by
  rw [isWord_of_ascii (toNat_lt_of_isDigit h)]
  simp [Char.isAlphanum, h]

/-- The digits of ASCII have the same value in a phrase as in a field. -/
lemma decimalsValue_of_isDigits (hn : isDigits n = true) : decimalsValue n = digitsValue n := by
  have hdigits := (isDigits_iff.1 hn).2
  have hfold : ∀ v, n.foldl (fun v c => 10 * v + (decimal? c).getD 0) v =
      n.foldl (fun v c => 10 * v + (c.toNat - '0'.toNat)) v := by
    clear hn
    induction n with
    | nil => exact fun v => rfl
    | cons c n ih =>
      intro v
      rw [List.forall_mem_cons] at hdigits
      rw [List.foldl_cons, List.foldl_cons, decimal?_of_isDigit hdigits.1, Option.getD_some,
        ih hdigits.2]
  exact hfold 0

lemma upToTwoDecimals?_eq_none (h : r.head?.any isDecimal = false) : upToTwoDecimals? r = none := by
  match r with
  | [] => rfl
  | [a] =>
    have ha : isDecimal a = false := by simpa using h
    simp [upToTwoDecimals?, ha]
  | a :: b :: r =>
    have ha : isDecimal a = false := by simpa using h
    simp [upToTwoDecimals?, ha]

/-- One digit or two are read to the end when no digit stands behind them. -/
lemma upToTwoDecimals?_append (hn : isDigits n = true) (hlength : n.length ≤ 2)
    (hr : r.head?.any isDecimal = false) : upToTwoDecimals? (n ++ r) = some (n, r) := by
  obtain ⟨hne, hdigits⟩ := isDigits_iff.1 hn
  match n, hne with
  | [a], _ =>
    have ha : isDecimal a = true := isDecimal_of_isDigit (hdigits a (by simp))
    cases r with
    | nil => simp [upToTwoDecimals?, ha]
    | cons c r =>
      have hc : isDecimal c = false := by simpa using hr
      simp [upToTwoDecimals?, ha, hc]
  | [a, b], _ =>
    have ha : isDecimal a = true := isDecimal_of_isDigit (hdigits a (by simp))
    have hb : isDecimal b = true := isDecimal_of_isDigit (hdigits b (by simp))
    simp [upToTwoDecimals?, ha, hb]
  | a :: b :: c :: n, _ => simp at hlength

end Text

/-! ## Halves of the day -/

namespace HalfDay

/-- How a half of the day is written. -/
def text : HalfDay → Text
  | am => "am"
  | pm => "pm"

/-- The hour of the day of an hour on the clock of twelve. -/
def hour : HalfDay → ℕ → ℕ
  | am, n => n % 12
  | pm, n => n % 12 + 12

lemma hour_lt (half : HalfDay) (n : ℕ) : half.hour n < 24 := by
  have := Nat.mod_lt n (show 0 < 12 by decide)
  cases half <;> simp only [hour] <;> omega

lemma readHalf_text (half : HalfDay) (r : Text) :
    WrittenTime.readHalf (half.text ++ r) = (some half, r) := by
  cases half <;> rfl

lemma toTime?_eq (half : HalfDay) {hour minute : ℕ} (hhour : hour ≤ 12) (hminute : minute ≤ 59) :
    WrittenTime.toTime? ⟨hour, minute, some half⟩ = some ⟨half.hour hour, minute⟩ := by
  have hshift : (match half with
      | .pm => if hour < 12 then hour + 12 else hour
      | .am => if hour = 12 then 0 else hour) = half.hour hour := by
    cases half with
    | am =>
      simp only [HalfDay.hour]
      split <;> omega
    | pm =>
      simp only [HalfDay.hour]
      split <;> omega
  have hle : half.hour hour ≤ 23 := Nat.le_of_lt_succ (half.hour_lt hour)
  cases half <;> simp only at hshift <;>
    simp [WrittenTime.toTime?, Nat.not_lt.2 hhour, hshift, hle, hminute]

end HalfDay

/-! ## Times -/

/-- Minutes as they stand behind an hour, if they are given. -/
inductive IsWrittenMinute : Text → ℕ → Prop
  | absent : IsWrittenMinute [] 0
  | given {m : Text} {minute : ℕ} (hm : IsNumeral m minute) (hlength : m.length = 2)
    (hle : minute ≤ 59) : IsWrittenMinute (':' :: m) minute

/-- The time of day is written so. -/
inductive TimeOfDay.IsWritten : Text → TimeOfDay → Prop
  | clock {h m : Text} {hour minute : ℕ} (hh : IsNumeral h hour) (hlength : h.length ≤ 2)
    (hle : hour ≤ 23) (hm : IsNumeral m minute) (hmlength : m.length = 2) (hmle : minute ≤ 59) :
    IsWritten (h ++ ':' :: m) ⟨hour, minute⟩
  | half (half : HalfDay) {h m : Text} {hour minute : ℕ} (hh : IsNumeral h hour)
    (hlength : h.length ≤ 2) (hbounds : 1 ≤ hour ∧ hour ≤ 12) (hm : IsWrittenMinute m minute) :
    IsWritten (h ++ m ++ half.text) ⟨half.hour hour, minute⟩

namespace IsWrittenMinute

variable {m r : Text} {minute : ℕ}

lemma le (h : IsWrittenMinute m minute) : minute ≤ 59 := by
  cases h with
  | absent => exact Nat.zero_le _
  | given _ _ hle => exact hle

lemma readMinute (h : IsWrittenMinute m minute) (hr : r.head? ≠ some ':') :
    WrittenTime.readMinute (m ++ r) = (minute, r) := by
  cases h with
  | absent =>
    cases r with
    | nil => rfl
    | cons c r =>
      have hc : c ≠ ':' := by simpa using hr
      unfold WrittenTime.readMinute
      split
      · next heq => exact absurd (List.cons.inj heq).1 hc
      · rfl
  | @given m minute hm hlength hle =>
    obtain ⟨a, b, rfl⟩ := List.length_eq_two.1 hlength
    have hdigits := (Text.isDigits_iff.1 hm.digits).2
    have ha : Text.isDecimal a = true := Text.isDecimal_of_isDigit (hdigits a (by simp))
    have hb : Text.isDecimal b = true := Text.isDecimal_of_isDigit (hdigits b (by simp))
    have hvalue : Text.decimalsValue [a, b] = minute :=
      (Text.decimalsValue_of_isDigits hm.digits).trans hm.value
    simp [WrittenTime.readMinute, ha, hb, hvalue]

/-- No digit stands behind the hour. -/
lemma head?_append (h : IsWrittenMinute m minute) (hr : r.head?.any Text.isDecimal = false) :
    (m ++ r).head?.any Text.isDecimal = false := by
  cases h with
  | absent => exact hr
  | given => rfl

end IsWrittenMinute

namespace TimeOfDay.IsWritten

variable {t : Text} {time : TimeOfDay}

lemma bounds (h : time.IsWritten t) : time.hour < 24 ∧ time.minute < 60 := by
  cases h with
  | clock _ _ hle _ _ hmle => exact ⟨Nat.lt_succ_of_le hle, Nat.lt_succ_of_le hmle⟩
  | half half _ _ _ hm => exact ⟨half.hour_lt _, Nat.lt_succ_of_le hm.le⟩

/-- **A time that is written is read** as the same, whatever stands behind the next blank, unless this
is a half of the day. -/
theorem exists_read? (h : time.IsWritten t) :
    ∃ written : WrittenTime, written.toTime? = some time ∧ ∀ r, Text.StartsBlank r →
      (WrittenTime.readHalf (Text.trimLeft r)).1 = none →
        ∃ rest, WrittenTime.read? (t ++ r) = some (written, rest) := by
  cases h with
  | @clock h m hour minute hh hlength hle hm hmlength hmle =>
    refine ⟨⟨hour, minute, none⟩, by simp [WrittenTime.toTime?, hle, hmle], fun r hr hhalf => ?_⟩
    have hminute : IsWrittenMinute (':' :: m) minute := .given hm hmlength hmle
    have hcolon : r.head? ≠ some ':' := fun hc => absurd (hr ':' hc) (by decide)
    refine ⟨(WrittenTime.readHalf (Text.trimLeft r)).2, ?_⟩
    rw [List.append_assoc, WrittenTime.read?, Text.upToTwoDecimals?_append hh.digits hlength (by rfl)]
    simp only [hminute.readMinute hcolon, Text.decimalsValue_of_isDigits hh.digits, hh.value, hhalf]
  | @half half h m hour minute hh hlength hbounds hm =>
    refine ⟨⟨hour, minute, some half⟩, half.toTime?_eq hbounds.2 hm.le, fun r _ _ => ⟨r, ?_⟩⟩
    have hhead : (half.text ++ r).head? ≠ some ':' := by cases half <;> simp [HalfDay.text]
    have hdecimal : (half.text ++ r).head?.any Text.isDecimal = false := by cases half <;> rfl
    have htrim : Text.trimLeft (half.text ++ r) = half.text ++ r := by
      cases half <;> exact Text.trimLeft_cons (by decide) _
    rw [List.append_assoc, List.append_assoc, WrittenTime.read?,
      Text.upToTwoDecimals?_append hh.digits hlength (hm.head?_append hdecimal)]
    simp only [hm.readMinute hhead, htrim, half.readHalf_text,
      Text.decimalsValue_of_isDigits hh.digits, hh.value]

end TimeOfDay.IsWritten

end Crontab
