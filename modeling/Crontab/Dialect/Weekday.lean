import Crontab.Expression

/-!
# Weekdays counted from 1

Some notations count the weekdays from Sunday as 1 where a cron field counts them from Sunday as 0.
Numbers are shifted on the way out and on the way in; names mean the same in both.

On the way out a field that is a range keeps its form when the shifted bounds still cover exactly
its days (`Field.weekdaysFromOne`).  On the way in the shift is made token by token, without a look
at what the tokens select (`weekdaysFromZero`).
-/

namespace Crontab

/-- A weekday counted from 0 or 7, counted from 1. -/
def toOneBased (day : Nat) : Nat := if day = 0 ∨ day = 7 then 1 else day + 1

/-- A weekday counted from 1, counted from 0; a number that is no weekday is shifted all the same. -/
def toZeroBased (day : Nat) : Int := if day = 1 then 0 else (day : Int) - 1

/-- The two runs of digits of a text that is nothing but a range of numbers. -/
def numericRange? (s : Text) : Option (Text × Text) :=
  match Text.cut "-" s with
  | (first, some last) =>
    if Text.isDigits first && Text.isDigits last then some (first, last) else none
  | (_, none) => none

/-! ## On the way out -/

/-- The bounds of a range of weekdays, counted from 1. -/
def Field.shiftedRange? (f : Field) : Option (Nat × Nat) :=
  (numericRange? f.raw).map fun r => (toOneBased (digitsValue r.1), toOneBased (digitsValue r.2))

/-- The weekdays of a field, counted from 1: a range if the field is one whose shifted bounds cover
exactly its days, and otherwise day by day. -/
def Field.weekdaysFromOne (f : Field) : Text :=
  let days := f.values.map toOneBased
  let listed := Text.join "," (days.map natText)
  match f.shiftedRange? with
  | some (first, last) =>
    if first ≤ last ∧ List.range' first (last + 1 - first) = days then
      natText first ++ "-" ++ natText last
    else listed
  | none => listed

/-! ## On the way in -/

/-- One token of a list of weekdays, counted from 0.  A number or a range of numbers is shifted,
a range only if it does not become reversed; everything else stays as it is. -/
def tokenFromZero (token : Text) : Except Fault Text := do
  if Text.isDigits token then return intText (toZeroBased (← readDigits token))
  else
    match numericRange? token with
    | some (first, last) => do
      let a := toZeroBased (← readDigits first)
      let b := toZeroBased (← readDigits last)
      if a ≤ b then return intText a ++ "-" ++ intText b else return token
    | none => return token

/-- A list of weekdays, counted from 0. -/
def weekdaysFromZero (s : Text) : Except Fault Text :=
  return Text.join "," (← (Text.pieces ',' s).mapM tokenFromZero)

end Crontab
