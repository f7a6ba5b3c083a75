import Crontab.Time.Moment

/-!
# ISO 8601

Dates and times in the notation of ISO 8601.

`DateTime.isoText` writes `YYYY-MM-DDTHH:MM:SS`, with six digits of a second behind it when they are
not all zero, and with the offset of a moment at the end.

`DateTime.ofIso?` reads more than is written.  The date may be a date of the calendar or a weekday
in a numbered week, each with or without hyphens.  Any one character separates the time from it.
The time is given in hours, minutes and seconds, down to any of them, with or without colons, and
with a fraction of which six digits count.  The offset is `Z` or a time with a sign.
-/

namespace Crontab

/-! ## Writing -/

/-- A date as `YYYY-MM-DD`. -/
def Date.isoText (d : Date) : Text :=
  paddedText 4 d.year ++ "-" ++ paddedText 2 d.month ++ "-" ++ paddedText 2 d.day

/-- A fraction of a second, left out when it is zero. -/
def microText (μ : Nat) : Text := if μ = 0 then [] else '.' :: paddedText 6 μ

/-- An offset as `+HH:MM`, with its seconds when they are not zero. -/
def offsetText (offset : Int) : Text :=
  let n := offset.natAbs
  let seconds := n / 1000000 % 60
  (if offset < 0 then '-' else '+') :: paddedText 2 (n / 3600000000) ++ ":" ++
    paddedText 2 (n / 60000000 % 60) ++
    if seconds = 0 ∧ n % 1000000 = 0 then []
    else ':' :: paddedText 2 seconds ++ microText (n % 1000000)

/-- The reading of a clock. -/
def Civil.isoText (c : Civil) : Text :=
  c.date.isoText ++ "T" ++ paddedText 2 c.hour ++ ":" ++ paddedText 2 c.minute ++ ":" ++
    paddedText 2 c.second ++ microText c.micro

/-- A moment, with the offset of its clock. -/
def Moment.isoText (m : Moment) : Text := (Civil.ofWall m.wall).isoText ++ offsetText m.offset

namespace DateTime

/-- A date with a time of day; the offset is written only if there is one. -/
def isoText : DateTime → Text
  | .reading w _ => (Civil.ofWall w).isoText
  | .moment m => m.isoText

end DateTime

/-! ## Reading dates -/

namespace Iso

/-- Exactly `n` digits and the text behind them. -/
def digits? (n : Nat) (s : Text) : Option (Nat × Text) :=
  if s.length < n then none
  else if (s.take n).all Char.isDigit then some (digitsValue (s.take n), s.drop n)
  else none

/-- The number of characters that the date in front of a text has.  It is told by the characters
behind the year, and for a week without hyphens by the number of digits that follow: the digits of a
time come in pairs. -/
def dateLength? (s : Text) : Option Nat :=
  if s.length < 7 then none
  else if s.length = 7 then some 7
  else if s[4]? = some '-' then
    if s[5]? ≠ some 'W' then some 10
    else if s[8]? ≠ some '-' then some 8
    else if s.length = 9 then none
    else if (s[10]?.map Char.isDigit).getD false then some 8
    else some 10
  else if s[4]? = some 'W' then
    let n := ((s.drop 7).takeWhile Char.isDigit).length
    if n < 2 then some (7 + n) else if n % 2 = 1 then some 7 else some 8
  else some 8

/-- Behind the year: a week and a weekday, Monday unless one is given before the end of the date. -/
def weekDate? (hyphens : Bool) (year length : Nat) (s : Text) : Option Int := do
  let (week, s) ← digits? 2 s
  let read := 4 + (if hyphens then 1 else 0) + 3
  if read < length then
    let s ← if hyphens then Text.skip? "-" s else some s
    let (weekday, _) ← digits? 1 s
    dayOfWeekDate? year week weekday
  else dayOfWeekDate? year week 1

/-- Behind the year: a month and a day, which end the date. -/
def monthDate? (hyphens : Bool) (year length : Nat) (s : Text) : Option Int := do
  let (month, s) ← digits? 2 s
  let s ← if hyphens then Text.skip? "-" s else some s
  let (day, _) ← digits? 2 s
  if length = (if hyphens then 10 else 8) ∧ Date.isValid ⟨year, month, day⟩ then
    some (Date.toDay ⟨year, month, day⟩)
  else none

/-- The day number of the date in front of a text, which has `length` characters. -/
def date? (length : Nat) (s : Text) : Option Int := do
  let (year, s) ← digits? 4 s
  let hyphens := s.head? = some '-'
  let s := if hyphens then s.drop 1 else s
  let day ←
    match s with
    | 'W' :: s => weekDate? hyphens year length s
    | s => monthDate? hyphens year length s
  if 1 ≤ year ∧ 0 ≤ day ∧ day * oneDay < lineEnd then some day else none

/-! ## Reading times -/

/-- A time of day as it is read. -/
structure Time where
  hour : Nat
  minute : Nat
  second : Nat
  micro : Nat
  deriving DecidableEq, Repr

/-- The numbers of a time from its parts: those that are missing are zero. -/
def Time.ofParts (parts : List Nat) (micro : Nat) : Time :=
  ⟨parts.getD 0 0, parts.getD 1 0, parts.getD 2 0, micro⟩

/-- The character that ends a text. -/
def terminator : Char := '\x00'

/-- A fraction of a second, of which `left` characters are in front of the offset: up to six of them
have to be digits, further digits do not count.  With it comes whether anything but the end of the
text follows. -/
def fraction? (left : Nat) (s : Text) : Option (Nat × Bool) := do
  let n := min left 6
  let (value, s) ← digits? n s
  return (value * Nat.pow 10 (6 - n), (s.dropWhile Char.isDigit).headD terminator != terminator)

/-- The parts of a time from one of its numbers on: `missing` numbers may still follow, `read` holds
those before, the last one first, and `left` characters are in front of the offset.  With the time
comes whether anything but the end of the text follows. -/
def timeFrom? (colons : Bool) :
    (missing : Nat) → (read : List Nat) → (left : Nat) → Text → Option (Time × Bool)
  | 0, read, left, s => do
    let (micro, more) ← fraction? left s
    return (.ofParts read.reverse micro, more)
  | missing + 1, read, left, s => do
    let (value, s) ← digits? 2 s
    let c := s.headD terminator
    let colons := if read.isEmpty then c == ':' else colons
    if left = 3 ∧ 128 ≤ c.toNat then none
    else if left ≤ 3 then return (.ofParts (value :: read).reverse 0, c != terminator)
    else if colons && c == ':' then timeFrom? colons missing (value :: read) (left - 3) (s.drop 1)
    else if c == '.' || c == ',' then do
      let (micro, more) ← fraction? (left - 3) (s.drop 1)
      return (.ofParts (value :: read).reverse micro, more)
    else if colons then none
    else timeFrom? colons missing (value :: read) (left - 2) s

/-- Whether a character starts an offset. -/
def startsOffset (c : Char) : Bool := c == '+' || c == '-' || c == 'Z'

/-- The offset that a text ends with: `Z`, or a sign and a time. -/
def offset? (s : Text) : Option Int :=
  match s with
  | [] => none
  | sign :: rest =>
    if sign = 'Z' then if rest.headD terminator = terminator then some 0 else none
    else do
      let (t, more) ← timeFrom? false 3 [] rest.length rest
      let seconds : Int := t.hour * 3600 + t.minute * 60 + t.second
      let size := seconds * oneSecond + t.micro
      if more then none
      else if seconds = 0 then some 0
      else if oneDay ≤ size then none
      else some (if sign = '-' then -size else size)

/-- A time of day on a day, and its offset if it has one. -/
def time? (dayNumber : Int) (s : Text) : Option DateTime := do
  let front := s.takeWhile fun c => !startsOffset c
  let tail := s.drop front.length
  let (t, more) ← timeFrom? false 3 [] front.length s
  if 24 ≤ t.hour ∨ 60 ≤ t.minute ∨ 60 ≤ t.second then none
  else
    let w := wallAt dayNumber t.hour t.minute t.second t.micro
    if tail.isEmpty then if more then none else some (.reading w false)
    else return .moment (.ofWall w (← offset? tail))

end Iso

/-- Read a date, with or without a time of day. -/
def DateTime.ofIso? (s : Text) : Option DateTime := do
  let length ← Iso.dateLength? s
  let dayNumber ← Iso.date? length s
  match s.drop length with
  | [] => return .reading (dayNumber * oneDay) false
  | _ :: rest => Iso.time? dayNumber rest

end Crontab
