import Crontab.Phrase.Table

/-!
# Clauses

A text without a set phrase is searched for clauses, each of which says something about one or two
fields: a period ("every 5 minutes"), a time, a weekday, a day of the month, a month, a range of
weekdays.  Each clause is looked for by itself, anywhere in the text, so their order does not
matter.  They are applied to a template in a fixed order, and a clause that needs a time of day
brings one of its own unless one is set already.

A `Draft` is the template together with whether any clause was found.
-/

namespace Crontab

/-! ## Names -/

/-- The names of the weekdays in a phrase. -/
def weekdayWords : List (Text × Nat) :=
  [("sunday", 0), ("sun", 0), ("monday", 1), ("mon", 1), ("tuesday", 2), ("tue", 2),
    ("wednesday", 3), ("wed", 3), ("thursday", 4), ("thu", 4), ("friday", 5), ("fri", 5),
    ("saturday", 6), ("sat", 6)]

/-- The names of the months in a phrase. -/
def monthWords : List (Text × Nat) :=
  [("january", 1), ("jan", 1), ("february", 2), ("feb", 2), ("march", 3), ("mar", 3),
    ("april", 4), ("apr", 4), ("may", 5), ("june", 6), ("jun", 6), ("july", 7), ("jul", 7),
    ("august", 8), ("aug", 8), ("september", 9), ("sep", 9), ("october", 10), ("oct", 10),
    ("november", 11), ("nov", 11), ("december", 12), ("dec", 12)]

/-! ## Single clauses -/

namespace Clause

/-- The number, as it is written, in "every N minutes" or the same with another unit. -/
def every? (unit s : Text) : Option Text :=
  Text.find?
    (fun before s => do
      let s ← Text.wordStart? "every" before s
      let s ← Text.skipBlanks? s
      let (number, s) ← Text.decimals? s
      let s ← Text.skipBlanks? s
      let s ← Text.skip? unit s
      if Text.pluralEnds s then some number else none) s

/-- Whether "every day" occurs. -/
def everyDay (s : Text) : Bool :=
  (Text.find?
    (fun before s => do
      let s ← Text.wordStart? "every" before s
      let s ← Text.skipBlanks? s
      let s ← Text.skip? "day" s
      if Text.wordEnds s then some () else none) s).isSome

/-- Whether a name of a weekday occurs as a word, in the singular or the plural. -/
def namesDay (name s : Text) : Bool :=
  (Text.find?
    (fun before s => do
      let s ← Text.wordStart? name before s
      if Text.pluralEnds s then some () else none) s).isSome

/-- The weekday of the first name in the list of names that occurs. -/
def weekday? (s : Text) : Option Nat :=
  (weekdayWords.find? fun n => namesDay n.1 s).map Prod.snd

/-- Whether "in" and a name of a month occur. -/
def namesMonth (name s : Text) : Bool :=
  (Text.find?
    (fun before s => do
      let s ← Text.wordStart? "in" before s
      let s ← Text.skipBlanks? s
      let s ← Text.skip? name s
      if Text.wordEnds s then some () else none) s).isSome

/-- The month of the first name in the list of names that occurs. -/
def month? (s : Text) : Option Nat :=
  (monthWords.find? fun n => namesMonth n.1 s).map Prod.snd

/-- Whether a text starts with an ending of an ordinal number. -/
def startsOrdinal (s : Text) : Bool :=
  ["st", "nd", "rd", "th"].any fun ending => (Text.skip? ending.toList s).isSome

/-- Whether a number that was read up to here is an hour: digits or a colon follow it, or a half of
the day. -/
def continuesAsTime (s : Text) : Bool :=
  (match s with
    | [] => false
    | c :: _ => Text.isDecimal c || c == ':') ||
  match WrittenTime.readHalf (Text.trimLeft s) with
  | (some _, r) => Text.wordEnds r
  | (none, _) => false

/-- The number behind "on" or "on the", if it is not the start of a time. -/
def dayOfMonth? (s : Text) : Option Nat :=
  Text.find?
    (fun before s => do
      let s ← Text.wordStart? "on" before s
      let s ← Text.skipBlanks? s
      let s := ((Text.skip? "the" s).bind Text.skipBlanks?).getD s
      let (number, s) ← Text.upToTwoDecimals? s
      if startsOrdinal s || !continuesAsTime s then some (Text.decimalsValue number) else none) s

/-- The word that joins the ends of a range. -/
def rangeWord? (s : Text) : Option Text :=
  ["through", "to", "-"].findSome? fun w =>
    (Text.skip? w.toList s).bind Text.skipBlanks?

/-- Two words with a range word between them, at the start of a word; and the text behind. -/
def wordRange? (before : Option Char) (s : Text) : Option ((Text × Text) × Text) := do
  if !Text.wordMayStart before then none
  else
    let (first, s) ← Text.word? s
    let s ← Text.skipBlanks? s
    let s ← rangeWord? s
    let (last, s) ← Text.word? s
    return ((first, last), s)

/-- The weekdays of a range of words, if both are names of weekdays. -/
def weekdayPair? (words : Text × Text) : Option (Nat × Nat) :=
  match weekdayWords.lookup words.1, weekdayWords.lookup words.2 with
  | some a, some b => some (a, b)
  | _, _ => none

/-- Look for a range of weekdays.  Ranges of words do not overlap: behind one that is no range of
weekdays the search goes on where it ends.  The counter says how many characters of such a range are
still to be passed over. -/
def weekdayRangeFrom : Nat → Option Char → Text → Option (Nat × Nat)
  | _, _, [] => none
  | n + 1, _, c :: s => weekdayRangeFrom n (some c) s
  | 0, before, c :: s =>
    match wordRange? before (c :: s) with
    | none => weekdayRangeFrom 0 (some c) s
    | some (words, rest) =>
      match weekdayPair? words with
      | some pair => some pair
      | none => weekdayRangeFrom (s.length - rest.length) (some c) s

/-- The first range of weekdays in a text. -/
def weekdayRange? (s : Text) : Option (Nat × Nat) := weekdayRangeFrom 0 none s

end Clause

/-! ## Drafts -/

/-- A template that clauses fill in, and whether any of them did. -/
structure Draft where
  template : Template
  matched : Bool
  deriving DecidableEq, Repr

namespace Draft

/-- The draft before any clause: every minute. -/
def empty : Draft := ⟨.everyMinute, false⟩

/-- Set the time of day to a full hour, where it is not set yet. -/
def withDefaultTime (hour : Nat) (t : Template) : Template :=
  { t with
    minute := if t.minute = "*" then "0" else t.minute
    hour := if t.hour = "*" then natText hour else t.hour }

/-- Apply a clause that was found; one that was not changes nothing. -/
def apply {α : Type} (clause : Option α) (fill : α → Template → Template) (d : Draft) : Draft :=
  match clause with
  | none => d
  | some a => ⟨fill a d.template, true⟩

/-- The draft of all clauses of a text. -/
def compose (s : Text) : Draft :=
  empty
    |> apply (Clause.every? "minute" s) (fun n t => { t with minute := "*/" ++ n })
    |> apply (Clause.every? "hour" s) (fun n t => { t with minute := "0", hour := "*/" ++ n })
    |> apply (TimeOfDay.atClause? s) (fun time t => t.atTime time)
    |> apply (if Clause.everyDay s then some () else none) (fun _ t => withDefaultTime 0 t)
    |> apply (Clause.weekday? s)
        (fun w t => withDefaultTime 9 { t with dayOfWeek := natText w })
    |> apply ((Clause.dayOfMonth? s).filter fun n => decide (1 ≤ n ∧ n ≤ 31))
        (fun n t => withDefaultTime 0 { t with dayOfMonth := natText n })
    |> apply (Clause.month? s) (fun m t => { t with month := natText m })
    |> apply (Clause.weekdayRange? s)
        (fun r t =>
          withDefaultTime 9 { t with dayOfWeek := natText r.1 ++ "-" ++ natText r.2 })

/-- The template of a draft that some clause filled in. -/
def template? (d : Draft) : Option Template := if d.matched then some d.template else none

end Draft

end Crontab
