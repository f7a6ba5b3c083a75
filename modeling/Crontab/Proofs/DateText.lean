import Crontab.DateText
import Crontab.Proofs.Phrase.TimeOfDay
import Crontab.Proofs.Text.Splitting
import Crontab.Proofs.Time.Iso

/-!
# What is written as a date is read again

A date is tried in six layouts, one after the other, before it is taken for ISO 8601 or anything else.
So it has to be shown that no layout gives another meaning to what was written in one that is tried
later, or in ISO 8601.

In fact every layout reads what was written in it and nothing of the others (`Layout.read?_text`), so
that their order does not matter.  Two orders of a date are told apart by where the first mark is: a
year has four digits and a month has two (`DateOrder.read?_text_of_ne`).  A layout without a time of
day wants the text to end behind the date, and one with it wants a blank there; in ISO 8601 there is a
letter (`Layout.read?_eq_none`).

The layouts are readers; `Layout.text` is the writer that goes with them.
-/

namespace Crontab

namespace DateText

/-! ## Numbers -/

section Numbers

variable {n : ℕ} (s : Text)

/-- Where digits of ASCII are read, digits of any script are read just the same. -/
lemma decimalNumber?_of_digits? {count : ℕ} {s r : Text} (h : Iso.digits? count s = some (n, r)) :
    decimalNumber? count s = some (n, r) := by
  by_cases hshort : s.length < count
  · simp [Iso.digits?, hshort] at h
  by_cases hdigits : (s.take count).all Char.isDigit = true
  · have hdecimals : (s.take count).all Text.isDecimal = true := List.all_eq_true.2 fun c hc =>
      Text.isDecimal_of_isDigit (List.all_eq_true.1 hdigits c hc)
    have hvalue : Text.decimalsValue (s.take count) = digitsValue (s.take count) := by
      cases htake : s.take count with
      | nil => rfl
      | cons c t =>
        rw [htake] at hdigits
        exact Text.decimalsValue_of_isDigits
          (Text.isDigits_iff.2 ⟨List.cons_ne_nil c t, List.all_eq_true.1 hdigits⟩)
    rw [Iso.digits?, if_neg hshort, if_pos hdigits] at h
    rw [decimalNumber?, if_neg hshort, if_pos hdecimals, hvalue, h]
  · simp [Iso.digits?, hshort, hdigits] at h

lemma year?_paddedText (h : n < 10000) : year? (paddedText 4 n ++ s) = some (n, s) :=
  decimalNumber?_of_digits? (Iso.digits?_paddedText (by decide) h s)

-- These readers look at two digits and no further, so that the text behind them may be anything and
-- all that remains is to try the numbers.

lemma month?_paddedText (h₁ : 1 ≤ n) (h₂ : n ≤ 12) : month? (paddedText 2 n ++ s) = some (n, s) := by
  interval_cases n <;> rfl

lemma day?_paddedText (h₁ : 1 ≤ n) (h₂ : n ≤ 31) : day? (paddedText 2 n ++ s) = some (n, s) := by
  interval_cases n <;> rfl

lemma hour?_paddedText (h : n < 24) : hour? (paddedText 2 n ++ s) = some (n, s) := by
  interval_cases n <;> rfl

lemma minute?_paddedText (h : n < 60) : minute? (paddedText 2 n ++ s) = some (n, s) := by
  interval_cases n <;> rfl

end Numbers

/-! ## Numbers that are not there -/

section Rejected

variable {s r : Text} {n : ℕ} {low high : Char}

lemma drop_of_digitFrom? (h : digitFrom? low high s = some (n, r)) : r = s.drop 1 := by
  cases s with
  | nil => simp [digitFrom?] at h
  | cons c s =>
    simp only [digitFrom?, Option.ite_none_right_eq_some, Option.some.injEq, Prod.mk.injEq] at h
    exact h.2.2.symm

lemma drop_of_twoDigits? {low' high' : Char}
    (h : twoDigits? low high (digitFrom? low' high') s = some (n, r)) : r = s.drop 2 := by
  obtain ⟨⟨a, s'⟩, hfirst, h⟩ := Option.bind_eq_some_iff.1 h
  obtain ⟨⟨b, s''⟩, hsecond, h⟩ := Option.bind_eq_some_iff.1 h
  obtain rfl : s'' = r := (Prod.mk.inj (Option.some.inj h)).2
  rw [drop_of_digitFrom? hsecond, drop_of_digitFrom? hfirst, List.drop_drop]

/-- A month takes one or two characters. -/
lemma drop_of_month? (h : month? s = some (n, r)) : r = s.drop 1 ∨ r = s.drop 2 := by
  rcases Option.or_eq_some_iff.1 h with h | ⟨-, h⟩
  · exact .inr (drop_of_twoDigits? h)
  · rcases Option.or_eq_some_iff.1 h with h | ⟨-, h⟩
    · exact .inr (drop_of_twoDigits? h)
    · exact .inl (drop_of_digitFrom? h)

/-- Behind one or two of the digits of a year there is another digit. -/
lemma skip?_of_month?_year {y : ℕ} (hy : y < 10000) {sep : Char} (hsep : Text.isDecimal sep = false)
    (h : month? (paddedText 4 y ++ s) = some (n, r)) : Text.skip? [sep] r = none := by
  have hlength := length_paddedText (by decide) (show y < 10 ^ 4 from hy)
  match hdigits : paddedText 4 y, hlength with
  | [a, b, c, d], _ =>
  have hdigit : ∀ x ∈ [a, b, c, d], sep ≠ x := by
    rintro x hx rfl
    rw [← hdigits] at hx
    simp [Text.isDecimal_of_isDigit (isDigit_of_mem_paddedText hx)] at hsep
  rw [hdigits] at h
  rcases drop_of_month? h with rfl | rfl
  · simp [Text.skip?, hdigit b]
  · simp [Text.skip?, hdigit c]

end Rejected

/-! ## Dates in an order -/

namespace DateOrder

/-- What stands between the numbers of a date. -/
def sep : DateOrder → Char
  | yearMonthDay sep => sep
  | monthDayYear sep => sep

/-- A date, its numbers filled up with zeros. -/
def text : DateOrder → Date → Text
  | yearMonthDay sep, d =>
    paddedText 4 d.year ++ sep :: (paddedText 2 d.month ++ sep :: paddedText 2 d.day)
  | monthDayYear sep, d =>
    paddedText 2 d.month ++ sep :: (paddedText 2 d.day ++ sep :: paddedText 4 d.year)

variable {o o' : DateOrder} {d : Date} (hd : d.isValid = true) (hyear : d.year < 10000) (s : Text)

include hd hyear

lemma read?_text (o : DateOrder) : o.read? (o.text d ++ s) = some (d, s) := by
  obtain ⟨-, ⟨hfirst, hlast⟩, hday, hmost⟩ := Date.isValid_iff.1 hd
  have hday31 : d.day ≤ 31 := hmost.trans (daysInMonth_le _ _)
  have hskip : ∀ (c : Char) (r : Text), Text.skip? [c] (c :: r) = some r := fun c => Text.skip?_append [c]
  cases o <;>
    simp only [read?, text, List.append_assoc, List.cons_append, year?_paddedText _ hyear,
      month?_paddedText _ hfirst hlast, day?_paddedText _ hday hday31, hskip, Option.bind_eq_bind,
      Option.bind_some, pure]

/-- A date in another order or with other marks is not read. -/
lemma read?_text_of_ne (h : o ≠ o') (ho : Text.isDecimal o.sep = false)
    (ho' : Text.isDecimal o'.sep = false) : o.read? (o'.text d ++ s) = none := by
  obtain ⟨-, ⟨hfirst, hlast⟩, -⟩ := Date.isValid_iff.1 hd
  have hskip : ∀ {c c' : Char} {r : Text}, c ≠ c' → Text.skip? [c] (c' :: r) = none := fun hne => by
    simp [Text.skip?, hne]
  cases o with
  | yearMonthDay sep =>
    cases o' with
    | yearMonthDay sep' =>
      have hne : sep ≠ sep' := fun heq => h (heq ▸ rfl)
      simp only [read?, text, List.append_assoc, List.cons_append, year?_paddedText _ hyear,
        Option.bind_eq_bind, Option.bind_some, hskip hne, Option.bind_none]
    | monthDayYear sep' =>
      -- the mark is found where the third digit of a year should be
      have hyear : year? (text (.monthDayYear sep') d ++ s) = none := by
        have hdecimal : Text.isDecimal sep' = false := ho'
        simp [year?, decimalNumber?, text, paddedText_two (show d.month < 100 by omega), hdecimal]
      simp only [read?, hyear, Option.bind_eq_bind, Option.bind_none]
  | monthDayYear sep =>
    cases o' with
    | yearMonthDay sep' =>
      simp only [read?, text, List.append_assoc, List.cons_append, Option.bind_eq_bind]
      refine Option.bind_eq_none_iff.2 fun month hmonth => ?_
      have hnone : Text.skip? [sep] month.2 = none :=
        skip?_of_month?_year (n := month.1) hyear ho hmonth
      rw [hnone, Option.bind_none]
    | monthDayYear sep' =>
      have hne : sep ≠ sep' := fun heq => h (heq ▸ rfl)
      simp only [read?, text, List.append_assoc, List.cons_append, month?_paddedText _ hfirst hlast,
        Option.bind_eq_bind, Option.bind_some, hskip hne, Option.bind_none]

end DateOrder

/-! ## Layouts -/

namespace Layout

/-- A reading in a layout. -/
def text (l : Layout) (c : Civil) : Text :=
  l.date.text c.date ++
    if l.withTime then ' ' :: (paddedText 2 c.hour ++ ':' :: paddedText 2 c.minute) else []

variable {l l' : Layout} {w : Int}

/-- A date is not read when neither a blank nor the end of the text is behind it. -/
lemma read?_eq_none {o : DateOrder} {d : Date} (hd : d.isValid = true) (hyear : d.year < 10000)
    (hl : Text.isDecimal l.date.sep = false) (ho : Text.isDecimal o.sep = false) {c : Char}
    (hc : Text.isBlank c = false) (s : Text) : l.read? (o.text d ++ c :: s) = none := by
  by_cases hdate : l.date = o
  · cases htime : l.withTime <;>
      simp [read?, hdate, htime, DateOrder.read?_text hd hyear, Text.skipBlanks?, hc]
  · simp [read?, DateOrder.read?_text_of_ne hd hyear (c :: s) hdate hl ho]

section Readings

variable (hw : 0 ≤ w)

include hw

lemma wallOf?_minute :
    wallOf? (Civil.ofWall w).date (Civil.ofWall w).hour (Civil.ofWall w).minute =
      some (minuteOf w * oneMinute) := by
  rw [wallOf?, if_pos (Civil.isValid_date_ofWall w)]
  simp only [Civil.ofWall, wallAt, Date.toDay_ofDay, minuteOf, oneDay, oneHour, oneMinute, oneSecond,
    Option.some.injEq]
  omega

lemma wallOf?_midnight : wallOf? (Civil.ofWall w).date 0 0 = some (startOfDay w) := by
  rw [wallOf?, if_pos (Civil.isValid_date_ofWall w)]
  simp only [Civil.ofWall, wallAt, Date.toDay_ofDay, startOfDay, oneDay, oneHour, oneMinute, oneSecond,
    Option.some.injEq]
  omega

end Readings

lemma skipBlanks?_paddedText {n : ℕ} (hn : n < 100) (s : Text) :
    Text.skipBlanks? (' ' :: (paddedText 2 n ++ s)) = some (paddedText 2 n ++ s) := by
  have hdigit : Text.isDecimal (Nat.digitChar (n / 10)) = true :=
    Text.isDecimal_of_isDigit (by simp [Nat.isDigit_digitChar]; omega)
  rw [paddedText_two hn, Text.skipBlanks?, if_pos (by decide), List.cons_append,
    Text.trimLeft_cons (Text.isBlank_of_isDecimal hdigit)]

/-- What is written in a layout is read in this layout only. -/
lemma read?_text (hl : Text.isDecimal l.date.sep = false) (hl' : Text.isDecimal l'.date.sep = false)
    (hline : 0 ≤ w ∧ w < lineEnd) :
    l.read? (l'.text (Civil.ofWall w)) =
      if l = l' then some (if l.withTime then minuteOf w * oneMinute else startOfDay w) else none := by
  have hd := Civil.isValid_date_ofWall w
  have hyear := Civil.year_ofWall_lt hline.2
  obtain ⟨o, timed⟩ := l
  obtain ⟨o', timed'⟩ := l'
  by_cases hdate : o = o'
  · subst hdate
    simp only [read?, text, DateOrder.read?_text hd hyear, Option.bind_eq_bind, Option.bind_some]
    -- with the same date, only the time behind it can tell the layouts apart
    cases timed <;> cases timed'
    case false.false => simpa using wallOf?_midnight hline.1
    case false.true => simp
    case true.false => simp [Text.skipBlanks?]
    case true.true =>
      have hhour := Civil.hour_ofWall_lt w
      have hminute := minute?_paddedText [] (Civil.minute_ofWall_lt w)
      have hskip : ∀ r : Text, Text.skip? ":" (':' :: r) = some r := Text.skip?_append [':']
      rw [List.append_nil] at hminute
      simp only [if_true, skipBlanks?_paddedText (hhour.trans (by decide)), hour?_paddedText _ hhour,
        hskip, hminute, Option.bind_some, List.isEmpty_nil]
      exact wallOf?_minute hline.1
  · have hne : (⟨o, timed⟩ : Layout) ≠ ⟨o', timed'⟩ := fun h => hdate (congrArg Layout.date h)
    simp [read?, text, DateOrder.read?_text_of_ne hd hyear _ hdate hl hl', hne]

end Layout

/-! ## Texts that start and end with a number -/

/-- A text starts with a number and ends with one, so that there are no blanks around it. -/
structure IsFramed (s : Text) : Prop where
  start : ∃ width n, paddedText width n <+: s
  stop : ∃ width n, paddedText width n <:+ s

namespace IsFramed

variable {s t : Text}

lemma number (width n : ℕ) : IsFramed (paddedText width n) :=
  ⟨⟨width, n, List.prefix_rfl⟩, width, n, List.suffix_rfl⟩

lemma append_cons (hs : IsFramed s) (c : Char) (ht : IsFramed t) : IsFramed (s ++ c :: t) where
  start := hs.start.imp fun _ => .imp fun _ h => h.trans (List.prefix_append s _)
  stop := ht.stop.imp fun _ => .imp fun _ h =>
    h.trans <| (List.suffix_cons c t).trans (List.suffix_append s _)

lemma trim (h : IsFramed s) : Text.trim s = s := by
  have hne : ∀ width n : ℕ, paddedText width n ≠ [] := fun _ n =>
    List.append_ne_nil_of_right_ne_nil _ (natText_ne_nil n)
  have hblank : ∀ {width n : ℕ} {c : Char}, c ∈ paddedText width n → Text.isBlank c = false := fun hc =>
    Text.isBlank_of_isDecimal (Text.isDecimal_of_isDigit (isDigit_of_mem_paddedText hc))
  obtain ⟨⟨width, m, r, rfl⟩, width', n, r', hr'⟩ := h
  refine Text.trim_of_ends (fun c hc => ?_) fun c hc => ?_
  · rw [List.head?_append_of_ne_nil _ (hne _ _)] at hc
    exact hblank (List.mem_of_mem_head? hc)
  · rw [← hr', List.getLast?_append_of_ne_nil _ (hne _ _)] at hc
    exact hblank (List.mem_of_mem_getLast? hc)

lemma dateText (o : DateOrder) (d : Date) : IsFramed (o.text d) := by
  cases o with
  | yearMonthDay sep =>
    exact (number 4 d.year).append_cons sep ((number 2 d.month).append_cons sep (number 2 d.day))
  | monthDayYear sep =>
    exact (number 2 d.month).append_cons sep ((number 2 d.day).append_cons sep (number 4 d.year))

lemma text (l : Layout) (c : Civil) : IsFramed (l.text c) := by
  unfold Layout.text
  split
  · have htime := (number 2 c.hour).append_cons ':' (number 2 c.minute)
    exact (dateText l.date c.date).append_cons ' ' htime
  · rw [List.append_nil]
    exact dateText l.date c.date

lemma timeText (c : Civil) : IsFramed (Iso.timeText c) := by
  have hsecond : IsFramed (paddedText 2 c.second ++ microText c.micro) := by
    unfold microText
    split
    · rw [List.append_nil]
      exact number 2 c.second
    · exact (number 2 c.second).append_cons '.' (number 6 c.micro)
  have hminute := (number 2 c.hour).append_cons ':' ((number 2 c.minute).append_cons ':' hsecond)
  simpa [Iso.timeText] using hminute

lemma isoText (c : Civil) : IsFramed c.isoText := by
  have hdate : c.date.isoText = (DateOrder.yearMonthDay '-').text c.date := by
    simp [Date.isoText, DateOrder.text]
  rw [Iso.isoText_eq, hdate]
  exact (dateText _ c.date).append_cons 'T' (timeText c)

lemma moment {m : Moment} (hminutes : oneMinute ∣ m.offset) : IsFramed m.isoText := by
  rw [Moment.isoText, Iso.offsetText_of_minutes hminutes, List.append_nil]
  exact (isoText _).append_cons _ ((number 2 _).append_cons ':' (number 2 _))

end IsFramed

end DateText

namespace DateTime

open DateText

variable (place : History) (now : Int) {w : Int}

/-- No mark between the numbers of a date is a digit. -/
lemma isDecimal_sep : ∀ l ∈ layouts, Text.isDecimal l.date.sep = false := by decide

lemma ofText?_isoText_append (hline : 0 ≤ w ∧ w < lineEnd) {t : Text} {d : DateTime}
    (hframed : IsFramed ((Civil.ofWall w).isoText ++ t))
    (hiso : ofIso? ((Civil.ofWall w).isoText ++ t) = some d) :
    ofText? place now ((Civil.ofWall w).isoText ++ t) = .ok (some d) := by
  have htext : (Civil.ofWall w).isoText ++ t =
      (DateOrder.yearMonthDay '-').text (Civil.ofWall w).date ++
        'T' :: (Iso.timeText (Civil.ofWall w) ++ t) := by
    simp [Iso.isoText_eq, Date.isoText, DateOrder.text]
  have hnone : layouts.findSome? (fun l => l.read? ((Civil.ofWall w).isoText ++ t)) = none := by
    refine List.findSome?_eq_none_iff.2 fun l hl => ?_
    rw [htext]
    exact Layout.read?_eq_none (Civil.isValid_date_ofWall w) (Civil.year_ofWall_lt hline.2)
      (isDecimal_sep l hl) rfl rfl _
  simp only [ofText?, hframed.trim, hnone, hiso]
  rfl

lemma ofText?_text {l : Layout} (hl : l ∈ layouts) (hline : 0 ≤ w ∧ w < lineEnd) :
    ofText? place now (l.text (Civil.ofWall w)) =
      .ok (some (.reading (if l.withTime then minuteOf w * oneMinute else startOfDay w) false)) := by
  have hread : ∀ l' ∈ layouts, l'.read? (l.text (Civil.ofWall w)) =
      if l' = l then some (if l'.withTime then minuteOf w * oneMinute else startOfDay w) else none :=
    fun l' hl' => Layout.read?_text (isDecimal_sep l' hl') (isDecimal_sep l hl) hline
  rw [ofText?, (IsFramed.text l _).trim]
  cases hfound : layouts.findSome? fun l' => l'.read? (l.text (Civil.ofWall w)) with
  | none =>
    have hnone := List.findSome?_eq_none_iff.1 hfound l hl
    rw [hread l hl, if_pos rfl] at hnone
    cases hnone
  | some v =>
    obtain ⟨l', hl', hv⟩ := List.exists_of_findSome?_eq_some hfound
    rw [hread l' hl'] at hv
    obtain ⟨rfl, rfl⟩ : l' = l ∧ _ = v := by simpa using hv
    rfl

/-- A date that was written is read again, whatever the time is at that moment.

A reading comes back without the information which of two times it is, for that is not written.  A
moment comes back with its offset, if that counts whole minutes and is shorter than a day; what comes
back is the same instant with the same offset, and nothing is said of the zone that a time may have been
told in, for that is not written either.  A whole minute that is written in numbers, in one of three
orders with a time of day behind the date, comes back as it was, and in the same orders without a time of
day, the start of the day comes back. -/
theorem ofText?_written (place : History) (now : Int) :
    (∀ (w : Int) (later : Bool), 0 ≤ w → w < lineEnd →
      ofText? place now (isoText (.reading w later)) = .ok (some (.reading w false))) ∧
    (∀ m : Moment, 0 ≤ m.wall → m.wall < lineEnd → oneMinute ∣ m.offset → |m.offset| < oneDay →
      ofText? place now (isoText (.moment m)) = .ok (some (.moment m))) ∧
    ∀ w : Int, 0 ≤ w → w < lineEnd → oneMinute ∣ w →
      let c := Civil.ofWall w
      let year := paddedText 4 c.date.year
      let month := paddedText 2 c.date.month
      let day := paddedText 2 c.date.day
      let time := paddedText 2 c.hour ++ ":" ++ paddedText 2 c.minute
      (∀ t ∈ [year ++ "-" ++ month ++ "-" ++ day ++ " " ++ time,
          month ++ "/" ++ day ++ "/" ++ year ++ " " ++ time,
          year ++ "/" ++ month ++ "/" ++ day ++ " " ++ time],
        ofText? place now t = .ok (some (.reading w false))) ∧
      ∀ t ∈ [year ++ "-" ++ month ++ "-" ++ day, month ++ "/" ++ day ++ "/" ++ year,
          year ++ "/" ++ month ++ "/" ++ day],
        ofText? place now t = .ok (some (.reading (startOfDay w) false)) := by
  refine ⟨fun w later h₀ h => ?_, fun m h₀ h hminutes hday => ?_, fun w h₀ h hminute => ?_⟩
  · have hread := ofText?_isoText_append place now ⟨h₀, h⟩ (t := []) (d := .reading w false)
    simp only [List.append_nil] at hread
    exact hread (.isoText _) (ofIso?_isoText_reading ⟨h₀, h⟩ later)
  · exact ofText?_isoText_append place now ⟨h₀, h⟩ (.moment hminutes)
      (ofIso?_isoText_moment ⟨h₀, h⟩ hminutes hday)
  · intro c year month day time
    have hsame : minuteOf w * oneMinute = w := by
      obtain ⟨k, rfl⟩ := hminute
      simp only [minuteOf, oneMinute]
      omega
    have hread : ∀ l ∈ layouts, ∀ t, t = l.text c → ofText? place now t =
        .ok (some (.reading (if l.withTime then w else startOfDay w) false)) := by
      rintro l hl _ rfl
      rw [ofText?_text place now hl ⟨h₀, h⟩, hsame]
    -- each of the six texts is what one of the layouts writes
    constructor
    · intro t ht
      simp only [List.mem_cons, List.not_mem_nil, or_false] at ht
      rcases ht with ht | ht | ht
      · exact hread ⟨.yearMonthDay '-', true⟩ (by decide) t
          (by simp [ht, Layout.text, DateOrder.text, year, month, day, time])
      · exact hread ⟨.monthDayYear '/', true⟩ (by decide) t
          (by simp [ht, Layout.text, DateOrder.text, year, month, day, time])
      · exact hread ⟨.yearMonthDay '/', true⟩ (by decide) t
          (by simp [ht, Layout.text, DateOrder.text, year, month, day, time])
    · intro t ht
      simp only [List.mem_cons, List.not_mem_nil, or_false] at ht
      rcases ht with ht | ht | ht
      · exact hread ⟨.yearMonthDay '-', false⟩ (by decide) t
          (by simp [ht, Layout.text, DateOrder.text, year, month, day])
      · exact hread ⟨.monthDayYear '/', false⟩ (by decide) t
          (by simp [ht, Layout.text, DateOrder.text, year, month, day])
      · exact hread ⟨.yearMonthDay '/', false⟩ (by decide) t
          (by simp [ht, Layout.text, DateOrder.text, year, month, day])

/-- Five past nine at Christmas in 2024, with a fraction of a second in ISO 8601, with an offset and
without one, and in numbers in all six ways. -/
theorem ofText?_written_christmas :
    let w := wallAt (Date.toDay ⟨2024, 12, 25⟩) 9 5 0 0
    let m := Moment.ofWall (w + 250000) (-(5 * oneHour + 30 * oneMinute))
    let here : History := ⟨0, []⟩
    isoText (.moment m) = "2024-12-25T09:05:00.250000-05:30".toList ∧
      ofText? here 0 "2024-12-25T09:05:00.250000-05:30" = .ok (some (.moment m)) ∧
      isoText (.reading (w + 250000) true) = "2024-12-25T09:05:00.250000".toList ∧
      ofText? here 0 "2024-12-25T09:05:00.250000" = .ok (some (.reading (w + 250000) false)) ∧
      (∀ t : Text, t ∈ ["2024-12-25 09:05".toList, "12/25/2024 09:05".toList,
          "2024/12/25 09:05".toList] →
        ofText? here 0 t = .ok (some (.reading w false))) ∧
      ∀ t : Text, t ∈ ["2024-12-25".toList, "12/25/2024".toList, "2024/12/25".toList] →
        ofText? here 0 t = .ok (some (.reading (wallAt (Date.toDay ⟨2024, 12, 25⟩) 0 0 0 0) false)) := by
  intro w m here
  obtain ⟨hreading, hmoment, hnumbers⟩ := ofText?_written here 0
  have hmomentText : isoText (.moment m) = "2024-12-25T09:05:00.250000-05:30".toList := by decide
  have hreadingText : isoText (.reading (w + 250000) true) = "2024-12-25T09:05:00.250000".toList := by
    decide
  obtain ⟨htimes, hdates⟩ := hnumbers w (by decide) (by decide) (by decide)
  refine ⟨hmomentText, ?_, hreadingText, ?_, fun t ht => htimes t ?_, fun t ht => hdates t ?_⟩
  · rw [← hmomentText]
    exact hmoment m (by decide) (by decide) (by decide) (by decide)
  · rw [← hreadingText]
    exact hreading _ true (by decide) (by decide)
  · revert t
    decide
  · revert t
    decide

end DateTime

end Crontab
