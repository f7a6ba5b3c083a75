import Crontab.Proofs.Calendar
import Crontab.Time.Iso

/-!
# What is written in ISO 8601 is read again

The notation of ISO 8601 is read in many more forms than it is written in, and the reader finds out on
its way what it has in front of it: how long the date is, how many numbers the time of day has and
whether a fraction follows, and where the offset starts.  The lemmas follow the text from left to
right, one for each of these decisions:

* `dateLength?_isoText` and `date?_isoText` for the date;
* `timeFrom?_colon`, `timeFrom?_end` and `timeFrom?_fraction` for a number of a time of day, by what
  is behind it;
* `startsOffset_of_mem_timeText` and `time?_timeText_append` for where the time of day ends;
* `offset?_offsetText` for the offset, which is written in hours and minutes when it counts whole
  minutes.

`ofIso?_isoText_reading` and `ofIso?_isoText_moment` put them together.
-/

namespace Crontab

/-! ## Readings put together again -/

namespace Civil

variable {w : Int}

/-- A reading is put together again from its parts. -/
theorem wallAt_ofWall (hw : 0 ≤ w) :
    wallAt (ofWall w).date.toDay (ofWall w).hour (ofWall w).minute (ofWall w).second
      (ofWall w).micro = w := by
  simp only [ofWall, wallAt, Date.toDay_ofDay, oneDay, oneHour, oneMinute, oneSecond]
  omega

lemma isValid_date_ofWall (w : Int) : (ofWall w).date.isValid = true := Date.isValid_ofDay _

lemma year_ofWall_lt (hw : w < lineEnd) : (ofWall w).date.year < 10000 := by
  rw [Date.year_lt_iff (isValid_date_ofWall w)]
  simp only [ofWall, Date.toDay_ofDay, oneDay]
  simp only [lineEnd, oneDay] at hw
  omega

/-- The numbers of a time of day. -/
structure IsTimeOfDay (c : Civil) : Prop where
  hour : c.hour < 24
  minute : c.minute < 60
  second : c.second < 60
  micro : c.micro < 10 ^ 6

lemma isTimeOfDay_ofWall (w : Int) : (ofWall w).IsTimeOfDay where
  hour := hour_ofWall_lt w
  minute := minute_ofWall_lt w
  second := by simp only [ofWall]; omega
  micro := by simp only [ofWall, oneSecond]; omega

end Civil

namespace Iso

/-! ## Numbers -/

lemma digits?_paddedText {width n : ℕ} (hwidth : 0 < width) (h : n < 10 ^ width) (s : Text) :
    digits? width (paddedText width n ++ s) = some (n, s) := by
  have hlength := length_paddedText hwidth h
  have hdigits : (paddedText width n).all Char.isDigit = true :=
    List.all_eq_true.2 fun c => isDigit_of_mem_paddedText
  have hlong : ¬ (paddedText width n ++ s).length < width := by
    rw [List.length_append, hlength]
    omega
  rw [digits?, if_neg hlong, List.take_left' hlength, if_pos hdigits, List.drop_left' hlength,
    digitsValue_paddedText]

lemma length_two {n : ℕ} (h : n < 100) : (paddedText 2 n).length = 2 := length_paddedText (by decide) h

lemma digitChar_ne {n : ℕ} {c : Char} (hn : n < 10) (hc : c.isDigit = false) :
    Nat.digitChar n ≠ c := by
  rintro rfl
  simp [Nat.isDigit_digitChar, hn] at hc

/-! ## Dates -/

section Dates

variable {d : Date} (hd : d.isValid = true)

lemma isoText_append (d : Date) (s : Text) :
    d.isoText ++ s =
      paddedText 4 d.year ++
        ('-' :: (paddedText 2 d.month ++ ('-' :: (paddedText 2 d.day ++ s)))) := by
  simp [Date.isoText]

include hd

lemma month_lt : d.month < 100 := by
  obtain ⟨-, ⟨-, hmonth⟩, -⟩ := Date.isValid_iff.1 hd
  omega

lemma day_lt : d.day < 100 := by
  obtain ⟨-, -, -, hlast⟩ := Date.isValid_iff.1 hd
  have hmost := daysInMonth_le (isLeap d.year) d.month
  omega

lemma monthDate?_isoText (s : Text) :
    monthDate? true d.year 10 (paddedText 2 d.month ++ '-' :: (paddedText 2 d.day ++ s)) =
      some (d.toDay : Int) := by
  have hmonth : d.month < 10 ^ 2 := month_lt hd
  have hday : d.day < 10 ^ 2 := day_lt hd
  have hskip : ∀ r : Text, Text.skip? "-" ('-' :: r) = some r := Text.skip?_append ['-']
  rw [monthDate?, digits?_paddedText (by decide) hmonth]
  simp only [Option.bind_eq_bind, Option.bind_some, if_true, hskip,
    digits?_paddedText (by decide) hday]
  rw [if_pos ⟨trivial, hd⟩]

variable (hyear : d.year < 10000)

include hyear

lemma length_isoText : d.isoText.length = 10 := by
  have hy := length_paddedText (by decide) (show d.year < 10 ^ 4 from hyear)
  simp [Date.isoText, hy, length_two (month_lt hd), length_two (day_lt hd)]

/-- The hyphen behind the year and the digit behind the hyphen tell that the date has ten characters. -/
lemma dateLength?_isoText (s : Text) : dateLength? (d.isoText ++ s) = some 10 := by
  have hm := month_lt hd
  have hlength := length_isoText hd hyear
  have hy := length_paddedText (by decide) (show d.year < 10 ^ 4 from hyear)
  have hhyphen : (d.isoText ++ s)[4]? = some '-' := by
    rw [isoText_append, List.getElem?_append_right hy.le, hy]
    rfl
  have hdigit : (d.isoText ++ s)[5]? = some (Nat.digitChar (d.month / 10)) := by
    rw [isoText_append, List.getElem?_append_right (by omega), hy, paddedText_two hm]
    rfl
  have hletter : (d.isoText ++ s)[5]? ≠ some 'W' := by
    rw [hdigit, ne_eq, Option.some_inj]
    exact digitChar_ne (by omega) rfl
  have hlong : ¬ (d.isoText ++ s).length < 7 ∧ (d.isoText ++ s).length ≠ 7 := by
    rw [List.length_append, hlength]
    omega
  rw [dateLength?, if_neg hlong.1, if_neg hlong.2, if_pos hhyphen, if_pos hletter]

lemma date?_isoText (s : Text) : date? 10 (d.isoText ++ s) = some (d.toDay : Int) := by
  have hy : d.year < 10 ^ 4 := hyear
  have hm := month_lt hd
  have hmonth := monthDate?_isoText hd s
  have hwithin : 1 ≤ d.year ∧ 0 ≤ (d.toDay : Int) ∧ (d.toDay : Int) * oneDay < lineEnd := by
    obtain ⟨hfirst, -⟩ := Date.isValid_iff.1 hd
    have hline : d.toDay < 3652059 := (Date.year_lt_iff hd).1 hyear
    simp only [lineEnd, oneDay]
    omega
  rw [paddedText_two hm] at hmonth
  rw [isoText_append, paddedText_two hm, date?, digits?_paddedText (by decide) hy]
  simp only [Option.bind_eq_bind, Option.bind_some, List.head?_cons, List.drop_one, List.tail_cons,
    if_true, decide_true]
  split
  · next week heq =>
    exact absurd (List.cons.inj heq).1 (digitChar_ne (by omega) rfl)
  · rw [hmonth, Option.bind_some, if_pos hwithin]

end Dates

/-! ## Times of day -/

section Times

variable {colons : Bool} {missing left v : ℕ} {read : List ℕ}

/-- A number that is not the last one, with a colon behind it. -/
lemma timeFrom?_colon (hv : v < 100) (hleft : 4 ≤ left) (hcolons : read = [] ∨ colons = true)
    (s : Text) :
    timeFrom? colons (missing + 1) read left (paddedText 2 v ++ ':' :: s) =
      timeFrom? true missing (v :: read) (left - 3) s := by
  have hv : v < 10 ^ 2 := hv
  have hused : (if read.isEmpty then (':' == ':') else colons) = true := by
    rcases hcolons with rfl | rfl <;> simp
  rw [timeFrom?, digits?_paddedText (by decide) hv]
  simp only [Option.bind_eq_bind, Option.bind_some, List.headD_cons, hused]
  rw [if_neg (by omega), if_neg (by omega)]
  rfl

/-- The last number, when there is no fraction behind it. -/
lemma timeFrom?_end (hv : v < 100) (s : Text) :
    timeFrom? colons (missing + 1) read 2 (paddedText 2 v ++ s) =
      some (.ofParts (v :: read).reverse 0, s.headD terminator != terminator) := by
  have hv : v < 10 ^ 2 := hv
  rw [timeFrom?, digits?_paddedText (by decide) hv]
  simp

/-- The last number and a fraction in six digits. -/
lemma timeFrom?_fraction {μ : ℕ} (hv : v < 100) (hμ : μ < 10 ^ 6) {s : Text}
    (hs : ∀ c ∈ s.head?, c.isDigit = false) :
    timeFrom? true (missing + 1) read 9 (paddedText 2 v ++ '.' :: (paddedText 6 μ ++ s)) =
      some (.ofParts (v :: read).reverse μ, s.headD terminator != terminator) := by
  have hv : v < 10 ^ 2 := hv
  have hend : s.dropWhile Char.isDigit = s := by
    cases s with
    | nil => rfl
    | cons c s => exact List.dropWhile_cons_of_neg (by simp [hs c rfl])
  rw [timeFrom?, digits?_paddedText (by decide) hv]
  simp [fraction?, digits?_paddedText _ hμ, hend]

end Times

/-- The time of day of a reading, as it is written behind the date. -/
def timeText (c : Civil) : Text :=
  paddedText 2 c.hour ++ ":" ++ paddedText 2 c.minute ++ ":" ++ paddedText 2 c.second ++
    microText c.micro

lemma isoText_eq (c : Civil) : c.isoText = c.date.isoText ++ 'T' :: timeText c := by
  simp [Civil.isoText, timeText]

/-- A time of day starts no offset. -/
lemma startsOffset_of_mem_timeText {c : Civil} {a : Char} (h : a ∈ timeText c) :
    startsOffset a = false := by
  -- a time of day holds digits, colons and a point, and an offset starts with none of these
  have hdigit : ∀ {width n : ℕ}, a ∈ paddedText width n → startsOffset a = false := fun hmem => by
    have hdigit := isDigit_of_mem_paddedText hmem
    simp only [startsOffset, Bool.or_eq_false_iff, beq_eq_false_iff_ne]
    refine ⟨⟨?_, ?_⟩, ?_⟩ <;> (rintro rfl; simp at hdigit)
  have hmicro : a ∈ microText c.micro → startsOffset a = false := fun hmem => by
    unfold microText at hmem
    split at hmem
    · simp at hmem
    · rcases List.mem_cons.1 hmem with rfl | hmem
      · rfl
      · exact hdigit hmem
  have hcolon : a ∈ ":".toList → startsOffset a = false := fun hmem => by
    obtain rfl : a = ':' := by simpa using hmem
    rfl
  simp only [timeText, List.mem_append] at h
  rcases h with ((((h | h) | h) | h) | h) | h
  · exact hdigit h
  · exact hcolon h
  · exact hdigit h
  · exact hcolon h
  · exact hdigit h
  · exact hmicro h

lemma length_timeText {c : Civil} (hc : c.IsTimeOfDay) :
    (timeText c).length = 8 + (microText c.micro).length := by
  simp [timeText, length_two (hc.hour.trans (by decide)), length_two (hc.minute.trans (by decide)),
    length_two (hc.second.trans (by decide))]
  omega

lemma timeFrom?_timeText {c : Civil} (hc : c.IsTimeOfDay) {s : Text}
    (hs : ∀ a ∈ s.head?, a.isDigit = false) :
    timeFrom? false 3 [] (timeText c).length (timeText c ++ s) =
      some (⟨c.hour, c.minute, c.second, c.micro⟩, s.headD terminator != terminator) := by
  have hhour : c.hour < 100 := hc.hour.trans (by decide)
  have hminute : c.minute < 100 := hc.minute.trans (by decide)
  have hsecond : c.second < 100 := hc.second.trans (by decide)
  have htext : timeText c ++ s = paddedText 2 c.hour ++ ':' :: (paddedText 2 c.minute ++
      ':' :: (paddedText 2 c.second ++ (microText c.micro ++ s))) := by
    simp [timeText]
  rw [htext, length_timeText hc, timeFrom?_colon hhour (by omega) (.inl rfl),
    timeFrom?_colon hminute (by omega) (.inr rfl)]
  -- a fraction is written only if there is one
  by_cases hzero : c.micro = 0
  · rw [hzero, microText, if_pos rfl]
    exact timeFrom?_end hsecond s
  · have hmicro : (microText c.micro).length = 7 := by
      simp [microText, hzero, length_paddedText _ hc.micro]
    rw [hmicro, microText, if_neg hzero]
    exact timeFrom?_fraction hsecond hc.micro hs

/-! ## Offsets -/

/-- What stands behind a time of day is nothing or an offset. -/
def IsTail (t : Text) : Prop := ∀ a ∈ t.head?, startsOffset a = true

variable {t : Text}

lemma IsTail.isDigit_head (ht : IsTail t) : ∀ a ∈ t.head?, a.isDigit = false := by
  intro a ha
  have hsign := ht a ha
  simp only [startsOffset, Bool.or_eq_true, beq_iff_eq] at hsign
  rcases hsign with (rfl | rfl) | rfl <;> rfl

lemma takeWhile_timeText_append (c : Civil) (ht : IsTail t) :
    (timeText c ++ t).takeWhile (fun a => !startsOffset a) = timeText c := by
  have hnone : t.takeWhile (fun a => !startsOffset a) = [] := by
    cases t with
    | nil => rfl
    | cons a t => exact List.takeWhile_cons_of_neg (by simp [ht a rfl])
  rw [List.takeWhile_append_of_pos fun a ha => by simp [startsOffset_of_mem_timeText ha], hnone,
    List.append_nil]

/-- A time of day with what stands behind it. -/
lemma time?_timeText_append {c : Civil} (hc : c.IsTimeOfDay) (ht : IsTail t) (day : Int) :
    time? day (timeText c ++ t) =
      let w := wallAt day c.hour c.minute c.second c.micro
      if t.isEmpty then some (.reading w false)
      else (offset? t).map fun o => .moment (.ofWall w o) := by
  have hbounds : ¬ (24 ≤ c.hour ∨ 60 ≤ c.minute ∨ 60 ≤ c.second) := by
    have hhour := hc.hour
    have hminute := hc.minute
    have hsecond := hc.second
    omega
  simp only [time?, takeWhile_timeText_append c ht, List.drop_left,
    timeFrom?_timeText hc ht.isDigit_head, Option.bind_eq_bind, Option.bind_some]
  rw [if_neg hbounds]
  cases t with
  | nil => rfl
  | cons a t => cases offset? (a :: t) <;> rfl

/-- Hours and minutes with a sign in front. -/
lemma offset?_cons {sign : Char} {h m : ℕ} (hsign : sign ≠ 'Z') (hh : h < 100) (hm : m < 100) :
    offset? (sign :: (paddedText 2 h ++ ':' :: (paddedText 2 m ++ []))) =
      let size : Int := (h * 60 + m) * oneMinute
      if size = 0 then some 0 else if oneDay ≤ size then none
        else some (if sign = '-' then -size else size) := by
  have hlength : (paddedText 2 h ++ ':' :: (paddedText 2 m ++ [])).length = 5 := by
    simp [length_two hh, length_two hm]
  -- what is not written of seconds and fractions counts as zero
  have hsize : ((h : Int) * 3600 + m * 60 + (0 : ℕ)) * oneSecond + (0 : ℕ) =
      (h * 60 + m) * oneMinute := by
    simp only [oneSecond, oneMinute]
    push_cast
    ring
  have hzero : (h : Int) * 3600 + m * 60 + (0 : ℕ) = 0 ↔ ((h : Int) * 60 + m) * oneMinute = 0 := by
    simp only [oneMinute]
    omega
  have hread : timeFrom? false 3 [] 5 (paddedText 2 h ++ ':' :: (paddedText 2 m ++ [])) =
      some (⟨h, m, 0, 0⟩, false) := by
    rw [timeFrom?_colon hh (by omega) (.inl rfl), timeFrom?_end hm]
    rfl
  rw [offset?, if_neg hsign, hlength, hread]
  simp only [Option.bind_eq_bind, Option.bind_some, hsize, hzero, Bool.false_eq_true, if_false]

section Offsets

variable {o : Int} (hminutes : oneMinute ∣ o)

include hminutes

/-- An offset of whole minutes is written as a sign, hours and minutes. -/
lemma offsetText_of_minutes :
    offsetText o = (if o < 0 then '-' else '+') ::
      (paddedText 2 (o.natAbs / 3600000000) ++
        ':' :: (paddedText 2 (o.natAbs / 60000000 % 60) ++ [])) := by
  have hrest : o.natAbs / 1000000 % 60 = 0 ∧ o.natAbs % 1000000 = 0 := by
    rw [oneMinute] at hminutes
    omega
  simp [offsetText, hrest]

lemma isTail_offsetText : IsTail (offsetText o) := by
  intro a ha
  rw [offsetText_of_minutes hminutes, List.head?_cons, Option.mem_some_iff] at ha
  subst ha
  split <;> rfl

lemma offset?_offsetText (hday : |o| < oneDay) : offset? (offsetText o) = some o := by
  have hsign : (if o < 0 then '-' else '+') ≠ 'Z' := by split <;> decide
  have hhours : o.natAbs / 3600000000 < 100 := by
    rw [abs_lt, oneDay] at hday
    omega
  have hsize : (((o.natAbs / 3600000000 : ℕ) : Int) * 60 + (o.natAbs / 60000000 % 60 : ℕ)) *
      oneMinute = |o| := by
    rw [Int.abs_eq_natAbs]
    simp only [oneMinute] at hminutes ⊢
    omega
  rw [offsetText_of_minutes hminutes, offset?_cons hsign hhours (by omega)]
  simp only [hsize, abs_eq_zero, hday.not_ge, if_false]
  by_cases hneg : o < 0
  · rw [if_neg hneg.ne, if_pos hneg, if_pos rfl, abs_of_neg hneg, neg_neg]
  · rw [if_neg hneg, abs_of_nonneg (by omega)]
    split
    · next hzero => rw [hzero]
    · rfl

end Offsets

end Iso

namespace DateTime

lemma ofIso?_append {d : Date} (hd : d.isValid = true) (hyear : d.year < 10000) (s : Text) :
    ofIso? (d.isoText ++ 'T' :: s) = Iso.time? d.toDay s := by
  simp only [ofIso?, Iso.dateLength?_isoText hd hyear, Iso.date?_isoText hd hyear, Option.bind_eq_bind,
    Option.bind_some]
  rw [List.drop_left' (Iso.length_isoText hd hyear)]

section OnLine

variable {w : Int} (hline : 0 ≤ w ∧ w < lineEnd)

include hline

lemma ofIso?_isoText_append {t : Text} (ht : Iso.IsTail t) :
    ofIso? ((Civil.ofWall w).isoText ++ t) =
      if t.isEmpty then some (.reading w false)
      else (Iso.offset? t).map fun o => .moment (.ofWall w o) := by
  have hvalid := Civil.isValid_date_ofWall w
  have hyear := Civil.year_ofWall_lt hline.2
  rw [Iso.isoText_eq, List.append_assoc, List.cons_append, ofIso?_append hvalid hyear,
    Iso.time?_timeText_append (Civil.isTimeOfDay_ofWall w) ht, Civil.wallAt_ofWall hline.1]

/-- A reading is read again, except that it is not told which of two times it is. -/
theorem ofIso?_isoText_reading (later : Bool) :
    ofIso? (isoText (.reading w later)) = some (.reading w false) := by
  have hread := ofIso?_isoText_append hline (t := []) (by simp [Iso.IsTail])
  rwa [List.append_nil] at hread

end OnLine

/-- A moment is read again, if its offset counts whole minutes. -/
theorem ofIso?_isoText_moment {m : Moment} (hline : 0 ≤ m.wall ∧ m.wall < lineEnd)
    (hminutes : oneMinute ∣ m.offset) (hday : |m.offset| < oneDay) :
    ofIso? (isoText (.moment m)) = some (.moment m) := by
  have hsame : Moment.ofWall m.wall m.offset = m := by
    simp [Moment.ofWall, Moment.wall]
  have hsome : (offsetText m.offset).isEmpty = false := by
    rw [Iso.offsetText_of_minutes hminutes]
    rfl
  rw [isoText, Moment.isoText, ofIso?_isoText_append hline (Iso.isTail_offsetText hminutes), hsome,
    Iso.offset?_offsetText hminutes hday]
  simp [hsame]

end DateTime

end Crontab
