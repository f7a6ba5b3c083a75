import Crontab.Dialect.Conversion
import Crontab.Proofs.Dialect.Format
import Crontab.Proofs.Schedule

/-!
# Calendar events, there and back

A schedule that is written as a calendar event is read back as the same schedule
(`onCalendar_roundTrip`).  The reader takes each word for a list of weekdays, a date or a time by the
characters in it, so the proof says of every word that is written which characters it holds:

* a list of weekdays starts with the name of one, and is read as its days (`weekdays_names`);
* a date holds no letters and no colon, and behind its star two lists without hyphens
  (`readWord_date`);
* a time holds no letters but a colon, and so it is no date even where a step such as `9-17/2` brings
  in a hyphen (`readWord_time`).

A field comes back as it is when it is `*`, or when it has a step and stands in the time, and as the
list of its numbers otherwise (`listed`, `listedOrStep`); either way it is written the same once more.
-/

namespace Crontab

namespace OnCalendar

/-! ## The fields that come back -/

/-- The field that comes back from a date or a list of weekdays. -/
def listed (f : Field) : Field :=
  if f.isAny then f else ⟨Text.join "," (f.values.map natText), f.values, [], []⟩

/-- The field that comes back from a time. -/
def listedOrStep (f : Field) : Field := if !f.isAny && f.hasStep then f else listed f

section Fields

variable {p : Position} {f : Field}

lemma raw_listed (f : Field) : (listed f).raw = values f := by
  unfold listed values
  split
  · next hany => exact Field.isAny_iff.1 hany
  · rfl

lemma raw_listedOrStep (f : Field) : (listedOrStep f).raw = valuesOrStep f := by
  unfold listedOrStep valuesOrStep
  split
  · rfl
  · exact raw_listed f

@[simp] lemma values_listed (f : Field) : (listed f).values = f.values := by
  unfold listed
  split <;> rfl

@[simp] lemma values_listedOrStep (f : Field) : (listedOrStep f).values = f.values := by
  unfold listedOrStep
  split
  · rfl
  · exact values_listed f

@[simp] lemma isAny_listed (f : Field) : (listed f).isAny = f.isAny := by
  unfold listed
  split
  · rfl
  · next hany =>
    rw [Bool.eq_false_iff.2 hany]
    exact Field.isAny_eq_false_of_notMem (Field.notMem_numbers (by decide) (by decide))

lemma isStored_listed (hf : f.IsStored p) (hne : f.values ≠ []) : (listed f).IsStored p := by
  unfold listed
  split
  · exact hf
  · exact hf.listed hne

lemma isStored_listedOrStep (hf : f.IsStored p) (hne : f.values ≠ []) :
    (listedOrStep f).IsStored p := by
  unfold listedOrStep
  split
  · exact hf
  · exact isStored_listed hf hne

/-- What came back is written as before. -/
lemma values_congr {g : Field} (hany : g.isAny = f.isAny) (hvalues : g.values = f.values) :
    values g = values f := by
  simp only [values, hany, hvalues]

lemma valuesOrStep_listedOrStep (f : Field) : valuesOrStep (listedOrStep f) = valuesOrStep f := by
  unfold listedOrStep
  split
  · rfl
  · next hstep =>
    have hnoStep : (!f.isAny && (listed f).hasStep) = false := by
      unfold listed
      split
      · simpa using hstep
      · have hstroke : '/' ∉ Text.join "," (f.values.map natText) :=
          Field.notMem_numbers (by decide) (by decide)
        simp only [Field.hasStep, List.contains_eq_mem, hstroke, decide_false, Bool.and_false]
    have hstep : (!f.isAny && f.hasStep) = false := by simpa using hstep
    simp only [valuesOrStep, isAny_listed, hnoStep, hstep, Bool.false_eq_true, if_false]
    exact values_congr (isAny_listed f) (values_listed f)

end Fields

/-- The fields that come back from a calendar event. -/
def returned (f : Fields) : Fields where
  minute := listedOrStep f.minute
  hour := listedOrStep f.hour
  dayOfMonth := listed f.dayOfMonth
  month := listed f.month
  dayOfWeek := listed f.dayOfWeek

lemma write_returned (f : Fields) : write (returned f) = write f := by
  have hdate : datePart (returned f) = datePart f := by
    simp only [datePart, returned, isAny_listed,
      values_congr (isAny_listed f.month) (values_listed f.month),
      values_congr (isAny_listed f.dayOfMonth) (values_listed f.dayOfMonth)]
  have htime : timePart (returned f) = timePart f := by
    simp only [timePart, returned, valuesOrStep_listedOrStep]
  have hweekdays : weekdayPart (returned f) = weekdayPart f := by
    simp only [weekdayPart, returned, isAny_listed, values_listed]
  rw [write, write, hweekdays, hdate, htime]

lemma selectAlike_returned (f : Fields) : f.SelectAlike (returned f) := by
  intro p
  cases p
  · exact (values_listedOrStep f.minute).symm
  · exact (values_listedOrStep f.hour).symm
  · exact (values_listed f.dayOfMonth).symm
  · exact (values_listed f.month).symm
  · exact (values_listed f.dayOfWeek).symm

lemma starAlike_returned (f : Fields) : f.StarAlike (returned f) :=
  ⟨(isAny_listed f.dayOfMonth).symm, (isAny_listed f.dayOfWeek).symm⟩

lemma isStored_returned {f : Fields} (hf : ∀ p, (f.get p).IsStored p)
    (hne : ∀ p, (f.get p).values ≠ []) (p : Position) : ((returned f).get p).IsStored p := by
  cases p
  · exact isStored_listedOrStep (hf .minute) (hne .minute)
  · exact isStored_listedOrStep (hf .hour) (hne .hour)
  · exact isStored_listed (hf .dayOfMonth) (hne .dayOfMonth)
  · exact isStored_listed (hf .month) (hne .month)
  · exact isStored_listed (hf .dayOfWeek) (hne .dayOfWeek)

/-! ## Weekdays -/

/-- The short name of a weekday. -/
def nameOf (d : Nat) : Text := shortName (dayName d)

lemma nameOf_mem : ∀ d < 7, nameOf d ∈ weekdayNames := by decide

lemma nameOf_ne_nil : ∀ d < 7, nameOf d ≠ [] := by decide

lemma nameOf_chars : ∀ d < 7, ∀ c ∈ nameOf d,
    c ≠ ',' ∧ Text.isBlank c = false ∧ c.toNat < 128 := by
  decide

lemma head?_nameOf : ∀ d < 7, (nameOf d).head?.map Char.toLower ≠ some 'o' := by decide

lemma weekdaysOfPart_nameOf : ∀ d < 7, weekdaysOfPart (nameOf d) = [d] := by decide

/-- A list of names is read as its weekdays. -/
lemma weekdays_names {vs : List Nat} (hne : vs ≠ []) (hsorted : vs.Pairwise (· < ·))
    (hlt : ∀ v ∈ vs, v < 7) : weekdays (Text.join "," (vs.map nameOf)) = vs := by
  have hpieces : Text.pieces ',' (Text.join "," (vs.map nameOf)) = vs.map nameOf := by
    refine Text.pieces_join (by simpa using hne) fun t ht hc => ?_
    obtain ⟨v, hv, rfl⟩ := List.mem_map.1 ht
    exact (nameOf_chars v (hlt v hv) _ hc).1 rfl
  have hparts : (vs.map nameOf).flatMap weekdaysOfPart = vs := by
    rw [List.flatMap_map]
    refine (List.flatMap_congr fun v hv => ?_).trans (List.flatMap_singleton' vs)
    exact weekdaysOfPart_nameOf v (hlt v hv)
  rw [weekdays, hpieces, hparts, Field.ascending_of_pairwise hsorted]

/-! ## Words -/

/-- Whether the name of a weekday occurs in a word. -/
lemma any_occursIn_names {vs : List Nat} (hne : vs ≠ []) (hlt : ∀ v ∈ vs, v < 7) :
    (weekdayNames.any fun n => Text.occursIn n (Text.join "," (vs.map nameOf))) = true := by
  obtain ⟨v, vs, rfl⟩ := List.exists_cons_of_ne_nil hne
  have hv : v < 7 := hlt v List.mem_cons_self
  obtain ⟨rest, hrest⟩ : ∃ rest, Text.join "," ((v :: vs).map nameOf) = nameOf v ++ rest := by
    cases vs with
    | nil => exact ⟨[], by simp⟩
    | cons w vs => exact ⟨_, Text.join_singleton_cons ',' _ _ _⟩
  rw [List.any_eq_true, hrest]
  exact ⟨nameOf v, nameOf_mem v hv, Text.occursIn_append (nameOf_ne_nil v hv) rest⟩

/-- Without a letter there is no name of a weekday. -/
lemma any_occursIn_eq_false {word : Text} (h : ∀ c ∈ word, c.isAlpha = false) :
    (weekdayNames.any fun n => Text.occursIn n word) = false := by
  have hheads : ∀ n ∈ weekdayNames, (n.head?.any Char.isAlpha) = true := by decide
  rw [List.any_eq_false]
  intro n hn
  have hhead := hheads n hn
  cases n with
  | nil => simp at hhead
  | cons m ms =>
    have hm : m ∉ word := fun hmem => by simp [h m hmem] at hhead
    simp [Text.occursIn_of_notMem hm]

namespace Parts

lemma orBefore_star (s : Text) : orBefore s "*" = s := by
  unfold orBefore
  split
  · next h => exact h.symm
  · rfl

/-- A list of names sets the weekdays. -/
lemma readWord_names {vs : List Nat} (hne : vs ≠ []) (hsorted : vs.Pairwise (· < ·))
    (hlt : ∀ v ∈ vs, v < 7) (p : Parts) :
    p.readWord (Text.join "," (vs.map nameOf)) =
      { p with dayOfWeek := Text.join "," (vs.map natText) } := by
  rw [readWord, if_pos (any_occursIn_names hne hlt), readWeekdays, weekdays_names hne hsorted hlt]
  cases vs with
  | nil => exact absurd rfl hne
  | cons v vs => rfl

section Marks

variable {s t : Text} (hs : ∀ c ∈ s, isFieldChar c = true) (ht : ∀ c ∈ t, isFieldChar c = true)

include hs ht

/-- A date sets month and day. -/
lemma readWord_date (hs' : '-' ∉ s) (ht' : '-' ∉ t) (p : Parts) :
    p.readWord ("*-" ++ s ++ "-" ++ t) =
      { p with month := orBefore s p.month, dayOfMonth := orBefore t p.dayOfMonth } := by
  have hword : "*-" ++ s ++ "-" ++ t = ("*" : Text) ++ '-' :: (s ++ '-' :: t) := by simp
  have hchars : ∀ c ∈ ("*" : Text) ++ '-' :: (s ++ '-' :: t), isFieldChar c = true := by
    simp only [List.forall_mem_append, List.forall_mem_cons]
    exact ⟨by decide, by decide, hs, by decide, ht⟩
  have hnames := any_occursIn_eq_false fun c hc => (plain_of_isFieldChar (hchars c hc)).2.2
  have hcolon : ':' ∉ ("*" : Text) ++ '-' :: (s ++ '-' :: t) := fun hc =>
    absurd (hchars _ hc) (by decide)
  have hpieces : Text.pieces '-' (("*" : Text) ++ '-' :: (s ++ '-' :: t)) = ["*".toList, s, t] := by
    rw [Text.pieces_append (by decide), Text.pieces_append hs', Text.pieces_of_notMem ht']
  rw [hword, readWord, hnames, if_neg (by simp), if_pos (by simpa using hcolon), readDate, hpieces]
  rfl

/-- A time sets hour and minute, whatever else stands in them. -/
lemma readWord_time (p : Parts) :
    p.readWord (s ++ ":" ++ t ++ ":00") =
      { p with hour := orBefore s p.hour, minute := orBefore t p.minute } := by
  have hword : s ++ ":" ++ t ++ ":00" = s ++ ':' :: (t ++ ':' :: "00".toList) := by simp
  have hletters : ∀ c ∈ s ++ ':' :: (t ++ ':' :: "00".toList), c.isAlpha = false := by
    simp only [List.forall_mem_append, List.forall_mem_cons]
    exact ⟨fun c hc => (plain_of_isFieldChar (hs c hc)).2.2, by decide,
      fun c hc => (plain_of_isFieldChar (ht c hc)).2.2, by decide, by decide⟩
  have hcolon : ∀ {u : Text}, (∀ c ∈ u, isFieldChar c = true) → ':' ∉ u := fun hu hc =>
    absurd (hu _ hc) (by decide)
  have hpieces : Text.pieces ':' (s ++ ':' :: (t ++ ':' :: "00".toList)) = [s, t, "00".toList] := by
    rw [Text.pieces_append (hcolon hs), Text.pieces_append (hcolon ht)]
    rfl
  rw [hword, readWord, any_occursIn_eq_false hletters, if_neg (by simp), if_neg (by simp),
    if_pos (by simp), readTime, hpieces]

end Marks

end Parts

/-! ## The whole text -/

/-- The name of the setting starts with the letter `o`, in either case. -/
lemma eventText_of_head? {s : Text} (h : (Text.lower (Text.trim s)).head? ≠ some 'o') :
    eventText s = Text.trim s := by
  have hskip : Text.skip? "oncalendar=" (Text.lower (Text.trim s)) = none := by
    refine Text.skip?_of_head? fun c hc => ?_
    rintro rfl
    exact h hc
  rw [eventText, hskip]
  rfl

section Event

variable {f : Fields} (hf : ∀ p, (f.get p).IsStored p) (hne : ∀ p, (f.get p).values ≠ [])

/-- The words of a calendar event. -/
def writtenWords (f : Fields) : List Text := weekdayPart f ++ [datePart f, timePart f]

lemma weekdayPart_eq (f : Fields) :
    weekdayPart f =
      if f.dayOfWeek.isAny then [] else [Text.join "," (f.dayOfWeek.values.map nameOf)] := rfl

lemma hyphen_notMem_values (f : Field) : '-' ∉ values f := by
  unfold values
  split
  · decide
  · exact Field.notMem_numbers (by decide) (by decide)

lemma isFieldChar_values (f : Field) : ∀ c ∈ values f, isFieldChar c = true := by
  intro c hc
  unfold values at hc
  split at hc
  · rw [List.mem_singleton.1 hc]
    decide
  · rcases Field.isDigit_or_eq_of_mem_numbers hc with hc | rfl
    · exact isFieldChar_of_isDigit hc
    · decide

lemma isFieldChar_valuesOrStep {p : Position} {f : Field} (hf : f.IsStored p) :
    ∀ c ∈ valuesOrStep f, isFieldChar c = true := by
  unfold valuesOrStep
  split
  · exact hf.chars
  · exact isFieldChar_values f

include hf

/-- The characters of a calendar event are visible ones of ASCII. -/
lemma chars_of_mem_writtenWords {w : Text} (hw : w ∈ writtenWords f) :
    ∀ c ∈ w, Text.isBlank c = false ∧ c.toNat < 128 := by
  have hfield : ∀ {s : Text}, (∀ c ∈ s, isFieldChar c = true) →
      ∀ c ∈ s, Text.isBlank c = false ∧ c.toNat < 128 := fun h c hc =>
    ⟨(plain_of_isFieldChar (h c hc)).1, toNat_lt_of_isFieldChar (h c hc)⟩
  rw [writtenWords, List.mem_append] at hw
  rcases hw with hw | hw
  · rw [weekdayPart_eq] at hw
    split at hw
    · simp at hw
    · rw [List.mem_singleton.1 hw]
      intro c hc
      rcases Text.mem_join hc with hc | ⟨t, ht, hc⟩
      · rw [List.mem_singleton.1 hc]
        decide
      · obtain ⟨v, hv, rfl⟩ := List.mem_map.1 ht
        have hlt : v < 7 := Field.lt_seven_of_mem_values (hf .dayOfWeek).read_raw hv
        obtain ⟨-, hblank, hascii⟩ := nameOf_chars v hlt c hc
        exact ⟨hblank, hascii⟩
  · have hmonth := hfield (isFieldChar_values f.month)
    have hday := hfield (isFieldChar_values f.dayOfMonth)
    have hhour := hfield (isFieldChar_valuesOrStep (hf .hour))
    have hminute := hfield (isFieldChar_valuesOrStep (hf .minute))
    simp only [List.mem_cons, List.not_mem_nil, or_false] at hw
    rcases hw with rfl | rfl
    · unfold datePart
      split
      · decide
      · simp only [List.forall_mem_append]
        exact ⟨⟨⟨by decide, hmonth⟩, by decide⟩, hday⟩
    · simp only [timePart, List.forall_mem_append]
      exact ⟨⟨⟨hhour, by decide⟩, hminute⟩, by decide⟩

lemma lower_write : Text.lower (write f) = (write f).map Char.toLower := by
  refine Text.lower_of_ascii fun c hc => ?_
  rcases Text.mem_join hc with hc | ⟨w, hw, hc⟩
  · rw [List.mem_singleton.1 hc]
    decide
  · exact (chars_of_mem_writtenWords hf hw c hc).2

omit hf in
lemma datePart_ne_nil (f : Fields) : datePart f ≠ [] := by
  unfold datePart
  split <;> simp

include hne

lemma ne_nil_of_mem_writtenWords {w : Text} (hw : w ∈ writtenWords f) : w ≠ [] := by
  rw [writtenWords, List.mem_append, weekdayPart_eq] at hw
  rcases hw with hw | hw
  · split at hw
    · simp at hw
    · obtain ⟨v, vs, hvs⟩ := List.exists_cons_of_ne_nil (hne .dayOfWeek)
      have hv : v < 7 := Field.lt_seven_of_mem_values (hf .dayOfWeek).read_raw
        (by rw [hvs]; exact List.mem_cons_self)
      rw [List.mem_singleton.1 hw, show f.dayOfWeek.values = v :: vs from hvs, List.map_cons]
      exact Text.join_ne_nil _ (nameOf_ne_nil v hv)
  · simp only [List.mem_cons, List.not_mem_nil, or_false] at hw
    rcases hw with rfl | rfl
    · exact datePart_ne_nil f
    · simp [timePart]

lemma isSolid_writtenWords : ∀ w ∈ writtenWords f, Text.IsSolid w := fun _ hw =>
  ⟨ne_nil_of_mem_writtenWords hf hne hw, fun c hc => (chars_of_mem_writtenWords hf hw c hc).1⟩

lemma words_write : Text.words (write f) = writtenWords f :=
  Text.words_join (isSolid_writtenWords hf hne)

/-- A calendar event starts with the name of a weekday or with a star. -/
lemma head?_write : (write f).head?.map Char.toLower ≠ some 'o' := by
  have hstar : (datePart f).head? = some '*' := by
    unfold datePart
    split <;> rfl
  have hdate : datePart f ≠ [] := datePart_ne_nil f
  rw [write, weekdayPart_eq]
  split
  · rw [List.nil_append, show (" " : Text) = [' '] from rfl, Text.head?_join _ hdate, hstar]
    decide
  · next hany =>
    obtain ⟨v, vs, hvs⟩ := List.exists_cons_of_ne_nil (hne .dayOfWeek)
    have hvs : f.dayOfWeek.values = v :: vs := hvs
    have hv : v < 7 := Field.lt_seven_of_mem_values (hf .dayOfWeek).read_raw (by
      rw [show (f.get .dayOfWeek).values = v :: vs from hvs]
      exact List.mem_cons_self)
    have hname := nameOf_ne_nil v hv
    have hnames : Text.join "," (nameOf v :: vs.map nameOf) ≠ [] := Text.join_ne_nil _ hname
    rw [hvs, List.map_cons, List.singleton_append, show (" " : Text) = [' '] from rfl,
      Text.head?_join _ hnames, show ("," : Text) = [','] from rfl, Text.head?_join _ hname]
    exact head?_nameOf v hv

/-- Nothing stands in front of a calendar event. -/
lemma eventText_write : eventText (write f) = write f := by
  have htrim : Text.trim (write f) = write f := Text.trim_join (isSolid_writtenWords hf hne)
  have hhead : (Text.lower (Text.trim (write f))).head? ≠ some 'o' := by
    rw [htrim, lower_write hf, List.head?_map]
    exact head?_write hf hne
  rw [eventText_of_head? hhead, htrim]

omit hne in
/-- A calendar event is not one of those that have a name. -/
lemma lookup_presets : presets.lookup (Text.lower (write f)) = none := by
  have hcolon : ':' ∈ write f := by
    have htime : ':' ∈ timePart f := by simp [timePart]
    refine Text.mem_join_of_mem ?_ htime
    simp
  have hlower : ':' ∈ Text.lower (write f) := by
    rw [lower_write hf]
    exact List.mem_map.2 ⟨':', hcolon, by decide⟩
  have hpresets : ∀ e ∈ presets, ':' ∉ e.1 := by decide
  exact List.lookup_eq_none_iff.2 fun e he => bne_iff_ne.2 fun h => hpresets e he (h ▸ hlower)

omit hf hne in
lemma readWord_datePart (p : Parts) :
    p.readWord (datePart f) =
      { p with
        month := Parts.orBefore (values f.month) p.month
        dayOfMonth := Parts.orBefore (values f.dayOfMonth) p.dayOfMonth } := by
  unfold datePart
  split
  · next hany =>
    obtain ⟨hmonth, hday⟩ := Bool.and_eq_true_iff.1 hany
    simp only [values, hmonth, hday, if_true]
    rfl
  · exact Parts.readWord_date (isFieldChar_values f.month) (isFieldChar_values f.dayOfMonth)
      (hyphen_notMem_values f.month) (hyphen_notMem_values f.dayOfMonth) p

/-- The words of a calendar event are read as the fields that come back. -/
lemma foldl_readWord :
    ((writtenWords f).foldl Parts.readWord .free).toList =
      Position.all.map fun p => ((returned f).get p).raw := by
  have hweekdays : (weekdayPart f).foldl Parts.readWord .free =
      { Parts.free with dayOfWeek := values f.dayOfWeek } := by
    rw [weekdayPart_eq, values]
    split
    · rfl
    · exact Parts.readWord_names (hne .dayOfWeek) (Field.pairwise_values (hf .dayOfWeek).read_raw)
        (fun v hv => Field.lt_seven_of_mem_values (hf .dayOfWeek).read_raw hv) .free
  have htime := Parts.readWord_time (isFieldChar_valuesOrStep (hf .hour))
    (isFieldChar_valuesOrStep (hf .minute))
  rw [writtenWords, List.foldl_append, hweekdays, List.foldl_cons, List.foldl_cons, List.foldl_nil,
    readWord_datePart, timePart]
  rw [show f.get .hour = f.hour from rfl, show f.get .minute = f.minute from rfl] at htime
  rw [htime]
  simp only [Parts.free, Parts.orBefore_star, Parts.toList, Position.all, List.map_cons, List.map_nil,
    Fields.get, returned, raw_listed, raw_listedOrStep]

/-- A calendar event is read as the fields that come back. -/
lemma toCron_write :
    toCron (write f) =
      Conversion.ofFieldTexts (Position.all.map fun p => ((returned f).get p).raw)
        (some .bestEffort) false := by
  rw [toCron, eventText_write hf hne, lookup_presets hf, words_write hf hne,
    foldl_readWord hf hne]

end Event

end OnCalendar

/-! ## There and back -/

lemma fromCron_systemd_eq_done {s : Text} {e : Expression} {f : Fields}
    (hread : Expression.read s = .ok e) (hf : e.schedule? = some f) :
    ∃ r, fromCron (.ok s) (Dialect.name .systemd) = .ok (.done r) ∧
      r.result = OnCalendar.write f := by
  rw [fromCron, Dialect.ofName?_name]
  exact ⟨_, Conversion.fromText_eq_done hread hf _ _ _, rfl⟩

/-- **What is written as a calendar event is read back as the same schedule.**  Every expression whose
fields all select something is written as a calendar event.  Reading it gives an expression that selects
the same numbers and is `*` in the same day fields, so that it has the same runs and fires at the same
times in every zone.  Written once more, it gives the same text. -/
theorem onCalendar_roundTrip {s : Text} {e : Expression} {f : Fields}
    (hread : Expression.read s = .ok e) (hf : e.schedule? = some f)
    (hne : ∀ p, (f.get p).values ≠ []) :
    ∃ written back e' g again,
      fromCron (.ok s) (Dialect.name .systemd) = .ok (.done written) ∧
      toCron written.result (Dialect.name .systemd) = .ok (.done back) ∧
      Expression.read back.result = .ok e' ∧ e'.schedule? = some g ∧
      f.SelectAlike g ∧ f.StarAlike g ∧
      (∀ zone count start, e.runsAfter zone count start = e'.runsAfter zone count start) ∧
      (∀ zone t, e.firesAt zone t = e'.firesAt zone t) ∧
      fromCron (.ok back.result) (Dialect.name .systemd) = .ok (.done again) ∧
      again.result = written.result := by
  have hstored := Expression.isStored_of_read hread hf
  have hselect := OnCalendar.selectAlike_returned f
  have hstar := OnCalendar.starAlike_returned f
  obtain ⟨written, hwritten, hresult⟩ := fromCron_systemd_eq_done hread hf
  obtain ⟨back, e', hback, -, hread', hg⟩ := Conversion.ofFieldTexts_eq_done
    (OnCalendar.isStored_returned hstored hne) (some .bestEffort) false
  obtain ⟨again, hagain, hagainResult⟩ := fromCron_systemd_eq_done hread' hg
  -- what comes back is determined by the fields alone
  have htoCron : toCron written.result (Dialect.name .systemd) = .ok (.done back) := by
    rw [hresult, toCron, Dialect.ofName?_name]
    exact (OnCalendar.toCron_write hstored hne).trans hback
  refine ⟨written, back, e', OnCalendar.returned f, again, hwritten, htoCron, hread', hg, hselect,
    hstar, Expression.runsAfter_eq_of_alike hf hg hselect hstar,
    Expression.firesAt_eq_of_alike hf hg hselect hstar, hagain, ?_⟩
  rw [hagainResult, hresult, OnCalendar.write_returned]

/-- Every second hour of the working day, from Monday to Friday: the step stays in the calendar event,
the weekdays become names, and both come back. -/
theorem onCalendar_roundTrip_workdays :
    ∃ e f written back e' g, Expression.read "30 9-17/2 * * MON-FRI" = .ok e ∧
      e.schedule? = some f ∧ (∀ p, (f.get p).values ≠ []) ∧
      fromCron (.ok "30 9-17/2 * * MON-FRI") (Dialect.name .systemd) = .ok (.done written) ∧
      written.result = "Mon,Tue,Wed,Thu,Fri * 9-17/2:30:00" ∧
      toCron written.result (Dialect.name .systemd) = .ok (.done back) ∧
      Expression.read back.result = .ok e' ∧ e'.schedule? = some g ∧
      f.SelectAlike g ∧ f.StarAlike g := by
  have h : (do
      let e ← Expression.read "30 9-17/2 * * MON-FRI"
      return e.schedule?.map fun f : Fields =>
        (Position.all.map fun p => (f.get p).values.isEmpty, OnCalendar.write f)) =
        .ok (some ([false, false, false, false, false], "Mon,Tue,Wed,Thu,Fri * 9-17/2:30:00")) := by
    rfl
  obtain ⟨e, hread, h⟩ := bind_eq_ok_iff.1 h
  obtain ⟨f, hf, h⟩ := Option.map_eq_some_iff.1 (pure_eq_ok_iff.1 h)
  obtain ⟨hvalues, hwrite⟩ := Prod.mk.inj h
  have hne : ∀ p, (f.get p).values ≠ [] := by
    intro p
    simp only [Position.all, List.map_cons, List.map_nil, List.cons.injEq, and_true] at hvalues
    cases p <;> simp_all
  obtain ⟨written, back, e', g, again, hwritten, hback, hread', hg, hselect, hstar, -⟩ :=
    onCalendar_roundTrip hread hf hne
  have hevent : written.result = "Mon,Tue,Wed,Thu,Fri * 9-17/2:30:00" := by
    obtain ⟨written', hdone, hresult⟩ := fromCron_systemd_eq_done hread hf
    obtain rfl := Conversion.done.inj (Except.ok.inj (hwritten.symm.trans hdone))
    rw [hresult, hwrite]
  exact ⟨e, f, written, back, e', g, hread, hf, hne, hwritten, hevent, hback, hread', hg, hselect,
    hstar⟩

end Crontab
