import Crontab.Proofs.Dialect.Detection
import Crontab.Proofs.Dialect.Format
import Crontab.Proofs.Dialect.Weekday
import Crontab.Proofs.Schedule

/-!
# AWS and Quartz, there and back

A schedule that is written for AWS, Quartz or Jenkins is read back as the same schedule
(`questionMark_roundTrip`).  Three facts carry this.  The five texts of a schedule consist of the
characters of a field and of question marks (`chars_questionMarkTexts`), so that neither a blank nor a
closing bracket inside them can mislead the reader: the words come back as they were written
(`Aws.callWords?_join`, `words_write`).  A `?` stands only for a field that is `*`, and is read as `*`
again (`withoutQuestionMark_questionMarkDays`, `exists_weekdayField`).  And the fields that are read
back are written as the same five texts (`exists_ofQuestionMarkTexts`), which gives the second round.
-/

namespace Crontab

open Expression (textOf)

/-! ## The five texts -/

namespace Fields

variable {f : Fields}

/-- The fields with another field for the weekdays. -/
def withWeekdays (f : Fields) (g : Field) : Fields := { f with dayOfWeek := g }

lemma get_withWeekdays {p : Position} (hp : p ≠ .dayOfWeek) (f : Fields) (g : Field) :
    (f.withWeekdays g).get p = f.get p := by
  cases p <;> first | rfl | exact absurd rfl hp

end Fields

lemma withoutQuestionMark_of_isStored {p : Position} {f : Field} (hf : f.IsStored p) :
    withoutQuestionMark f.raw = f.raw := by
  refine if_neg fun h => ?_
  exact absurd (hf.chars '?' (by rw [h]; decide)) (by decide)

/-- The day field that is written as `?` is `*`, and is read as `*` again. -/
lemma withoutQuestionMark_questionMarkDays {f : Fields}
    (hf : f.dayOfMonth.IsStored .dayOfMonth) :
    withoutQuestionMark f.questionMarkDays.1 = f.dayOfMonth.raw := by
  unfold Fields.questionMarkDays
  split
  · exact withoutQuestionMark_of_isStored hf
  · split
    · next hany => exact (Field.isAny_iff.1 hany).symm
    · exact withoutQuestionMark_of_isStored hf

lemma questionMarkDays_snd (f : Fields) :
    f.questionMarkDays.2 = if f.dayOfWeek.isAny then "?".toList else f.dayOfWeek.weekdaysFromOne := by
  unfold Fields.questionMarkDays
  split_ifs <;> rfl

/-- The weekday field that is read back selects the same days, is `*` at the same time, and is written
in the same way again. -/
lemma exists_weekdayField {f : Fields} (hf : f.dayOfWeek.IsStored .dayOfWeek)
    (hne : f.dayOfWeek.values ≠ []) :
    ∃ g : Field, weekdayField f.questionMarkDays.2 = .ok g.raw ∧ g.IsStored .dayOfWeek ∧
      g.values = f.dayOfWeek.values ∧ g.isAny = f.dayOfWeek.isAny ∧
      g.weekdaysFromOne = f.dayOfWeek.weekdaysFromOne := by
  cases hany : f.dayOfWeek.isAny with
  | true =>
    refine ⟨f.dayOfWeek, ?_, hf, rfl, hany, rfl⟩
    rw [questionMarkDays_snd, hany, Field.isAny_iff.1 hany]
    rfl
  | false =>
    rw [questionMarkDays_snd, hany]
    exact Field.exists_weekdayField hf hne

/-- The five texts of a schedule are converted to fields that are written as the same five texts. -/
lemma exists_ofQuestionMarkTexts {f : Fields} (hf : ∀ p, (f.get p).IsStored p)
    (hne : f.dayOfWeek.values ≠ []) :
    ∃ g : Fields, (∀ p, (g.get p).IsStored p) ∧ f.SelectAlike g ∧ f.StarAlike g ∧
      g.questionMarkTexts = f.questionMarkTexts ∧
      ∀ note? exact, ofQuestionMarkTexts f.minute.raw f.hour.raw f.questionMarkDays.1 f.month.raw
          f.questionMarkDays.2 note? exact =
        Conversion.ofFieldTexts (Position.all.map fun p => (g.get p).raw) note? exact := by
  obtain ⟨g, hread, hg, hvalues, hany, hwritten⟩ := exists_weekdayField (hf .dayOfWeek) hne
  refine ⟨f.withWeekdays g, ?_, ?_, ⟨rfl, hany.symm⟩, ?_, ?_⟩
  · intro p
    by_cases hp : p = .dayOfWeek
    · subst hp
      exact hg
    · rw [Fields.get_withWeekdays hp]
      exact hf p
  · intro p
    by_cases hp : p = .dayOfWeek
    · subst hp
      exact hvalues.symm
    · rw [Fields.get_withWeekdays hp]
  · have hdays : (f.withWeekdays g).questionMarkDays = f.questionMarkDays := by
      simp only [Fields.questionMarkDays, Fields.withWeekdays, hany, hwritten]
    rw [Fields.questionMarkTexts, hdays]
    rfl
  · intro note? exact
    have hminute : withoutQuestionMark f.minute.raw = f.minute.raw :=
      withoutQuestionMark_of_isStored (hf .minute)
    have hhour : withoutQuestionMark f.hour.raw = f.hour.raw :=
      withoutQuestionMark_of_isStored (hf .hour)
    have hmonth : withoutQuestionMark f.month.raw = f.month.raw :=
      withoutQuestionMark_of_isStored (hf .month)
    rw [ofQuestionMarkTexts, hread, hminute, hhour, hmonth,
      withoutQuestionMark_questionMarkDays (hf .dayOfMonth)]
    rfl

section Texts

variable {f : Fields} (hf : ∀ p, (f.get p).IsStored p) {w : Text} (hw : w ∈ f.questionMarkTexts)

include hf hw

omit hf in
lemma mem_questionMarkTexts_cases :
    (∃ p, w = (f.get p).raw) ∨ w = "?" ∨ w = f.dayOfWeek.weekdaysFromOne := by
  simp only [Fields.questionMarkTexts, List.mem_cons, List.not_mem_nil, or_false] at hw
  rcases hw with rfl | rfl | rfl | rfl | rfl
  · exact .inl ⟨.minute, rfl⟩
  · exact .inl ⟨.hour, rfl⟩
  · unfold Fields.questionMarkDays
    split_ifs
    · exact .inl ⟨.dayOfMonth, rfl⟩
    · exact .inr (.inl rfl)
    · exact .inl ⟨.dayOfMonth, rfl⟩
  · exact .inl ⟨.month, rfl⟩
  · unfold Fields.questionMarkDays
    split_ifs
    · exact .inr (.inl rfl)
    · exact .inr (.inr rfl)
    · exact .inr (.inr rfl)

/-- The characters of the five texts are those of a field and question marks. -/
lemma chars_questionMarkTexts : ∀ c ∈ w, isFieldChar c = true ∨ c = '?' := by
  rcases mem_questionMarkTexts_cases hw with ⟨p, rfl⟩ | rfl | rfl
  · exact fun c hc => .inl ((hf p).chars c hc)
  · decide
  · exact fun c hc => .inl (Field.chars_weekdaysFromOne
      (fun v hv => Field.lt_seven_of_mem_values (hf .dayOfWeek).read_raw hv) c hc)

lemma notMem_questionMarkTexts {c : Char} (hc : isFieldChar c = false) (hquestion : c ≠ '?') :
    c ∉ w := fun hmem => by
  rcases chars_questionMarkTexts hf hw c hmem with h | h
  · exact absurd h (by simp [hc])
  · exact hquestion h

lemma isSolid_questionMarkTexts (hne : f.dayOfWeek.values ≠ []) : Text.IsSolid w := by
  refine ⟨?_, fun c hc => ?_⟩
  · rcases mem_questionMarkTexts_cases hw with ⟨p, rfl⟩ | rfl | rfl
    · exact (hf p).raw_ne_nil
    · decide
    · exact Field.weekdaysFromOne_ne_nil
        (fun v hv => Field.lt_seven_of_mem_values (hf .dayOfWeek).read_raw hv) hne
  · rcases chars_questionMarkTexts hf hw c hc with hc | rfl
    · exact (plain_of_isFieldChar hc).1
    · decide

end Texts

/-! ## The text for AWS -/

namespace Aws

/-- Blanks in front of a text do not reach past the first character that is not blank. -/
lemma exists_trimLeft_append {s : Text} (hs : ∃ c ∈ s, Text.isBlank c = false) (t : Text) :
    ∃ d ∈ s, ∃ rest, Text.trimLeft (s ++ t) = d :: rest := by
  induction s with
  | nil => simp at hs
  | cons c s ih =>
    by_cases hc : Text.isBlank c = true
    · have hs' : ∃ d ∈ s, Text.isBlank d = false := by
        obtain ⟨d, hd, hblank⟩ := hs
        rcases List.mem_cons.1 hd with rfl | hd
        · exact absurd hc (by simp [hblank])
        · exact ⟨d, hd, hblank⟩
      obtain ⟨d, hd, rest, hrest⟩ := ih hs'
      exact ⟨d, List.mem_cons_of_mem c hd, rest, by simpa [Text.trimLeft, hc] using hrest⟩
    · exact ⟨c, List.mem_cons_self, s ++ t, by simp [Text.trimLeft, hc]⟩

/-- A text in one line that does not end with a blank reaches up to its closing bracket. -/
lemma untilClosed?_append {s : Text} (hne : s ≠ []) (hclosed : ')' ∉ s) (hline : '\n' ∉ s)
    (hlast : ∀ c ∈ s.getLast?, Text.isBlank c = false) : untilClosed? (s ++ ")") = some s := by
  induction s with
  | nil => exact absurd rfl hne
  | cons c s ih =>
    have hc : c ≠ '\n' := fun e => hline (by simp [e])
    cases s with
    | nil =>
      have hskip : Text.skip? ")" (Text.trimLeft ")") = some [] := by decide
      change untilClosed? (c :: ")") = some [c]
      rw [untilClosed?, if_neg hc, hskip]
    | cons d s =>
      have hlast' : ∀ c ∈ (d :: s).getLast?, Text.isBlank c = false := by
        simpa [List.getLast?_cons_cons] using hlast
      have hclosed' : ')' ∉ d :: s := fun h => hclosed (List.mem_cons_of_mem c h)
      have hvisible : Text.isBlank ((d :: s).getLast (List.cons_ne_nil d s)) = false :=
        hlast' _ (by simp [List.getLast?_eq_some_getLast])
      -- behind the blanks there is still a character of the text in front of the bracket
      obtain ⟨x, hx, rest, hrest⟩ := exists_trimLeft_append
        ⟨_, List.getLast_mem (List.cons_ne_nil d s), hvisible⟩ ")"
      have hx' : ')' ≠ x := fun e => hclosed' (e ▸ hx)
      have hskip : Text.skip? ")" (Text.trimLeft (d :: s ++ ")")) = none := by
        rw [hrest]
        simp [Text.skip?, hx']
      rw [List.cons_append, untilClosed?, if_neg hc, hskip,
        ih (by simp) hclosed' (fun h => hline (List.mem_cons_of_mem c h)) hlast']
      rfl

/-- What is found at the start of a text is found first. -/
lemma find?_of_here {α : Type} {read : Option Char → Text → Option α} {s : Text} {a : α} (hne : s ≠ [])
    (h : read none s = some a) : Text.find? read s = some a := by
  obtain ⟨c, s, rfl⟩ := List.exists_cons_of_ne_nil hne
  rw [Text.find?, Text.search, h]

/-- The words between the brackets are found again. -/
theorem callWords?_join {ws : List Text} (hne : ws ≠ []) (hsolid : ∀ w ∈ ws, Text.IsSolid w)
    (hclosed : ∀ w ∈ ws, ')' ∉ w) :
    callWords? ("cron(" ++ Text.join " " ws ++ ")") = some ws := by
  set body := Text.join " " ws with hbody
  have hbodyne : body ≠ [] := by
    obtain ⟨w, vs, rfl⟩ := List.exists_cons_of_ne_nil hne
    exact Text.join_ne_nil vs (hsolid w List.mem_cons_self).1
  have hmem : ∀ c ∈ body, c = ' ' ∨ ∃ w ∈ ws, c ∈ w := fun c hc =>
    (Text.mem_join hc).imp_left List.mem_singleton.1
  have hbracket : ')' ∉ body := fun hc => by
    rcases hmem _ hc with hc | ⟨w, hw, hc⟩
    · exact absurd hc (by decide)
    · exact hclosed w hw hc
  have hline : '\n' ∉ body := fun hc => by
    rcases hmem _ hc with hc | ⟨w, hw, hc⟩
    · exact absurd hc (by decide)
    · exact absurd ((hsolid w hw).2 _ hc) (by decide)
  have huntil := untilClosed?_append hbodyne hbracket hline (Text.isBlank_of_getLast?_join hsolid)
  have htrim : Text.trimLeft (body ++ ")") = body ++ ")" := by
    obtain ⟨c, s, hs⟩ := List.exists_cons_of_ne_nil hbodyne
    have hc : Text.isBlank c = false :=
      Text.isBlank_of_head?_join hsolid c (show c ∈ body.head? by rw [hs]; rfl)
    rw [hs, List.cons_append, Text.trimLeft_cons hc]
  have hopen : openCall? ("cron(" ++ body ++ ")") = some (body ++ ")") := rfl
  have hcall : (openCall? ("cron(" ++ body ++ ")")).bind callBody? = some body := by
    rw [hopen, Option.bind_some, callBody?, htrim, huntil]
  rw [callWords?, find?_of_here (by simp) hcall, Option.map_some]
  exact congrArg some (Text.words_join hsolid)

end Aws

/-! ## The three notations -/

namespace Dialect

/-- The notations with question marks. -/
def questionMarked : List Dialect := [.aws, .quartz, .jenkins]

/-- The text of a schedule in a notation with question marks. -/
def questionMarkText (d : Dialect) (f : Fields) : Text :=
  if d = .aws then Aws.write f else Quartz.write f

lemma questionMarkText_congr (d : Dialect) {f g : Fields}
    (h : f.questionMarkTexts = g.questionMarkTexts) : d.questionMarkText f = d.questionMarkText g := by
  have haws : Aws.write f = Aws.write g := by
    unfold Aws.write
    rw [h]
  have hquartz : Quartz.write f = Quartz.write g := by
    unfold Quartz.write
    rw [h]
  rw [questionMarkText, haws, hquartz]
  rfl

end Dialect

section Notations

variable {f : Fields}

lemma fromCron_eq_done {d : Dialect} (hd : d ∈ Dialect.questionMarked) {s : Text} {e : Expression}
    (hread : Expression.read s = .ok e) (hf : e.schedule? = some f) :
    ∃ r, fromCron (.ok s) d.name = .ok (.done r) ∧ r.result = d.questionMarkText f := by
  simp only [Dialect.questionMarked, List.mem_cons, List.not_mem_nil, or_false] at hd
  rw [fromCron, Dialect.ofName?_name]
  rcases hd with rfl | rfl | rfl
  · exact ⟨_, Conversion.fromText_eq_done hread hf _ _ _, rfl⟩
  · exact ⟨_, Conversion.fromText_eq_done hread hf _ _ _, rfl⟩
  · exact ⟨_, Conversion.fromText_eq_done hread hf _ _ _, rfl⟩

lemma detect_aws (f : Fields) : detect (Aws.write f) = some .aws := by
  have hhead : (Aws.write f).head? = some 'c' := rfl
  have hlast : (Aws.write f).getLast? = some ')' := List.getLast?_concat
  have htrim : Text.trim (Aws.write f) = Aws.write f := by
    refine Text.trim_of_ends (fun c hc => ?_) fun c hc => ?_
    · obtain rfl := Option.some.inj (hhead.symm.trans hc)
      decide
    · obtain rfl := Option.some.inj (hlast.symm.trans hc)
      decide
  have hopen : (Aws.openCall? (Aws.write f)).isSome = true := rfl
  rw [detect, htrim]
  simp only [hopen, if_true]

variable (hf : ∀ p, (f.get p).IsStored p) (hne : f.dayOfWeek.values ≠ [])

include hf hne

lemma callWords?_write : Aws.callWords? (Aws.write f) = some (f.questionMarkTexts ++ ["*".toList]) := by
  refine Aws.callWords?_join (by simp) (fun w hw => ?_) fun w hw => ?_
  · rcases List.mem_append.1 hw with hw | hw
    · exact isSolid_questionMarkTexts hf hw hne
    · rw [List.mem_singleton.1 hw]
      exact ⟨by decide, by decide⟩
  · rcases List.mem_append.1 hw with hw | hw
    · exact notMem_questionMarkTexts hf hw (by decide) (by decide)
    · rw [List.mem_singleton.1 hw]
      decide

lemma isSolid_quartzTexts : ∀ w ∈ "0".toList :: f.questionMarkTexts, Text.IsSolid w := by
  intro w hw
  rcases List.mem_cons.1 hw with rfl | hw
  · exact ⟨by decide, by decide⟩
  · exact isSolid_questionMarkTexts hf hw hne

lemma words_write : Text.words (Quartz.write f) = "0".toList :: f.questionMarkTexts :=
  Text.words_join (isSolid_quartzTexts hf hne)

/-- The weekday field of what was written is found in it. -/
lemma weekdayText?_write {d : Dialect} (hd : d ∈ Dialect.questionMarked) :
    d.weekdayText? (d.questionMarkText f) = some f.questionMarkDays.2 := by
  simp only [Dialect.questionMarked, List.mem_cons, List.not_mem_nil, or_false] at hd
  rcases hd with rfl | rfl | rfl
  · simp only [Dialect.questionMarkText, Dialect.weekdayText?, if_true, callWords?_write hf hne]
    rfl
  · simp only [Dialect.questionMarkText, Dialect.weekdayText?, reduceCtorEq, if_false,
      words_write hf hne]
    rfl
  · simp only [Dialect.questionMarkText, Dialect.weekdayText?, reduceCtorEq, if_false,
      words_write hf hne]
    rfl

/-- What was written is read without anything that is dropped. -/
lemma toCron_write {d : Dialect} (hd : d ∈ Dialect.questionMarked) :
    ∃ note?, toCron (d.questionMarkText f) d.name =
      ofQuestionMarkTexts f.minute.raw f.hour.raw f.questionMarkDays.1 f.month.raw
        f.questionMarkDays.2 note? true := by
  simp only [Dialect.questionMarked, List.mem_cons, List.not_mem_nil, or_false] at hd
  rw [toCron, Dialect.ofName?_name]
  rcases hd with rfl | rfl | rfl
  · refine ⟨none, ?_⟩
    simp only [Dialect.questionMarkText, if_true, Aws.toCron, callWords?_write hf hne]
    rfl
  · refine ⟨none, ?_⟩
    simp only [Dialect.questionMarkText, reduceCtorEq, if_false, Quartz.toCron, words_write hf hne]
    rfl
  · refine ⟨none, ?_⟩
    simp only [Dialect.questionMarkText, reduceCtorEq, if_false, Quartz.toCron, words_write hf hne]
    rfl

lemma detect_quartz : detect (Quartz.write f) = some .quartz := by
  have hletters : ∀ w ∈ "0".toList :: f.questionMarkTexts, ∀ c ∈ w, c.isAlpha = false := by
    intro w hw c hc
    rcases List.mem_cons.1 hw with rfl | hw
    · rw [List.mem_singleton.1 hc]
      rfl
    · rcases chars_questionMarkTexts hf hw c hc with hc | rfl
      · exact (plain_of_isFieldChar hc).2.2
      · rfl
  have hdate : startsWithDate (Quartz.write f) = false := by
    obtain ⟨s, hs⟩ : ∃ s, Quartz.write f = '0' :: ' ' :: s := ⟨_, rfl⟩
    rw [hs]
    rfl
  exact detect_join (isSolid_quartzTexts hf hne) hletters hdate

end Notations

/-! ## There and back -/

/-- **What is written with question marks is read back as the same schedule.**  Take an expression whose
weekday field selects some day, and write it for AWS, Quartz or Jenkins.  The weekday field is then
`?` exactly when it was `*`, and otherwise means the same days, counted from Sunday as 1.  The
notation is recognised.  Reading is exact and gives an expression that selects the same numbers and is
`*` in the same day fields, so that it has the same runs and fires at the same times.  Written once more,
it gives the same text. -/
theorem questionMark_roundTrip {d : Dialect} (hd : d ∈ Dialect.questionMarked) {s : Text}
    {e : Expression} {f : Fields} (hread : Expression.read s = .ok e) (hf : e.schedule? = some f)
    (hne : f.dayOfWeek.values ≠ []) :
    ∃ written w back e' g again,
      fromCron (.ok s) d.name = .ok (.done written) ∧
      d.weekdayText? written.result = some w ∧
      (w = "?" ↔ f.dayOfWeek.isAny = true) ∧
      (f.dayOfWeek.isAny = false →
        ∃ items, WeekdayList.IsWritten items w ∧ WeekdayList.Covers items f.dayOfWeek.values) ∧
      detect written.result = some (if d = .aws then .aws else .quartz) ∧
      toCron written.result d.name = .ok (.done back) ∧ back.exact = true ∧
      Expression.read back.result = .ok e' ∧ e'.schedule? = some g ∧
      f.SelectAlike g ∧ f.StarAlike g ∧
      (∀ zone count start, e.runsAfter zone count start = e'.runsAfter zone count start) ∧
      (∀ zone t, e.firesAt zone t = e'.firesAt zone t) ∧
      fromCron (.ok back.result) d.name = .ok (.done again) ∧ again.result = written.result := by
  have hstored := Expression.isStored_of_read hread hf
  have hlt : ∀ v ∈ f.dayOfWeek.values, v < 7 := fun v hv =>
    Field.lt_seven_of_mem_values (hstored .dayOfWeek).read_raw hv
  obtain ⟨written, hwritten, hresult⟩ := fromCron_eq_done hd hread hf
  obtain ⟨g, hg, hselect, hstar, htexts, hconvert⟩ := exists_ofQuestionMarkTexts hstored hne
  obtain ⟨note?, htoCron⟩ := toCron_write hstored hne hd
  obtain ⟨back, e', hback, hexact, hread', hg'⟩ := Conversion.ofFieldTexts_eq_done hg note? true
  obtain ⟨again, hagain, hagainResult⟩ := fromCron_eq_done hd hread' hg'
  refine ⟨written, f.questionMarkDays.2, back, e', g, again, hwritten, ?_, ?_, ?_, ?_, ?_, hexact,
    hread', hg', hselect, hstar, Expression.runsAfter_eq_of_alike hf hg' hselect hstar,
    Expression.firesAt_eq_of_alike hf hg' hselect hstar, hagain, ?_⟩
  · rw [hresult]
    exact weekdayText?_write hstored hne hd
  · rw [questionMarkDays_snd]
    split_ifs with hany
    · simp [hany]
    · refine iff_of_false (fun hquestion => ?_) hany
      -- days are written with digits, commas and hyphens only
      have hmem : '?' ∈ f.dayOfWeek.weekdaysFromOne := by
        rw [hquestion]
        decide
      exact absurd (Field.chars_weekdaysFromOne hlt _ hmem) (by decide)
  · intro hany
    rw [questionMarkDays_snd, hany]
    exact Field.exists_covers hlt hne
  · rw [hresult, Dialect.questionMarkText]
    split_ifs
    · exact detect_aws f
    · exact detect_quartz hstored hne
  · rw [hresult, htoCron, hconvert]
    exact hback
  · rw [hagainResult, hresult]
    exact Dialect.questionMarkText_congr d htexts

/-- Nine o'clock from Monday to Friday goes to Quartz and back. -/
theorem questionMark_roundTrip_workdays :
    ∃ e f written back e' g, Expression.read "0 9 * * MON-FRI" = .ok e ∧ e.schedule? = some f ∧
      f.dayOfWeek.values = [1, 2, 3, 4, 5] ∧
      fromCron (.ok "0 9 * * MON-FRI") (Dialect.name .quartz) = .ok (.done written) ∧
      detect written.result = some .quartz ∧
      toCron written.result (Dialect.name .quartz) = .ok (.done back) ∧ back.exact = true ∧
      Expression.read back.result = .ok e' ∧ e'.schedule? = some g ∧
      f.SelectAlike g ∧ f.StarAlike g := by
  have h : (do
      let e ← Expression.read "0 9 * * MON-FRI"
      return e.schedule?.map fun f : Fields => f.dayOfWeek.values) = .ok (some [1, 2, 3, 4, 5]) := by
    rfl
  obtain ⟨e, hread, h⟩ := bind_eq_ok_iff.1 h
  obtain ⟨f, hf, hvalues⟩ := Option.map_eq_some_iff.1 (pure_eq_ok_iff.1 h)
  obtain ⟨written, w, back, e', g, again, hwritten, -, -, -, hdetect, hback, hexact, hread', hg,
    hselect, hstar, -⟩ := questionMark_roundTrip (d := .quartz) (by decide) hread hf (by simp [hvalues])
  exact ⟨e, f, written, back, e', g, hread, hf, hvalues, hwritten, hdetect, hback, hexact, hread', hg,
    hselect, hstar⟩

end Crontab
