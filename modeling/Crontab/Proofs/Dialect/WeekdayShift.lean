import Crontab.Proofs.Dialect.Format
import Crontab.Proofs.Dialect.WeekdayReading

/-!
# Weekdays on the way into five fields

A list of weekdays that counts from 1 is taken apart at its commas, each item is counted from 0 or
left as it is, and what results is the weekday field of the expression.  The field has the days that the
list means when each item keeps its own, and for a single item this is the only way
(`toCron_keeps_weekdays`).

Not every item does.  A range of numbers with a step keeps its numbers, which mean the days after: the
conversion is still taken for exact (`toCron_stepped_range_unshifted`).
-/

namespace Crontab

namespace WeekdayList

/-! ## What becomes of a list -/

section Lists

variable {items : List Item} {ts us : List Text}

lemma chars_of_tokenFromZero {t u : Text} (h : tokenFromZero t = .ok u) :
    u = t ∨ u ≠ [] ∧ ∀ c ∈ u, c.isDigit = true ∨ c = '-' := by
  have hint : ∀ z, intText z ≠ [] := by
    rintro (n | n)
    · exact natText_ne_nil n
    · simp [intText]
  unfold tokenFromZero at h
  split at h
  · obtain ⟨v, -, h⟩ := bind_eq_ok_iff.1 h
    obtain rfl := pure_eq_ok_iff.1 h
    exact .inr ⟨hint _, fun c hc => isDigit_or_eq_of_mem_intText hc⟩
  · split at h
    · obtain ⟨v, -, h⟩ := bind_eq_ok_iff.1 h
      obtain ⟨w, -, h⟩ := bind_eq_ok_iff.1 h
      dsimp only at h
      split at h
      · obtain rfl := pure_eq_ok_iff.1 h
        refine .inr ⟨by simp, ?_⟩
        simp only [List.forall_mem_append]
        exact ⟨⟨fun c hc => isDigit_or_eq_of_mem_intText hc, by decide⟩,
          fun c hc => isDigit_or_eq_of_mem_intText hc⟩
      · exact .inl (pure_eq_ok_iff.1 h).symm
    · exact .inl (pure_eq_ok_iff.1 h).symm

/-- A token of a list is an item before and after it is counted from 0. -/
lemma itemChars_of_tokenFromZero {i : Item} {t u : Text} (hw : i.IsWritten t)
    (h : tokenFromZero t = .ok u) : u ≠ [] ∧ ∀ c ∈ u, isItemChar c = true := by
  rcases chars_of_tokenFromZero h with rfl | ⟨hne, hchars⟩
  · exact Item.chars_of_isWritten hw
  · refine ⟨hne, fun c hc => ?_⟩
    rcases hchars c hc with hc | rfl
    · exact isItemChar_of_isAlphanum (by simp [Char.isAlphanum, hc])
    · decide

/-- There is no comma in the stored form of a token. -/
lemma comma_notMem_normalize {u : Text} (hu : ∀ c ∈ u, isItemChar c = true) :
    ',' ∉ Field.normalize .dayOfWeek u := fun hmem => by
  have hascii : ∀ c ∈ u, c.toNat < 128 := fun c hc => toNat_lt_of_isItemChar (hu c hc)
  rw [Field.normalize, Text.lower_of_ascii hascii] at hmem
  rcases Field.mem_replaceNames hmem with hmem | hmem
  · obtain ⟨c, hc, hcomma⟩ := List.mem_map.1 hmem
    obtain ⟨-, -, -, -, hlower⟩ := apart_of_isItemChar (hu c hc)
    exact (apart_of_isItemChar hlower).1 hcomma
  · exact absurd hmem (by decide)

/-- A list is a solid text without a mark for a whole field, before and after it is counted from 0. -/
lemma isSolid_join {us : List Text} (hne : us ≠ [])
    (hus : ∀ u ∈ us, u ≠ [] ∧ ∀ c ∈ u, isItemChar c = true) :
    Text.IsSolid (Text.join "," us) ∧ '?' ∉ Text.join "," us ∧ '*' ∉ Text.join "," us := by
  have hmem : ∀ c ∈ Text.join "," us, c = ',' ∨ isItemChar c = true := fun c hc => by
    rcases Text.mem_join hc with hc | ⟨u, hu, hc⟩
    · exact .inl (List.mem_singleton.1 hc)
    · exact .inr ((hus u hu).2 c hc)
  obtain ⟨u, rest, rfl⟩ := List.exists_cons_of_ne_nil hne
  have hne : Text.join "," (u :: rest) ≠ [] := Text.join_ne_nil rest (hus u List.mem_cons_self).1
  refine ⟨⟨hne, fun c hc => ?_⟩, fun hc => ?_, fun hc => ?_⟩
  · rcases hmem c hc with rfl | hc
    · decide
    · exact (apart_of_isItemChar hc).2.2.2.1
  · rcases hmem _ hc with hc | hc <;> exact absurd hc (by decide)
  · rcases hmem _ hc with hc | hc <;> exact absurd hc (by decide)

/-- The text of a list is counted from 0 token by token, and is solid then, too. -/
lemma exists_tokens {w v : Text} (hw : IsWritten items w) (hv : weekdayField w = .ok v) :
    Text.IsSolid v ∧ ∃ ts us, List.Forall₂ Item.IsWritten items ts ∧
      ts.mapM tokenFromZero = .ok us ∧ v = Text.join "," us := by
  obtain ⟨hne, ts, hwritten, rfl⟩ := hw
  have hts : ∀ t ∈ ts, t ≠ [] ∧ ∀ c ∈ t, isItemChar c = true := by
    intro t ht
    obtain ⟨i, -, hi⟩ := exists_of_forall₂ hwritten.flip ht
    exact Item.chars_of_isWritten hi
  have htsne : ts ≠ [] := by
    rintro rfl
    exact hne (List.forall₂_nil_right_iff.1 hwritten)
  have hpieces : Text.pieces ',' (Text.join "," ts) = ts :=
    Text.pieces_join htsne fun t ht hc => (apart_of_isItemChar ((hts t ht).2 _ hc)).1 rfl
  obtain ⟨-, hquestion, hstar⟩ := isSolid_join htsne hts
  rw [Field.weekdayField_eq hquestion hstar, weekdaysFromZero, hpieces] at hv
  obtain ⟨us, htokens, hv⟩ := bind_eq_ok_iff.1 hv
  obtain rfl := pure_eq_ok_iff.1 hv
  have hus : ∀ u ∈ us, u ≠ [] ∧ ∀ c ∈ u, isItemChar c = true := by
    intro u hu
    obtain ⟨t, ht, hu⟩ := exists_of_forall₂ (mapM_eq_ok_iff.1 htokens).flip hu
    obtain ⟨i, -, hi⟩ := exists_of_forall₂ hwritten.flip ht
    exact itemChars_of_tokenFromZero hi hu
  have husne : us ≠ [] := by
    rintro rfl
    exact htsne (List.forall₂_nil_right_iff.1 (mapM_eq_ok_iff.1 htokens))
  exact ⟨(isSolid_join husne hus).1, ts, us, hwritten, htokens, rfl⟩

/-- The segments of the field that results belong to the items one by one. -/
lemma exists_segments (hitems : List.Forall₂ Item.IsWritten items ts) (hne : items ≠ [])
    (htokens : ts.mapM tokenFromZero = .ok us) {f : Field}
    (hread : Field.read .dayOfWeek (Text.join "," us) = .ok f) (hsound : f.isSound = true) :
    ∃ segments : List Segment,
      List.Forall₂ (fun i g => i.Means (g.values .dayOfWeek) ↔ i.IsKept) items segments ∧
      ∀ v, v ∈ f.values ↔ ∃ g ∈ segments, v ∈ g.values .dayOfWeek := by
  have hwritten : List.Forall₂ (fun i u => ∃ t, i.IsWritten t ∧ tokenFromZero t = .ok u) items us :=
    forall₂_trans hitems (mapM_eq_ok_iff.1 htokens) fun _ t _ _ hw htoken => ⟨t, hw, htoken⟩
  have hchars : ∀ u ∈ us, ∀ c ∈ u, isItemChar c = true := by
    intro u hu
    obtain ⟨i, -, t, hw, htoken⟩ := exists_of_forall₂ hwritten.flip hu
    exact (itemChars_of_tokenFromZero hw htoken).2
  have husne : us ≠ [] := by
    rintro rfl
    exact hne (List.forall₂_nil_right_iff.1 hwritten)
  -- no item holds a comma, so the pieces of the field are the items
  have hpieces : Text.pieces ',' (Field.normalize .dayOfWeek (Text.join "," us)) =
      us.map (Field.normalize .dayOfWeek) := by
    rw [Field.normalize_join fun u hu c hc => toNat_lt_of_isItemChar (hchars u hu c hc)]
    refine Text.pieces_join (by simpa using husne) fun t ht => ?_
    obtain ⟨u, hu, rfl⟩ := List.mem_map.1 ht
    exact comma_notMem_normalize (hchars u hu)
  obtain ⟨segments, hsegments, hrange, rfl⟩ := Field.read_iff.1 ⟨hread, hsound⟩
  rw [hpieces, List.forall₂_map_left_iff] at hsegments
  refine ⟨segments, forall₂_trans hwritten hsegments ?_, fun v => ?_⟩
  · rintro i u g hg ⟨t, hw, htoken⟩ hreadg
    exact Item.isKept_iff_of_read hw htoken hreadg (hrange g hg)
  · rw [mem_ascending, List.mem_flatMap]

/-- When all items keep their days, so does the list; and a single item keeps its days only so. -/
lemma covers_of_segments {segments : List Segment} {vs : List Nat}
    (hitems : List.Forall₂ (fun i g => i.Means (g.values .dayOfWeek) ↔ i.IsKept) items segments)
    (hvalues : ∀ v, v ∈ vs ↔ ∃ g ∈ segments, v ∈ g.values .dayOfWeek) :
    ((∀ i ∈ items, i.IsKept) → Covers items vs) ∧ ∀ i, items = [i] → Covers items vs → i.IsKept := by
  constructor
  · intro hkept
    refine ⟨fun i hi => ?_, fun v => (hvalues v).trans ⟨?_, ?_⟩⟩
    · obtain ⟨g, -, hg⟩ := exists_of_forall₂ hitems hi
      exact (hg.2 (hkept i hi)).1
    · rintro ⟨g, hg, hv⟩
      obtain ⟨i, hi, hig⟩ := exists_of_forall₂ hitems.flip hg
      exact ⟨i, hi, ((hig.2 (hkept i hi)).2 v).1 hv⟩
    · rintro ⟨i, hi, hv⟩
      obtain ⟨g, hg, hig⟩ := exists_of_forall₂ hitems hi
      exact ⟨g, hg, ((hig.2 (hkept i hi)).2 v).2 hv⟩
  · rintro i rfl ⟨hwithin, hcovers⟩
    -- a single item has a single segment, so that nothing else can make up for its days
    cases hitems with
    | cons hg hnil =>
      cases hnil
      refine hg.1 ⟨hwithin i (by simp), fun v => ?_⟩
      have hv := (hvalues v).symm.trans (hcovers v)
      simpa using hv

end Lists

end WeekdayList

/-! ## What becomes of a schedule -/

lemma isSolid_withoutQuestionMark {t : Text} (ht : Text.IsSolid t) :
    Text.IsSolid (withoutQuestionMark t) := by
  unfold withoutQuestionMark
  split
  · exact ⟨by decide, by decide⟩
  · exact ht

/-- Five texts by the position of the field that each is for. -/
def Position.textOf (minute hour dayOfMonth month dayOfWeek : Text) : Position → Text
  | .minute => minute
  | .hour => hour
  | .dayOfMonth => dayOfMonth
  | .month => month
  | .dayOfWeek => dayOfWeek

/-- When five texts with question marks are converted, the weekdays of the result are read from what
the last of them becomes. -/
lemma exists_schedule_of_ofQuestionMarkTexts {minute hour dayOfMonth month w : Text} {note? : Option Note}
    {exact : Bool} {c : Converted} (hsolid : ∀ t ∈ [minute, hour, dayOfMonth, month], Text.IsSolid t)
    (hw : ∀ v, weekdayField w = .ok v → Text.IsSolid v)
    (hdone : ofQuestionMarkTexts minute hour dayOfMonth month w note? exact = .ok (.done c)) :
    ∃ v e g, weekdayField w = .ok v ∧ Expression.read c.result = .ok e ∧ e.schedule? = some g ∧
      Field.read .dayOfWeek v = .ok g.dayOfWeek ∧ g.dayOfWeek.isSound = true := by
  obtain ⟨v, hv, hdone⟩ := bind_eq_ok_iff.1 hdone
  have htexts : ∀ p, Text.IsSolid (Position.textOf (withoutQuestionMark minute)
      (withoutQuestionMark hour) (withoutQuestionMark dayOfMonth) (withoutQuestionMark month) v p) := by
    intro p
    cases p with
    | minute => exact isSolid_withoutQuestionMark (hsolid minute (by simp))
    | hour => exact isSolid_withoutQuestionMark (hsolid hour (by simp))
    | dayOfMonth => exact isSolid_withoutQuestionMark (hsolid dayOfMonth (by simp))
    | month => exact isSolid_withoutQuestionMark (hsolid month (by simp))
    | dayOfWeek => exact hw v hv
  obtain ⟨-, e, g, hread, hg, hfields⟩ := Conversion.exists_schedule_of_ofFieldTexts htexts hdone
  exact ⟨v, e, g, hv, hread, hg, hfields .dayOfWeek⟩

/-- An expression of AWS with a weekday field is read as five words, of which this is the last. -/
lemma Aws.exists_toCron_eq {s w : Text} (hw : Dialect.weekdayText? .aws s = some w) :
    ∃ minute hour dayOfMonth month note? exact,
      (∀ t ∈ [minute, hour, dayOfMonth, month], Text.IsSolid t) ∧
      toCron s = ofQuestionMarkTexts minute hour dayOfMonth month w note? exact := by
  simp only [Dialect.weekdayText?] at hw
  split at hw
  · next minute hour dayOfMonth month dayOfWeek year hwords =>
    obtain rfl := Option.some.inj hw
    obtain ⟨body, -, hbody⟩ := Option.map_eq_some_iff.1 hwords
    have hsolid : ∀ t ∈ [minute, hour, dayOfMonth, month], Text.IsSolid t := fun t ht =>
      Text.isSolid_of_mem_words (s := body) (by
        rw [hbody]
        exact List.mem_append_left [dayOfWeek, year] ht)
    rw [toCron, hwords]
    exact ⟨minute, hour, dayOfMonth, month, _, _, hsolid, rfl⟩
  · simp at hw

/-- So is an expression of Quartz, behind its seconds. -/
lemma Quartz.exists_toCron_eq {s w : Text} (hw : Dialect.weekdayText? .quartz s = some w) :
    ∃ minute hour dayOfMonth month note? exact,
      (∀ t ∈ [minute, hour, dayOfMonth, month], Text.IsSolid t) ∧
      toCron s = ofQuestionMarkTexts minute hour dayOfMonth month w note? exact := by
  simp only [Dialect.weekdayText?] at hw
  split at hw
  · next second minute hour dayOfMonth month dayOfWeek hwords =>
    obtain rfl := Option.some.inj hw
    have hsolid : ∀ t ∈ [minute, hour, dayOfMonth, month], Text.IsSolid t := fun t ht =>
      Text.isSolid_of_mem_words (s := s) (by
        rw [hwords]
        exact List.mem_cons_of_mem second (List.mem_append_left [dayOfWeek] ht))
    rw [toCron, hwords]
    exact ⟨minute, hour, dayOfMonth, month, _, _, hsolid, rfl⟩
  · next second minute hour dayOfMonth month dayOfWeek year hwords =>
    obtain rfl := Option.some.inj hw
    have hsolid : ∀ t ∈ [minute, hour, dayOfMonth, month], Text.IsSolid t := fun t ht =>
      Text.isSolid_of_mem_words (s := s) (by
        rw [hwords]
        exact List.mem_cons_of_mem second (List.mem_append_left [dayOfWeek, year] ht))
    rw [toCron, hwords]
    exact ⟨minute, hour, dayOfMonth, month, _, _, hsolid, rfl⟩
  · simp at hw

lemma exists_toCron_eq {d : Dialect} {name s w : Text} (hname : Dialect.ofName? name = some d)
    (hw : d.weekdayText? s = some w) :
    ∃ minute hour dayOfMonth month note? exact,
      (∀ t ∈ [minute, hour, dayOfMonth, month], Text.IsSolid t) ∧
      toCron s name = ofQuestionMarkTexts minute hour dayOfMonth month w note? exact := by
  rw [toCron, hname]
  cases d with
  | aws => exact Aws.exists_toCron_eq hw
  | quartz => exact Quartz.exists_toCron_eq hw
  | jenkins => exact Quartz.exists_toCron_eq hw
  | cron => simp [Dialect.weekdayText?] at hw
  | systemd => simp [Dialect.weekdayText?] at hw
  | github => simp [Dialect.weekdayText?] at hw

/-- **Which weekdays are kept.**  Take a text for AWS, Quartz or Jenkins whose weekday field is a list
of items, and that is converted, exactly or not.  When every item is one of those that keep their days,
its numbers are numbers of weekdays and the expression has exactly the weekdays that the list means.
For a single item this is the only way: where the weekdays are the same, the item is one that keeps
them. -/
theorem toCron_keeps_weekdays {d : Dialect} {name s w : Text} {items : List WeekdayList.Item}
    {c : Converted} (hname : Dialect.ofName? name = some d) (hw : d.weekdayText? s = some w)
    (hitems : WeekdayList.IsWritten items w) (hdone : toCron s name = .ok (.done c)) :
    ∃ e g, Expression.read c.result = .ok e ∧ e.schedule? = some g ∧
      ((∀ i ∈ items, i.IsKept) → WeekdayList.Covers items g.dayOfWeek.values) ∧
      ∀ i, items = [i] → WeekdayList.Covers items g.dayOfWeek.values → i.IsKept := by
  obtain ⟨minute, hour, dayOfMonth, month, note?, exact, hsolid, htoCron⟩ := exists_toCron_eq hname hw
  rw [htoCron] at hdone
  obtain ⟨v, e, g, hv, hread, hg, hfield, hsound⟩ := exists_schedule_of_ofQuestionMarkTexts hsolid
    (fun v hv => (WeekdayList.exists_tokens hitems hv).1) hdone
  obtain ⟨-, ts, us, hwritten, htokens, rfl⟩ := WeekdayList.exists_tokens hitems hv
  obtain ⟨segments, hsegments, hvalues⟩ :=
    WeekdayList.exists_segments hwritten hitems.1 htokens hfield hsound
  exact ⟨e, g, hread, hg, WeekdayList.covers_of_segments hsegments hvalues⟩

/-- Monday to Wednesday and Saturday, by number and by name, are kept. -/
theorem toCron_keeps_weekdays_listed :
    let items : List WeekdayList.Item :=
      [.ofRange 2 4 (by decide), ⟨.named 6, none, none, by simp, by simp⟩]
    ∃ c e g, Dialect.weekdayText? .aws "cron(0 9 ? * 2-4,Sat *)" = some "2-4,Sat" ∧
      WeekdayList.IsWritten items "2-4,Sat" ∧ (∀ i ∈ items, i.IsKept) ∧
      toCron "cron(0 9 ? * 2-4,Sat *)" (Dialect.name .aws) = .ok (.done c) ∧ c.exact = true ∧
      Expression.read c.result = .ok e ∧ e.schedule? = some g ∧
      WeekdayList.Covers items g.dayOfWeek.values := by
  intro items
  have hw : Dialect.weekdayText? .aws "cron(0 9 ? * 2-4,Sat *)" = some "2-4,Sat" := by rfl
  have hitems : WeekdayList.IsWritten items "2-4,Sat" := by
    refine ⟨by simp [items], ["2-4", "Sat"], .cons ⟨"2", "4", ?_, ?_, rfl⟩ (.cons ?_ .nil), rfl⟩
    · exact ⟨by decide, by decide⟩
    · exact ⟨by decide, by decide⟩
    · change ("Sat".toList.map Char.toLower, 6) ∈ Position.dayOfWeek.names
      decide
  have hkept : ∀ i ∈ items, i.IsKept := by
    simp only [items, List.forall_mem_cons, List.not_mem_nil, IsEmpty.forall_iff, implies_true, and_true]
    exact ⟨(by decide : 4 ≤ 7), trivial⟩
  let c : Converted := ⟨.cron, "0 9 * * 1-3,Sat", none,
    some "At minute 0 at 9AM on Monday, Tuesday, Wednesday, Saturday", none, true⟩
  have hdone : toCron "cron(0 9 ? * 2-4,Sat *)" (Dialect.name .aws) = .ok (.done c) := by
    rfl
  obtain ⟨e, g, hread, hg, hcovers, -⟩ :=
    toCron_keeps_weekdays (Dialect.ofName?_name .aws) hw hitems hdone
  exact ⟨c, e, g, hw, hitems, hkept, hdone, rfl, hread, hg, hcovers hkept⟩

/-- Every second day from Monday to Friday, `2-6/2`, is taken for exact, and becomes Tuesday,
Thursday and Saturday. -/
theorem toCron_stepped_range_unshifted :
    let item : WeekdayList.Item :=
      ⟨.number 2, some (.number 6), some 2, by simp [WeekdayList.Day.position], by simp⟩
    ∃ c e g, Dialect.weekdayText? .aws "cron(0 9 ? * 2-6/2 *)" = some "2-6/2" ∧
      WeekdayList.IsWritten [item] "2-6/2" ∧
      toCron "cron(0 9 ? * 2-6/2 *)" (Dialect.name .aws) = .ok (.done c) ∧ c.exact = true ∧
      Expression.read c.result = .ok e ∧ e.schedule? = some g ∧
      item.weekdays = [1, 3, 5] ∧ g.dayOfWeek.values = [2, 4, 6] ∧
      ¬ WeekdayList.Covers [item] g.dayOfWeek.values := by
  intro item
  have hw : Dialect.weekdayText? .aws "cron(0 9 ? * 2-6/2 *)" = some "2-6/2" := by rfl
  have hitem : WeekdayList.IsWritten [item] "2-6/2" := by
    refine ⟨by simp, ["2-6/2"], .cons ⟨"2-6", "2", ⟨"2", "6", ?_, ?_, rfl⟩, ?_, ?_, rfl⟩ .nil, rfl⟩
    · exact ⟨by decide, by decide⟩
    · exact ⟨by decide, by decide⟩
    · decide
    · decide
  have hweekdays : item.weekdays = [1, 3, 5] := by decide
  let c : Converted := ⟨.cron, "0 9 * * 2-6/2", none,
    some "At minute 0 at 9AM on Tuesday, Thursday, Saturday", none, true⟩
  have hdone : toCron "cron(0 9 ? * 2-6/2 *)" (Dialect.name .aws) = .ok (.done c) := by
    rfl
  have h : (do
      let e ← Expression.read c.result
      return e.schedule?.map fun g : Fields => g.dayOfWeek.values) = .ok (some [2, 4, 6]) := by
    rfl
  obtain ⟨e, hread, h⟩ := bind_eq_ok_iff.1 h
  obtain ⟨g, hg, hvalues⟩ := Option.map_eq_some_iff.1 (pure_eq_ok_iff.1 h)
  refine ⟨c, e, g, hw, hitem, hdone, rfl, hread, hg, hweekdays, hvalues, ?_⟩
  rintro ⟨-, hcovers⟩
  have hsecond := (hcovers 2).1 (by simp [hvalues])
  simp [hweekdays] at hsecond

end Crontab
