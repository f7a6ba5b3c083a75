import Crontab.Dialect.Conversion
import Crontab.Proofs.Text.Words

/-!
# Which notation a text is taken for

A text is taken for AWS when it starts with `cron(`, and for systemd when it holds `OnCalendar` or
starts with a date.  Neither can happen to words without letters of which the first is not written
like a date; such a text is told by the number of its words (`detect_join`).

A date in front shows in the first word alone: it is three parts with hyphens between them, and the
parts are runs of word characters (`exists_of_startsWithDate_join`).
-/

namespace Crontab

/-! ## A date in front -/

lemma Text.eq_append_of_word? {s w rest : Text} (h : word? s = some (w, rest)) :
    s = w ++ rest ∧ ∀ c ∈ w, isWord c = true := by
  unfold word? at h
  split at h
  · simp at h
  · obtain ⟨rfl, rfl⟩ := Prod.mk.inj (Option.some.inj h)
    exact ⟨(List.takeWhile_append_dropWhile).symm, fun c hc => List.mem_takeWhile_imp hc⟩

lemma eq_append_of_wordThen? {mark s rest : Text} (h : wordThen? mark s = some rest) :
    ∃ w, s = w ++ (mark ++ rest) ∧ ∀ c ∈ w, Text.isWord c = true := by
  obtain ⟨⟨w, behind⟩, hword, hmark⟩ := Option.bind_eq_some_iff.1 h
  obtain ⟨rfl, hw⟩ := Text.eq_append_of_word? hword
  exact ⟨w, by rw [Text.eq_append_of_skip? hmark], hw⟩

lemma exists_of_startsWithDate {s : Text} (h : startsWithDate s = true) :
    ∃ a b c d rest, s = a ++ '-' :: (b ++ '-' :: c) ++ d :: rest ∧ Text.isBlank d = true ∧
      ∀ e ∈ a ++ (b ++ c), Text.isWord e = true := by
  unfold startsWithDate at h
  split at h
  · next c d rest hread =>
    obtain ⟨s₂, hread, hc⟩ := Option.bind_eq_some_iff.1 hread
    obtain ⟨s₁, ha, hb⟩ := Option.bind_eq_some_iff.1 hread
    obtain ⟨a, rfl, hawords⟩ := eq_append_of_wordThen? ha
    obtain ⟨b, rfl, hbwords⟩ := eq_append_of_wordThen? hb
    obtain ⟨rfl, hcwords⟩ := Text.eq_append_of_word? hc
    refine ⟨a, b, c, d, rest, by simp, h, ?_⟩
    simp only [List.forall_mem_append]
    exact ⟨hawords, hbwords, hcwords⟩
  · simp at h

/-- If a text starts with a date, then its first word is the date. -/
lemma exists_of_startsWithDate_join {w s : Text} (hw : ∀ c ∈ w, Text.isBlank c = false)
    (h : startsWithDate (w ++ ' ' :: s) = true) :
    ∃ a b c, w = a ++ '-' :: (b ++ '-' :: c) ∧ ∀ e ∈ a ++ (b ++ c), Text.isWord e = true := by
  obtain ⟨a, b, c, d, rest, heq, hd, hword⟩ := exists_of_startsWithDate h
  refine ⟨a, b, c, ?_, hword⟩
  -- neither side has a blank before the one behind the first word
  have hsolid : ∀ e ∈ a ++ '-' :: (b ++ '-' :: c), Text.isBlank e = false := by
    intro e he
    by_contra hblank
    have hnoWord : Text.isWord e = false := Text.isWord_of_isBlank (by simpa using hblank)
    have hhyphen : e ≠ '-' := by
      rintro rfl
      exact hblank rfl
    have hmem : e ∈ a ++ (b ++ c) := by simpa [hhyphen] using he
    simp [hword e hmem] at hnoWord
  have htake : ∀ {u v : Text} {e : Char}, (∀ c ∈ u, Text.isBlank c = false) →
      Text.isBlank e = true → (u ++ e :: v).takeWhile (fun c => !Text.isBlank c) = u := by
    intro u v e hu he
    rw [List.takeWhile_append_of_pos (by simpa using hu), List.takeWhile_cons_of_neg (by simp [he]),
      List.append_nil]
  have hfirst := congrArg (List.takeWhile fun c => !Text.isBlank c) heq
  rwa [htake hw (by decide), htake hsolid hd] at hfirst

/-! ## Texts without letters -/

/-- `cron` is written with letters. -/
lemma Aws.openCall?_eq_none {s : Text} (h : ∀ c ∈ s, c.isAlpha = false) : openCall? s = none := by
  unfold openCall?
  split
  · next c r o n rest =>
    refine if_neg fun hcron => ?_
    have hc : c.toLower = 'c' := (List.cons.inj hcron).1
    have hletter : c.isAlpha = true := Text.isAlpha_of_toLower (by rw [hc]; rfl)
    simp [h c List.mem_cons_self] at hletter
  · rfl

/-- Words without letters, of which the first is no date, are told by their number. -/
theorem detect_join {ws : List Text} (hsolid : ∀ w ∈ ws, Text.IsSolid w)
    (hletters : ∀ w ∈ ws, ∀ c ∈ w, c.isAlpha = false)
    (hdate : startsWithDate (Text.join " " ws) = false) :
    detect (Text.join " " ws) =
      match ws.length with
      | 5 => some .cron
      | 6 => some .quartz
      | 7 => some .quartz
      | _ => none := by
  have hnone : ∀ c ∈ Text.join " " ws, c.isAlpha = false := by
    intro c hc
    rcases Text.mem_join hc with hc | ⟨w, hw, hc⟩
    · rw [List.mem_singleton.1 hc]
      rfl
    · exact hletters w hw c hc
  -- without letters there is no name of another notation
  have hcalendar : Text.occursIn "OnCalendar" (Text.join " " ws) = false := by
    refine Text.occursIn_of_notMem fun hmem => ?_
    exact absurd (hnone _ hmem) (by decide)
  have htrim : Text.trim (Text.join " " ws) = Text.join " " ws := Text.trim_join hsolid
  have hwords : Text.words (Text.join " " ws) = ws := Text.words_join hsolid
  generalize Text.join " " ws = t at hdate hnone hcalendar htrim hwords ⊢
  subst hwords
  have hcall : ¬ (Aws.openCall? t).isSome = true := by simp [Aws.openCall?_eq_none hnone]
  have hsystemd : ¬ (Text.occursIn "OnCalendar" t || startsWithDate t) = true := by
    rw [hcalendar, hdate]
    exact Bool.false_ne_true
  rw [detect, htrim]
  exact (if_neg hcall).trans (if_neg hsystemd)

end Crontab
