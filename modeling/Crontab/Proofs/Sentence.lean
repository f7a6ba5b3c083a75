import Mathlib.Data.List.GetD
import Mathlib.Data.List.SplitBy
import Crontab.Proofs.Comparison
import Crontab.Proofs.Expression
import Crontab.Proofs.Text.Words
import Crontab.Sentence

/-!
# What a sentence gives away

The sentence for an expression has one clause for each field that says something.  `describe_eq_iff`
says that it gives away everything a schedule uses, as long as the minutes and the hours are written
without a step: two expressions with the same sentence select the same numbers at every position and
are `*` at the same positions, so they fire at the same times.

Nothing but a blank stands between two clauses, and blanks stand within the clauses as well.  What
tells where a clause ends is the first word of the next one.  A clause opens with one of six words
(`openers`) that never stand inside of a clause, so a sentence can be divided into its clauses again
(`splitBy_flatten_clauses`).  Each clause in turn shows which field it is about (`Tells.subject_eq`)
and which numbers are told (`Tells.unique`): hours on the twelve-hour clock can be told apart, and so
can months and weekdays, and only one list of days is called `weekdays`.

Where a field selects nothing, as a reversed range does, its clause ends behind the words that open
it.  This is why a sentence is taken for its words here and not for the texts between its blanks.
Steps in the minutes and the hours have to be excluded.  Such a field is told by its step alone, so
that `*/7` and `1-59/7` have the same sentence.
-/

namespace Crontab

/-! ## Spoken words -/

/-- The words of a sentence, without the commas behind them. -/
def spoken (s : Text) : List Text := Text.words (s.filter (· ≠ ','))

/-- A text is one spoken word. -/
def IsSpoken (w : Text) : Prop := Text.IsSolid w ∧ ',' ∉ w

instance : DecidablePred IsSpoken := fun w => inferInstanceAs (Decidable (Text.IsSolid w ∧ ',' ∉ w))

lemma IsSpoken.append {v w : Text} (hv : IsSpoken v) (hw : IsSpoken w) : IsSpoken (v ++ w) := by
  obtain ⟨⟨hne, hv⟩, hcomma⟩ := hv
  obtain ⟨⟨-, hw⟩, hcomma'⟩ := hw
  refine ⟨⟨List.append_ne_nil_of_left_ne_nil hne w, List.forall_mem_append.2 ⟨hv, hw⟩⟩, ?_⟩
  rw [List.mem_append]
  exact not_or.2 ⟨hcomma, hcomma'⟩

lemma IsSpoken.filter_eq {w : Text} (hw : IsSpoken w) : w.filter (· ≠ ',') = w := by
  refine List.filter_eq_self.2 fun c hc => ?_
  have hne : c ≠ ',' := fun e => hw.2 (e ▸ hc)
  simpa using hne

lemma spoken_join (ts : List Text) : spoken (Text.join " " ts) = ts.flatMap spoken := by
  have hjoin : (Text.join " " ts).filter (· ≠ ',') =
      Text.join [' '] (ts.map (List.filter (· ≠ ','))) := Text.filter_join _ _ _
  rw [spoken, hjoin, Text.words_join_flatMap, List.flatMap_map]
  rfl

/-- What ends with a blank has words of its own. -/
lemma spoken_append {lead : Text} (hlead : lead.getLast? = some ' ') (t : Text) :
    spoken (lead ++ t) = spoken lead ++ spoken t := by
  obtain ⟨lead, rfl⟩ := List.getLast?_eq_some_iff.1 hlead
  rw [spoken, List.filter_append, spoken, spoken]
  apply Text.words_append_of_blank
  simp [Text.isBlank_of_isWhitespace]

/-- A list is spoken entry by entry. -/
lemma spoken_list {ws : List Text} (hws : ∀ w ∈ ws, IsSpoken w) :
    spoken (Text.join ", " ws) = ws := by
  have hfilter : ws.map (List.filter (· ≠ ',')) = ws := by
    conv_rhs => rw [← List.map_id ws]
    exact List.map_congr_left fun w hw => (hws w hw).filter_eq
  have hjoin : (Text.join ", " ws).filter (· ≠ ',') = Text.join [' '] ws := by
    rw [Text.filter_join, hfilter]
    rfl
  rw [spoken, hjoin, Text.words_join fun w hw => (hws w hw).1]

lemma IsSpoken.spoken_eq {w : Text} (hw : IsSpoken w) : spoken w = [w] := by
  have hlist : ∀ v ∈ [w], IsSpoken v := List.forall_mem_singleton.2 hw
  exact spoken_list hlist

/-! ## Numbers, hours and names -/

/-- The words that clauses open with. -/
def openers : List Text := ["Every", "At", "at", "during", "on", "in"]

lemma isSpoken_natText (n : ℕ) : IsSpoken (natText n) := by
  refine ⟨⟨natText_ne_nil n, noBlank_of_isDigits (isDigits_natText n)⟩, fun hmem => ?_⟩
  have hdigit : (',').isDigit = true := isDigit_of_mem_natText hmem
  simp at hdigit

lemma spoken_natsText (vs : List ℕ) : spoken (natsText vs) = vs.map natText :=
  spoken_list (List.forall_mem_map.2 fun v _ => isSpoken_natText v)

lemma isSpoken_hourText (h : ℕ) : IsSpoken (hourText h) := by
  apply (isSpoken_natText _).append
  split
  · decide
  · decide

/-- What starts with a digit opens no clause. -/
lemma natText_append_notMem_openers (n : ℕ) (t : Text) : natText n ++ t ∉ openers := by
  have hheads : ∀ w ∈ openers, w.head?.any Char.isDigit = false := by decide
  obtain ⟨c, rest, hn⟩ := List.exists_cons_of_ne_nil (natText_ne_nil n)
  intro hmem
  have hdigit : c.isDigit = true := isDigit_of_mem_natText (n := n) (by simp [hn])
  have hnone : c.isDigit = false := by simpa [hn] using hheads _ hmem
  simp [hdigit] at hnone

lemma hourText_injective {a b : ℕ} (ha : a < 24) (hb : b < 24) (h : hourText a = hourText b) :
    a = b := by
  obtain ⟨hnumber, hhalf⟩ := List.append_inj' h (by split <;> split <;> rfl)
  have hnumber := natText_injective hnumber
  have hhalf : 12 ≤ a ↔ 12 ≤ b := by
    by_cases ha : 12 ≤ a
    · by_cases hb : 12 ≤ b
      · exact iff_of_true ha hb
      · simp [ha, hb] at hhalf
    · by_cases hb : 12 ≤ b
      · simp [ha, hb] at hhalf
      · exact iff_of_false ha hb
  split_ifs at hnumber <;> omega

lemma isSpoken_dayNames : ∀ w ∈ dayNames, IsSpoken w := by decide

lemma isSpoken_monthNames : ∀ w ∈ monthNames, IsSpoken w := by decide

/-- Entries of a table without repetitions are told apart. -/
lemma getD_injective {names : List Text} (hnames : names.Nodup) {a b : ℕ} (ha : a < names.length)
    (hb : b < names.length) (h : names.getD a [] = names.getD b []) : a = b := by
  rw [List.getD_eq_getElem _ _ ha, List.getD_eq_getElem _ _ hb] at h
  exact hnames.getElem_inj_iff.1 h

lemma dayName_mem {d : ℕ} (hd : d < 7) : dayName d ∈ dayNames := by
  rw [dayName, List.getD_eq_getElem _ _ hd]
  exact List.getElem_mem _

lemma monthName_mem {m : ℕ} (hm : 1 ≤ m ∧ m ≤ 12) : monthName m ∈ monthNames := by
  have hlt : m - 1 < monthNames.length := Nat.sub_lt_left_of_lt_add hm.1 (Nat.lt_succ_of_le hm.2)
  rw [monthName, List.getD_eq_getElem _ _ hlt]
  exact List.getElem_mem _

lemma dayName_injective {a b : ℕ} (ha : a < 7) (hb : b < 7) (h : dayName a = dayName b) : a = b := by
  have hnodup : dayNames.Nodup := by decide
  exact getD_injective hnodup ha hb h

lemma monthName_injective {a b : ℕ} (ha : 1 ≤ a ∧ a ≤ 12) (hb : 1 ≤ b ∧ b ≤ 12)
    (h : monthName a = monthName b) : a = b := by
  have hnodup : monthNames.Nodup := by decide
  have hlength : monthNames.length = 12 := rfl
  have hsame : a - 1 = b - 1 := getD_injective hnodup (by omega) (by omega) h
  omega

/-- Lists are told apart when their entries are. -/
lemma eq_of_map_eq {name : ℕ → Text} {vs us : List ℕ}
    (hname : ∀ v ∈ vs, ∀ u ∈ us, name v = name u → v = u) (h : vs.map name = us.map name) :
    vs = us := by
  induction vs generalizing us with
  | nil => exact (List.map_eq_nil_iff.1 h.symm).symm
  | cons v vs ih =>
    obtain ⟨u, us, rfl, hu, hus⟩ := List.map_eq_cons_iff.1 h.symm
    have hhead : v = u := hname v (by simp) u (by simp) hu.symm
    have htail : vs = us := ih (fun w hw x hx => hname w (by simp [hw]) x (by simp [hx])) hus.symm
    rw [hhead, htail]

lemma natTexts_injective {vs us : List ℕ} (h : vs.map natText = us.map natText) : vs = us :=
  eq_of_map_eq (fun _ _ _ _ => natText_injective) h

/-- A word that names no weekday is no list of weekdays. -/
lemma ne_map_dayName {w : Text} (hw : w ∉ dayNames) {ds : List ℕ} (hds : ∀ d ∈ ds, d < 7) :
    [w] ≠ ds.map dayName := by
  intro heq
  obtain ⟨d, hd, rfl⟩ := List.mem_map.1 (heq ▸ List.mem_singleton_self w)
  exact hw (dayName_mem (hds d hd))

/-! ## Clauses -/

/-- Words are a clause when the first of them, and no other, opens one. -/
def IsClause (ws : List Text) : Prop :=
  ∃ w rest, ws = w :: rest ∧ w ∈ openers ∧ ∀ v ∈ rest, v ∉ openers

/-- The words of a clause tell which numbers are selected at a position.  Nothing is told of the
numbers where it is `*`. -/
inductive Tells : Position → Option (List ℕ) → List Text → Prop
  | everyMinute : Tells .minute none ["Every", "minute"]
  | minutes {noun : Text} (hnoun : noun ∈ ["minute".toList, "minutes".toList]) (ms : List ℕ) :
      Tells .minute (some ms) ("At" :: noun :: ms.map natText)
  | hour {h : ℕ} (hh : h < 24) : Tells .hour (some [h]) ["at", hourText h]
  | hours (hs : List ℕ) : Tells .hour (some hs) ("during" :: "hours" :: hs.map natText)
  | days {noun : Text} (hnoun : noun ∈ ["day".toList, "days".toList]) (ds : List ℕ) :
      Tells .dayOfMonth (some ds) ("on" :: noun :: ds.map natText)
  | months {ms : List ℕ} (hms : ∀ m ∈ ms, 1 ≤ m ∧ m ≤ 12) :
      Tells .month (some ms) ("in" :: ms.map monthName)
  | weekdays : Tells .dayOfWeek (some [1, 2, 3, 4, 5]) ["on", "weekdays"]
  | weekends : Tells .dayOfWeek (some [0, 6]) ["on", "weekends"]
  | weekdayNames {ds : List ℕ} (hds : ∀ d ∈ ds, d < 7) :
      Tells .dayOfWeek (some ds) ("on" :: ds.map dayName)

/-- The position that a clause is about. -/
def subject : List Text → Position
  | [] => .minute
  | w :: ws =>
    if w = "Every" ∨ w = "At" then .minute
    else if w = "at" ∨ w = "during" then .hour
    else if w = "in" then .month
    else if ws.head? = some "day".toList ∨ ws.head? = some "days".toList then .dayOfMonth
    else .dayOfWeek

namespace Tells

variable {p : Position} {told told' : Option (List ℕ)} {ws : List Text}

lemma subject_eq (h : Tells p told ws) : subject ws = p := by
  cases h with
  | everyMinute => rfl
  | minutes _ ms => rfl
  | hour hh => rfl
  | hours hs => rfl
  | days hnoun ds =>
    rcases List.mem_pair.1 hnoun with rfl | rfl
    · rfl
    · rfl
  | months hms => rfl
  | weekdays => rfl
  | weekends => rfl
  | @weekdayNames ds hds =>
    cases ds with
    | nil => rfl
    | cons d ds =>
      have hname : ∀ w ∈ dayNames, w ≠ "day" ∧ w ≠ "days" := by decide
      simpa [subject] using hname _ (dayName_mem (hds d List.mem_cons_self))

lemma isClause (h : Tells p told ws) : IsClause ws := by
  -- a clause goes on with numbers, nouns and names, and no clause starts with one of these
  have hnumbers : ∀ vs : List ℕ, ∀ v ∈ vs.map natText, v ∉ openers := by
    intro vs
    rw [List.forall_mem_map]
    intro v _
    simpa using natText_append_notMem_openers v []
  have hnouns : ∀ noun ∈ (["minute", "minutes", "hours", "day", "days", "weekdays", "weekends"] :
      List Text), noun ∉ openers := by
    decide
  have hnames : ∀ name ∈ monthNames ++ dayNames, name ∉ openers := by decide
  cases h with
  | everyMinute =>
    refine ⟨"Every", _, rfl, by simp [openers], List.forall_mem_singleton.2 ?_⟩
    exact hnouns "minute" (by simp)
  | minutes hnoun ms =>
    refine ⟨"At", _, rfl, by simp [openers], List.forall_mem_cons.2 ⟨?_, hnumbers ms⟩⟩
    rcases List.mem_pair.1 hnoun with rfl | rfl
    · exact hnouns "minute" (by simp)
    · exact hnouns "minutes" (by simp)
  | hour hh =>
    refine ⟨"at", _, rfl, by simp [openers], List.forall_mem_singleton.2 ?_⟩
    exact natText_append_notMem_openers _ _
  | hours hs =>
    refine ⟨"during", _, rfl, by simp [openers], List.forall_mem_cons.2 ⟨?_, hnumbers hs⟩⟩
    exact hnouns "hours" (by simp)
  | days hnoun ds =>
    refine ⟨"on", _, rfl, by simp [openers], List.forall_mem_cons.2 ⟨?_, hnumbers ds⟩⟩
    rcases List.mem_pair.1 hnoun with rfl | rfl
    · exact hnouns "day" (by simp)
    · exact hnouns "days" (by simp)
  | months hms =>
    refine ⟨"in", _, rfl, by simp [openers], List.forall_mem_map.2 fun m hm => ?_⟩
    exact hnames _ (List.mem_append_left _ (monthName_mem (hms m hm)))
  | weekdays =>
    refine ⟨"on", _, rfl, by simp [openers], List.forall_mem_singleton.2 ?_⟩
    exact hnouns "weekdays" (by simp)
  | weekends =>
    refine ⟨"on", _, rfl, by simp [openers], List.forall_mem_singleton.2 ?_⟩
    exact hnouns "weekends" (by simp)
  | weekdayNames hds =>
    refine ⟨"on", _, rfl, by simp [openers], List.forall_mem_map.2 fun d hd => ?_⟩
    exact hnames _ (List.mem_append_right _ (dayName_mem (hds d hd)))

/-- The words of a clause leave no choice about what is told. -/
theorem unique (h : Tells p told ws) (h' : Tells p told' ws) : told = told' := by
  -- the words of the second clause get a name of their own, as lists of literals cannot be matched
  generalize hws : ws = ws' at h'
  cases h with
  | everyMinute =>
    cases h' with
    | everyMinute => rfl
    | minutes _ ms => simp at hws
  | minutes _ ms =>
    cases h' with
    | everyMinute => simp at hws
    | minutes _ ms' =>
      obtain ⟨-, hnumbers⟩ := List.cons.inj (List.cons.inj hws).2
      rw [natTexts_injective hnumbers]
  | @hour a ha =>
    cases h' with
    | @hour b hb =>
      have htexts : hourText a = hourText b := List.head_eq_of_cons_eq (List.cons.inj hws).2
      rw [hourText_injective ha hb htexts]
    | hours hs => simp at hws
  | hours hs =>
    cases h' with
    | hour hh => simp at hws
    | hours hs' =>
      obtain ⟨-, hnumbers⟩ := List.cons.inj (List.cons.inj hws).2
      rw [natTexts_injective hnumbers]
  | days _ ds =>
    cases h' with
    | days _ ds' =>
      obtain ⟨-, hnumbers⟩ := List.cons.inj (List.cons.inj hws).2
      rw [natTexts_injective hnumbers]
  | months hms =>
    cases h' with
    | months hms' =>
      have hnames := (List.cons.inj hws).2
      rw [eq_of_map_eq (fun m hm m' hm' => monthName_injective (hms m hm) (hms' m' hm')) hnames]
  | weekdays =>
    cases h' with
    | weekdays => rfl
    | weekends => simp at hws
    | weekdayNames hds => exact absurd (List.cons.inj hws).2 (ne_map_dayName (by decide) hds)
  | weekends =>
    cases h' with
    | weekdays => simp at hws
    | weekends => rfl
    | weekdayNames hds => exact absurd (List.cons.inj hws).2 (ne_map_dayName (by decide) hds)
  | weekdayNames hds =>
    cases h' with
    | weekdays => exact absurd (List.cons.inj hws).2.symm (ne_map_dayName (by decide) hds)
    | weekends => exact absurd (List.cons.inj hws).2.symm (ne_map_dayName (by decide) hds)
    | weekdayNames hds' =>
      have hnames := (List.cons.inj hws).2
      rw [eq_of_map_eq (fun d hd d' hd' => dayName_injective (hds d hd) (hds' d' hd')) hnames]

end Tells

/-! ## A sentence and its clauses -/

/-- Clauses that are put one behind the other come apart again where a word opens a clause. -/
lemma splitBy_flatten_clauses {clauses : List (List Text)} (h : ∀ ws ∈ clauses, IsClause ws) :
    clauses.flatten.splitBy (fun _ v => v ∉ openers) = clauses := by
  apply List.splitBy_flatten
  · intro hnil
    obtain ⟨w, rest, heq, -⟩ := h [] hnil
    simp at heq
  · -- behind the first word of a clause no word opens another one
    intro ws hws
    obtain ⟨w, rest, rfl, -, hrest⟩ := h ws hws
    refine (List.pairwise_cons.2 ⟨fun v hv => ?_, ?_⟩).isChain
    · simpa using hrest v hv
    · exact List.pairwise_of_forall_mem_list fun _ _ v hv => by simpa using hrest v hv
  · refine (List.pairwise_of_forall_mem_list fun a ha b hb => ?_).isChain
    obtain ⟨v, start, rfl, -⟩ := h a ha
    obtain ⟨w, rest, rfl, hw, -⟩ := h b hb
    exact ⟨List.cons_ne_nil _ _, List.cons_ne_nil _ _, decide_eq_false (not_not.2 hw)⟩

/-- What a sentence tells about a field: the selected numbers, or nothing if it is `*`. -/
def Field.told (f : Field) : Option (List ℕ) := if f.isAny then none else some f.values

lemma Field.told_of_not_isAny {f : Field} (h : ¬ f.isAny = true) : f.told = some f.values := if_neg h

lemma Field.told_eq_iff {p : Position} {f g : Field} (hf : f.IsStored p) (hg : g.IsStored p) :
    f.told = g.told ↔ f.values = g.values ∧ f.isAny = g.isAny := by
  unfold told
  cases hany : f.isAny with
  | true =>
    cases hany' : g.isAny with
    | true =>
      have hraw : f.raw = g.raw := (isAny_iff.1 hany).trans (isAny_iff.1 hany').symm
      have hsame : f = g := Except.ok.inj (hf.read_raw.symm.trans (hraw ▸ hg.read_raw))
      simp [hsame]
    | false => simp
  | false =>
    cases hany' : g.isAny with
    | true => simp
    | false => simp

namespace Fields

variable {f g : Fields} {p : Position} {c : Text}

/-- Neither the minutes nor the hours are written with a step. -/
def IsStepless (f : Fields) : Prop := f.minute.hasStep = false ∧ f.hour.hasStep = false

instance : DecidablePred IsStepless := fun f =>
  inferInstanceAs (Decidable (f.minute.hasStep = false ∧ f.hour.hasStep = false))

/-- The clause about a position. -/
def clause? (f : Fields) : Position → Option Text
  | .minute => some f.minuteClause
  | .hour => f.hourClause?
  | .dayOfMonth => f.dayOfMonthClause?
  | .month => f.monthClause?
  | .dayOfWeek => f.dayOfWeekClause?

lemma clauses_eq (f : Fields) : f.clauses = Position.all.filterMap f.clause? := rfl

/-- The words of the clauses, clause by clause. -/
def spokenClauses (f : Fields) : List (List Text) := f.clauses.map spoken

lemma spoken_sentence (f : Fields) : spoken f.sentence = f.spokenClauses.flatten := by
  rw [sentence, spoken_join, spokenClauses, List.flatMap_def]

lemma mem_spokenClauses {ws : List Text} :
    ws ∈ f.spokenClauses ↔ ∃ p c, f.clause? p = some c ∧ spoken c = ws := by
  rw [spokenClauses, clauses_eq, List.mem_map]
  constructor
  · rintro ⟨c, hc, rfl⟩
    obtain ⟨p, -, hp⟩ := List.mem_filterMap.1 hc
    exact ⟨p, c, hp, rfl⟩
  · rintro ⟨p, c, hp, rfl⟩
    exact ⟨c, List.mem_filterMap.2 ⟨p, mem_all p, hp⟩, rfl⟩

/-- Without steps, a clause depends on what it tells. -/
lemma clause?_congr (hf : f.IsStepless) (hg : g.IsStepless) (hselect : f.SelectAlike g)
    (hany : ∀ p, (f.get p).isAny = (g.get p).isAny) : f.clause? p = g.clause? p := by
  have hvalues := hselect p
  have hany := hany p
  cases p
  · simp only [get] at hvalues hany
    simp only [clause?, minuteClause, hvalues, hany, hf.1, hg.1, Bool.false_eq_true, if_false]
  · simp only [get] at hvalues hany
    simp only [clause?, hourClause?, hvalues, hany, hf.2, hg.2, Bool.false_eq_true, if_false]
  · simp only [get] at hvalues hany
    simp only [clause?, dayOfMonthClause?, hvalues, hany]
  · simp only [get] at hvalues hany
    simp only [clause?, monthClause?, hvalues, hany]
  · simp only [get] at hvalues hany
    simp only [clause?, dayOfWeekClause?, hvalues, hany]

/-- Only a `*` is passed over. -/
lemma isAny_of_clause?_eq_none (h : f.clause? p = none) : (f.get p).isAny = true := by
  by_contra hany
  cases p
  · simp [clause?] at h
  · change ¬ f.hour.isAny = true at hany
    rw [clause?, hourClause?, if_neg hany] at h
    split at h
    · simp at h
    · split at h <;> simp at h
  · change ¬ f.dayOfMonth.isAny = true at hany
    rw [clause?, dayOfMonthClause?, if_neg hany] at h
    split at h <;> simp at h
  · change ¬ f.month.isAny = true at hany
    rw [clause?, monthClause?, if_neg hany] at h
    simp at h
  · change ¬ f.dayOfWeek.isAny = true at hany
    rw [clause?, dayOfWeekClause?, if_neg hany] at h
    split_ifs at h

lemma tells_minuteClause (hstep : f.IsStepless) :
    Tells .minute f.minute.told (spoken f.minuteClause) := by
  unfold minuteClause Field.told
  split
  · exact .everyMinute
  · split
    · next m hm =>
      have hlead : spoken "At minute " = ["At".toList, "minute".toList] := rfl
      rw [spoken_append rfl, hlead, (isSpoken_natText m).spoken_eq, hm]
      exact .minutes (by simp) [m]
    · have hlead : spoken "At minutes " = ["At".toList, "minutes".toList] := rfl
      rw [hstep.1, if_neg (by simp), spoken_append rfl, hlead, spoken_natsText]
      exact .minutes (by simp) _

lemma tells_of_hourClause? (hf : f.hour.IsStored .hour) (hstep : f.IsStepless)
    (h : f.hourClause? = some c) : Tells .hour f.hour.told (spoken c) := by
  unfold hourClause? at h
  split at h
  · simp at h
  · next hany =>
    rw [Field.told_of_not_isAny hany]
    split at h
    · next hour hhour =>
      have hlt : hour ≤ 23 := (Field.bounds_of_mem_values hf.read_raw (by simp) (by simp [hhour])).2
      have hlead : spoken "at " = ["at".toList] := rfl
      rw [← Option.some.inj h, spoken_append rfl, hlead, (isSpoken_hourText hour).spoken_eq, hhour]
      exact .hour (by omega)
    · have hlead : spoken "during hours " = ["during".toList, "hours".toList] := rfl
      rw [hstep.2, if_neg (by simp)] at h
      rw [← Option.some.inj h, spoken_append rfl, hlead, spoken_natsText]
      exact .hours _

lemma tells_of_dayOfMonthClause? (h : f.dayOfMonthClause? = some c) :
    Tells .dayOfMonth f.dayOfMonth.told (spoken c) := by
  unfold dayOfMonthClause? at h
  split at h
  · simp at h
  · next hany =>
    rw [Field.told_of_not_isAny hany]
    split at h
    · next d hd =>
      have hlead : spoken "on day " = ["on".toList, "day".toList] := rfl
      rw [← Option.some.inj h, spoken_append rfl, hlead, (isSpoken_natText d).spoken_eq, hd]
      exact .days (by simp) [d]
    · have hlead : spoken "on days " = ["on".toList, "days".toList] := rfl
      rw [← Option.some.inj h, spoken_append rfl, hlead, spoken_natsText]
      exact .days (by simp) _

lemma tells_of_monthClause? (hf : f.month.IsStored .month) (h : f.monthClause? = some c) :
    Tells .month f.month.told (spoken c) := by
  unfold monthClause? at h
  split at h
  · simp at h
  · next hany =>
    have hmonths : ∀ m ∈ f.month.values, 1 ≤ m ∧ m ≤ 12 := fun m hm =>
      Field.bounds_of_mem_values hf.read_raw (by simp) hm
    have hnames : ∀ w ∈ f.month.values.map monthName, IsSpoken w :=
      List.forall_mem_map.2 fun m hm => isSpoken_monthNames _ (monthName_mem (hmonths m hm))
    have hlead : spoken "in " = ["in".toList] := rfl
    rw [Field.told_of_not_isAny hany, ← Option.some.inj h, spoken_append rfl, hlead,
      spoken_list hnames]
    exact .months hmonths

lemma tells_of_dayOfWeekClause? (hf : f.dayOfWeek.IsStored .dayOfWeek)
    (h : f.dayOfWeekClause? = some c) : Tells .dayOfWeek f.dayOfWeek.told (spoken c) := by
  unfold dayOfWeekClause? at h
  split at h
  · simp at h
  · next hany =>
    rw [Field.told_of_not_isAny hany]
    split at h
    · next hworking =>
      rw [← Option.some.inj h, hworking]
      exact .weekdays
    · split at h
      · next hend =>
        rw [← Option.some.inj h, hend]
        exact .weekends
      · have hdays : ∀ d ∈ f.dayOfWeek.values, d < 7 := fun d hd =>
          Field.lt_seven_of_mem_values hf.read_raw hd
        have hnames : ∀ w ∈ f.dayOfWeek.values.map dayName, IsSpoken w :=
          List.forall_mem_map.2 fun d hd => isSpoken_dayNames _ (dayName_mem (hdays d hd))
        have hlead : spoken "on " = ["on".toList] := rfl
        rw [← Option.some.inj h, spoken_append rfl, hlead, spoken_list hnames]
        exact .weekdayNames hdays

/-- The clause about a position tells what the field there selects. -/
lemma tells_of_clause? (hf : ∀ p, (f.get p).IsStored p) (hstep : f.IsStepless)
    (h : f.clause? p = some c) : Tells p (f.get p).told (spoken c) := by
  cases p
  · exact Option.some.inj h ▸ tells_minuteClause hstep
  · exact tells_of_hourClause? (hf .hour) hstep h
  · exact tells_of_dayOfMonthClause? h
  · exact tells_of_monthClause? (hf .month) h
  · exact tells_of_dayOfWeekClause? (hf .dayOfWeek) h

/-- A sentence can be divided into its clauses again. -/
lemma splitBy_spoken_sentence (hf : ∀ p, (f.get p).IsStored p) (hstep : f.IsStepless) :
    (spoken f.sentence).splitBy (fun _ v => v ∉ openers) = f.spokenClauses := by
  rw [spoken_sentence]
  refine splitBy_flatten_clauses fun ws hws => ?_
  obtain ⟨p, c, hc, rfl⟩ := mem_spokenClauses.1 hws
  exact (tells_of_clause? hf hstep hc).isClause

/-! ## Sentences that are the same -/

section Pair

variable (hf : ∀ p, (f.get p).IsStored p) (hg : ∀ p, (g.get p).IsStored p) (hfstep : f.IsStepless)
  (hgstep : g.IsStepless)

include hf hg hfstep hgstep

/-- With the same clauses in two sentences, the clauses about a position are the same. -/
lemma exists_clause?_of_spokenClauses (h : f.spokenClauses = g.spokenClauses)
    (hc : f.clause? p = some c) : ∃ c', g.clause? p = some c' ∧ spoken c' = spoken c := by
  have hmem : spoken c ∈ g.spokenClauses := h ▸ mem_spokenClauses.2 ⟨p, c, hc, rfl⟩
  obtain ⟨q, c', hc', hspoken⟩ := mem_spokenClauses.1 hmem
  have hp : subject (spoken c) = p := (tells_of_clause? hf hfstep hc).subject_eq
  have hq : subject (spoken c') = q := (tells_of_clause? hg hgstep hc').subject_eq
  obtain rfl : p = q := by rw [← hp, ← hq, hspoken]
  exact ⟨c', hc', hspoken⟩

/-- The same sentence tells the same about every field. -/
theorem told_eq_of_sentence_eq (h : f.sentence = g.sentence) (p : Position) :
    (f.get p).told = (g.get p).told := by
  have hclauses : f.spokenClauses = g.spokenClauses := by
    rw [← splitBy_spoken_sentence hf hfstep, ← splitBy_spoken_sentence hg hgstep, h]
  -- the sentences have the same clauses, and a clause shows which field it tells about
  cases hc : f.clause? p with
  | none =>
    have hnone : g.clause? p = none := by
      refine Option.eq_none_iff_forall_ne_some.2 fun c' hc' => ?_
      obtain ⟨c, hsome, -⟩ := exists_clause?_of_spokenClauses hg hf hgstep hfstep hclauses.symm hc'
      simp [hc] at hsome
    rw [Field.told, Field.told, isAny_of_clause?_eq_none hc, isAny_of_clause?_eq_none hnone]
    rfl
  | some c =>
    obtain ⟨c', hc', hspoken⟩ := exists_clause?_of_spokenClauses hf hg hfstep hgstep hclauses hc
    exact (tells_of_clause? hf hfstep hc).unique (hspoken ▸ tells_of_clause? hg hgstep hc')

/-- Without steps, sentences are the same when the fields select alike and are `*` alike. -/
theorem sentence_eq_iff :
    f.sentence = g.sentence ↔ f.SelectAlike g ∧ ∀ p, (f.get p).isAny = (g.get p).isAny := by
  constructor
  · intro h
    have htold := told_eq_of_sentence_eq hf hg hfstep hgstep h
    have halike := fun p => (Field.told_eq_iff (hf p) (hg p)).1 (htold p)
    exact ⟨fun p => (halike p).1, fun p => (halike p).2⟩
  · rintro ⟨hselect, hany⟩
    have hclause : f.clause? = g.clause? :=
      funext fun p => clause?_congr hfstep hgstep hselect hany
    rw [sentence, sentence, clauses_eq, clauses_eq, hclause]

end Pair

end Fields

/-! ## The schedule behind a sentence -/

namespace Expression

variable {s s' : Text} {e e' : Expression} {f g : Fields}

lemma fields?_of_schedule? (hf : e.schedule? = some f) : e.fields? = some f := by
  obtain ⟨ignored, hcontent, -⟩ := content_of_schedule? hf
  rw [fields?, hcontent]

lemma sentence_of_schedule? (hf : e.schedule? = some f) : e.sentence = f.sentence := by
  rw [sentence, if_pos (isValid_of_schedule? hf), fields?_of_schedule? hf]

lemma describe_eq_ok (hread : read s = .ok e) (hf : e.schedule? = some f) :
    describe s = .ok f.sentence := by
  rw [describe, hread, ← sentence_of_schedule? hf]
  rfl

/-- **The sentence gives the schedule away.**  Take two expressions with a schedule, whose minutes and
hours are written without a step.  They are described by the same sentence exactly when they select the
same numbers at every position and are `*` at the same positions.  In this case they have the same runs
after every time and between any two times, and fire at the same times, in every zone. -/
theorem describe_eq_iff (hread : read s = .ok e) (hread' : read s' = .ok e')
    (hf : e.schedule? = some f) (hg : e'.schedule? = some g) (hfstep : f.IsStepless)
    (hgstep : g.IsStepless) :
    (describe s = describe s' ↔
        f.SelectAlike g ∧ ∀ p, (f.get p).isAny = (g.get p).isAny) ∧
      (describe s = describe s' →
        (∀ zone count start, e.runsAfter zone count start = e'.runsAfter zone count start) ∧
        (∀ zone limit start stop,
          e.runsBetween zone limit start stop = e'.runsBetween zone limit start stop) ∧
        ∀ zone t, e.firesAt zone t = e'.firesAt zone t) := by
  have hiff : describe s = describe s' ↔
      f.SelectAlike g ∧ ∀ p, (f.get p).isAny = (g.get p).isAny := by
    rw [describe_eq_ok hread hf, describe_eq_ok hread' hg, Except.ok.injEq]
    exact Fields.sentence_eq_iff (isStored_of_read hread hf) (isStored_of_read hread' hg) hfstep
      hgstep
  refine ⟨hiff, fun h => ?_⟩
  obtain ⟨hselect, hany⟩ := hiff.1 h
  have hstar : f.StarAlike g := ⟨hany .dayOfMonth, hany .dayOfWeek⟩
  exact ⟨runsAfter_eq_of_alike hf hg hselect hstar, runsBetween_eq_of_alike hf hg hselect hstar,
    firesAt_eq_of_alike hf hg hselect hstar⟩

/-- Names and numbers, ranges and lists lead to the same sentence. -/
theorem describe_eq_iff_weekdays :
    describe "00 9 * * MON,tue-Thu,5" = describe "0 09 * * 1-5" ∧
      ∃ e e' f g, read "00 9 * * MON,tue-Thu,5" = .ok e ∧ read "0 09 * * 1-5" = .ok e' ∧
        e.schedule? = some f ∧ e'.schedule? = some g ∧ f.SelectAlike g ∧
        ∀ zone t, e.firesAt zone t = e'.firesAt zone t := by
  have hschedule : ∀ s : Text, ((read s).toOption.bind schedule?).any Fields.IsStepless = true →
      ∃ e f, read s = .ok e ∧ e.schedule? = some f ∧ f.IsStepless := by
    intro s hs
    obtain ⟨f, hf, hstep⟩ := (Option.any_eq_true _ _).1 hs
    obtain ⟨e, he, hf⟩ := Option.bind_eq_some_iff.1 hf
    exact ⟨e, f, eq_ok_of_toOption he, hf, of_decide_eq_true hstep⟩
  have hsentence : ∀ s ∈ ["00 9 * * MON,tue-Thu,5".toList, "0 09 * * 1-5".toList],
      (describe s).toOption = some "At minute 0 at 9AM on weekdays".toList := by
    decide +kernel
  have hfirst := eq_ok_of_toOption (hsentence _ List.mem_cons_self)
  have hsecond := eq_ok_of_toOption (hsentence _ (List.mem_cons_of_mem _ List.mem_cons_self))
  obtain ⟨e, f, hread, hf, hfstep⟩ := hschedule "00 9 * * MON,tue-Thu,5" (by decide +kernel)
  obtain ⟨e', g, hread', hg, hgstep⟩ := hschedule "0 09 * * 1-5" (by decide +kernel)
  obtain ⟨hiff, hruns⟩ := describe_eq_iff hread hread' hf hg hfstep hgstep
  have hsame : describe "00 9 * * MON,tue-Thu,5" = describe "0 09 * * 1-5" :=
    hfirst.trans hsecond.symm
  exact ⟨hsame, e, e', f, g, hread, hread', hf, hg, (hiff.1 hsame).1, (hruns hsame).2.2⟩

/-- With a step in the minutes, a sentence does not tell where the minutes start. -/
example : (describe "*/7 * * * *").toOption = (describe "1-59/7 * * * *").toOption := by
  decide +kernel

end Expression

end Crontab
