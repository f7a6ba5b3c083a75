import Crontab.Phrase.Generation
import Crontab.Proofs.Expression
import Crontab.Proofs.Text.Scanning

/-!
# What a phrase drafts

A set phrase brings a template, and clauses fill one in; either way the texts of the template have few
forms.  `Drafted` lists them: `*`, numbers, an ascending range, a period as it stands in the phrase, and
a range of weekdays, which may be reversed.

Each clause finds numbers that are within the bounds of the position that it fills in, so a clause keeps
a template drafted (`Draft.isDrafted_apply`), and so do all of them (`Draft.isDrafted_compose`).  What
is to be said about all templates of all phrases is said about the forms
(`Template.isDrafted_of_ofPhrase?`).
-/

namespace Crontab

/-! ## What clauses find -/

namespace Clause

variable {s : Text}

/-- The number of a period is a run of decimal digits of the text. -/
lemma decimals_of_every? {unit n : Text} (h : every? unit s = some n) :
    n <:+: s ∧ n ≠ [] ∧ ∀ c ∈ n, Text.isDecimal c = true := by
  obtain ⟨before, u, hu, hread⟩ := Text.suffix_of_find? h
  simp only [Option.bind_eq_bind, Option.bind_eq_some_iff] at hread
  obtain ⟨s₁, hword, s₂, hblanks, ⟨number, s₃⟩, hdecimals, s₄, -, s₅, -, hnumber⟩ := hread
  have hpart : s₂ <:+ s :=
    (Text.suffix_of_skipBlanks? hblanks).trans ((Text.suffix_of_wordStart? hword).trans hu)
  obtain ⟨hrun, hne, hall⟩ := Text.prefix_of_decimals? hdecimals
  obtain rfl : number = n := by
    split at hnumber
    · exact Option.some.inj hnumber
    · simp at hnumber
  exact ⟨hrun.isInfix.trans hpart.isInfix, hne, hall⟩

lemma inBounds_of_weekday? {w : ℕ} (h : weekday? s = some w) :
    Position.dayOfWeek.inBounds w = true := by
  have hwords : ∀ n ∈ weekdayWords, Position.dayOfWeek.inBounds n.2 = true := by decide
  obtain ⟨n, hn, rfl⟩ := Option.map_eq_some_iff.1 h
  exact hwords n (List.mem_of_find?_eq_some hn)

lemma inBounds_of_month? {m : ℕ} (h : month? s = some m) : Position.month.inBounds m = true := by
  have hwords : ∀ n ∈ monthWords, Position.month.inBounds n.2 = true := by decide
  obtain ⟨n, hn, rfl⟩ := Option.map_eq_some_iff.1 h
  exact hwords n (List.mem_of_find?_eq_some hn)

/-- Ranges of weekdays count from Sunday as 0. -/
lemma lt_of_weekdayRange? {r : ℕ × ℕ} (h : weekdayRange? s = some r) : r.1 < 7 ∧ r.2 < 7 := by
  have hwords : ∀ n ∈ weekdayWords, n.2 < 7 := by decide
  unfold weekdayRange? at h
  generalize 0 = n at h
  generalize none = before at h
  fun_induction weekdayRangeFrom n before s with
  | case1 => simp at h
  | case2 n before c s ih => exact ih h
  | case3 before c s hnone ih => exact ih h
  | case4 before c s words rest hrange pair hpair =>
    obtain rfl := Option.some.inj h
    unfold weekdayPair? at hpair
    split at hpair
    · next a b ha hb =>
      rw [← Option.some.inj hpair]
      exact ⟨hwords _ (mem_of_lookup ha), hwords _ (mem_of_lookup hb)⟩
    · simp at hpair
  | case5 before c s words rest hrange hpair ih => exact ih h

end Clause

/-- A time that is found is a time of day. -/
lemma TimeOfDay.inBounds_of_atClause? {s : Text} {time : TimeOfDay} (h : atClause? s = some time) :
    Position.hour.inBounds time.hour = true ∧ Position.minute.inBounds time.minute = true := by
  obtain ⟨written, -, h⟩ := Option.bind_eq_some_iff.1 h
  unfold WrittenTime.toTime? at h
  extract_lets hour at h
  split_ifs at h with hnone hbounds
  obtain rfl := Option.some.inj h
  exact ⟨Position.inBounds_iff.2 ⟨Nat.zero_le _, hbounds.1⟩,
    Position.inBounds_iff.2 ⟨Nat.zero_le _, hbounds.2⟩⟩

/-! ## Forms of texts -/

/-- The texts that a phrase may draft for a position. -/
inductive Drafted (s : Text) : Position → Text → Prop
  /-- Every number. -/
  | any {p : Position} : Drafted s p "*"
  /-- Single numbers. -/
  | numbers {p : Position} (vs : List ℕ) (hne : vs ≠ []) (hvs : ∀ v ∈ vs, p.inBounds v = true) :
    Drafted s p (Text.join "," (vs.map natText))
  /-- The numbers from one to another. -/
  | span {p : Position} {a b : ℕ} (hab : a ≤ b) (ha : p.inBounds a = true)
    (hb : p.inBounds b = true) : Drafted s p (natText a ++ "-" ++ natText b)
  /-- A period that the phrase gives. -/
  | period {p : Position} {unit n : Text} (hn : Clause.every? unit s = some n) :
    Drafted s p ("*/" ++ n)
  /-- A range of weekdays that the phrase gives, where no set phrase decides. -/
  | weekdays {r : ℕ × ℕ} (hset : setPhrase? s = none) (hr : Clause.weekdayRange? s = some r) :
    Drafted s .dayOfWeek (natText r.1 ++ "-" ++ natText r.2)

namespace Drafted

variable {s t : Text} {p : Position}

lemma number {v : ℕ} (hv : p.inBounds v = true) : Drafted s p (natText v) :=
  numbers [v] (by simp) (by simpa using hv)

/-- Besides digits and the marks of a field, only the digits of a period are drafted. -/
lemma isFieldChar_or_mem (h : Drafted s p t) {c : Char} (hc : c ∈ t) :
    isFieldChar c = true ∨ Text.isDecimal c = true ∧ c ∈ s := by
  have hspan : ∀ {a b : ℕ}, c ∈ natText a ++ "-" ++ natText b → isFieldChar c = true := fun hc => by
    rcases Field.isDigit_or_eq_of_mem_range hc with hc | rfl
    · exact isFieldChar_of_isDigit hc
    · decide
  cases h with
  | any => exact .inl (List.mem_singleton.1 hc ▸ by decide)
  | numbers =>
    rcases Field.isDigit_or_eq_of_mem_numbers hc with hc | rfl
    · exact .inl (isFieldChar_of_isDigit hc)
    · exact .inl (by decide)
  | span => exact .inl (hspan hc)
  | period hn =>
    obtain ⟨hpart, -, hdecimal⟩ := Clause.decimals_of_every? hn
    rcases List.mem_append.1 hc with hc | hc
    · have hmark : ∀ c ∈ ("*/" : Text), isFieldChar c = true := by decide
      exact .inl (hmark c hc)
    · exact .inr ⟨hdecimal c hc, hpart.subset hc⟩
  | weekdays => exact .inl (hspan hc)

lemma ne_nil (h : Drafted s p t) : t ≠ [] := by
  cases h with
  | numbers vs hne =>
    obtain ⟨v, vs, rfl⟩ := List.exists_cons_of_ne_nil hne
    exact Text.join_ne_nil _ (natText_ne_nil v)
  | _ => simp

/-- What is drafted is one word. -/
lemma isSolid (h : Drafted s p t) : Text.IsSolid t := by
  refine ⟨h.ne_nil, fun c hc => ?_⟩
  rcases h.isFieldChar_or_mem hc with hc | ⟨hc, -⟩
  · exact (plain_of_isFieldChar hc).1
  · exact Text.isBlank_of_isDecimal hc

end Drafted

/-! ## Drafted templates -/

namespace Template

/-- The text at a position. -/
def get (t : Template) : Position → Text
  | .minute => t.minute
  | .hour => t.hour
  | .dayOfMonth => t.dayOfMonth
  | .month => t.month
  | .dayOfWeek => t.dayOfWeek

lemma text_eq (t : Template) : t.text = Expression.textOf t.get := rfl

/-- The five texts of a template are drafted. -/
structure IsDrafted (s : Text) (t : Template) : Prop where
  minute : Drafted s .minute t.minute
  hour : Drafted s .hour t.hour
  dayOfMonth : Drafted s .dayOfMonth t.dayOfMonth
  month : Drafted s .month t.month
  dayOfWeek : Drafted s .dayOfWeek t.dayOfWeek

namespace IsDrafted

variable {s : Text} {t : Template}

lemma get (h : t.IsDrafted s) : ∀ p, Drafted s p (t.get p)
  | .minute => h.minute
  | .hour => h.hour
  | .dayOfMonth => h.dayOfMonth
  | .month => h.month
  | .dayOfWeek => h.dayOfWeek

lemma atTime (h : t.IsDrafted s) {time : TimeOfDay} (htime : TimeOfDay.atClause? s = some time) :
    (t.atTime time).IsDrafted s :=
  have hbounds := TimeOfDay.inBounds_of_atClause? htime
  { h with minute := .number hbounds.2, hour := .number hbounds.1 }

lemma withDefaultTime (h : t.IsDrafted s) {hour : ℕ} (hhour : Position.hour.inBounds hour = true) :
    (Draft.withDefaultTime hour t).IsDrafted s := by
  refine { h with minute := ?_, hour := ?_ }
  · unfold Draft.withDefaultTime
    dsimp only
    split
    · exact .number (v := 0) (by decide)
    · exact h.minute
  · unfold Draft.withDefaultTime
    dsimp only
    split
    · exact .number hhour
    · exact h.hour

end IsDrafted

/-! ### Set phrases -/

/-- The templates of the set phrases. -/
lemma isDrafted_of_mem_setPhrases {s : Text} {q : Text × Template} (hq : q ∈ setPhrases) :
    q.2.IsDrafted s := by
  have htexts : ∀ q ∈ setPhrases, ∀ p ∈ Position.all, q.2.get p = "*" ∨
      (∃ v ∈ List.range 13, p.inBounds v = true ∧ q.2.get p = natText v) ∨
      p = .hour ∧ q.2.get p = "9-17" ∨ p = .dayOfWeek ∧ (q.2.get p = "1-5" ∨ q.2.get p = "0,6") := by
    decide
  have hdrafted : ∀ p, Drafted s p (q.2.get p) := by
    intro p
    rcases htexts q hq p (Fields.mem_all p) with h | ⟨v, -, hv, h⟩ | ⟨rfl, h⟩ | ⟨rfl, h | h⟩
    · exact h ▸ .any
    · exact h ▸ .number hv
    · exact h ▸ .span (a := 9) (b := 17) (by decide) (by decide) (by decide)
    · exact h ▸ .span (a := 1) (b := 5) (by decide) (by decide) (by decide)
    · exact h ▸ .numbers [0, 6] (by decide) (by decide)
  exact ⟨hdrafted .minute, hdrafted .hour, hdrafted .dayOfMonth, hdrafted .month,
    hdrafted .dayOfWeek⟩

lemma isDrafted_of_setPhrase? {s : Text} {t : Template} (h : setPhrase? s = some t) :
    t.IsDrafted s := by
  obtain ⟨q, hq, rfl⟩ := Option.map_eq_some_iff.1 h
  have hdrafted := isDrafted_of_mem_setPhrases (s := s) (List.mem_of_find?_eq_some hq)
  split
  · exact hdrafted
  · next time htime => exact hdrafted.atTime htime

end Template

/-! ### Clauses -/

namespace Draft

variable {s : Text}

/-- A clause keeps a template drafted when what it fills in is drafted. -/
lemma isDrafted_apply {α : Type} {clause : Option α} {fill : α → Template → Template} {d : Draft}
    (hd : d.template.IsDrafted s)
    (hfill : ∀ a, clause = some a → ∀ t, t.IsDrafted s → (fill a t).IsDrafted s) :
    (d.apply clause fill).template.IsDrafted s := by
  cases clause with
  | none => exact hd
  | some a => exact hfill a rfl _ hd

/-- What is composed of a text without a set phrase is drafted. -/
lemma isDrafted_compose (hset : setPhrase? s = none) : (compose s).template.IsDrafted s := by
  have hempty : empty.template.IsDrafted s := ⟨.any, .any, .any, .any, .any⟩
  unfold compose
  -- each clause fills in its own fields and leaves the others drafted
  refine isDrafted_apply (isDrafted_apply (isDrafted_apply (isDrafted_apply (isDrafted_apply
    (isDrafted_apply (isDrafted_apply (isDrafted_apply hempty ?minutes) ?hours) ?time) ?day)
    ?weekday) ?date) ?month) ?range
  case minutes =>
    intro n hn t ht
    exact { ht with minute := .period hn }
  case hours =>
    intro n hn t ht
    exact { ht with minute := .number (v := 0) (by decide), hour := .period hn }
  case time =>
    intro time htime t ht
    exact ht.atTime htime
  case day =>
    intro _ _ t ht
    exact ht.withDefaultTime (by decide)
  case weekday =>
    intro w hw t ht
    have hfilled : ({ t with dayOfWeek := natText w } : Template).IsDrafted s :=
      { ht with dayOfWeek := .number (Clause.inBounds_of_weekday? hw) }
    exact hfilled.withDefaultTime (by decide)
  case date =>
    intro n hn t ht
    have hbounds := of_decide_eq_true (Option.filter_eq_some_iff.1 hn).2
    have hfilled : ({ t with dayOfMonth := natText n } : Template).IsDrafted s :=
      { ht with dayOfMonth := .number (Position.inBounds_iff.2 hbounds) }
    exact hfilled.withDefaultTime (by decide)
  case month =>
    intro m hm t ht
    exact { ht with month := .number (Clause.inBounds_of_month? hm) }
  case range =>
    intro r hr t ht
    have hfilled : ({ t with dayOfWeek := natText r.1 ++ "-" ++ natText r.2 } : Template).IsDrafted s :=
      { ht with dayOfWeek := .weekdays hset hr }
    exact hfilled.withDefaultTime (by decide)

/-- A range of weekdays is the last clause to fill in the weekday. -/
lemma dayOfWeek_compose {r : ℕ × ℕ} (hr : Clause.weekdayRange? s = some r) :
    (compose s).template.dayOfWeek = natText r.1 ++ "-" ++ natText r.2 := by
  unfold compose
  rw [hr]
  rfl

end Draft

/-! ### Phrases -/

/-- The phrase in lower case, without the blanks around it: what set phrases and clauses are looked for
in. -/
def plainPhrase (phrase : Text) : Text := Text.trim (Text.lower phrase)

lemma Template.ofPhrase?_cases {phrase : Text} {t : Template} (h : ofPhrase? phrase = some t) :
    setPhrase? (plainPhrase phrase) = some t ∨
      setPhrase? (plainPhrase phrase) = none ∧ t = (Draft.compose (plainPhrase phrase)).template := by
  rcases Option.or_eq_some_iff.1 h with hset | ⟨hnone, hdraft⟩
  · exact .inl hset
  · refine .inr ⟨hnone, ?_⟩
    unfold Draft.template? at hdraft
    split at hdraft
    · exact (Option.some.inj hdraft).symm
    · simp at hdraft

/-- An expression that is generated is the text of the template of the phrase, and a valid one. -/
lemma generate_eq_success_iff {phrase expression sentence : Text} :
    generate phrase = .ok (.success expression sentence) ↔
      ∃ t e, Template.ofPhrase? phrase = some t ∧ t.text = expression ∧
        Expression.read expression = .ok e ∧ e.isValid = true ∧ e.sentence = sentence := by
  unfold generate
  cases Template.ofPhrase? phrase with
  | none => simp [pure_eq_ok_iff]
  | some t =>
    simp only [Option.some.injEq]
    rw [bind_eq_ok_iff]
    constructor
    · rintro ⟨e, he, h⟩
      split at h
      · next hvalid =>
        obtain ⟨rfl, rfl⟩ := Generation.success.inj (pure_eq_ok_iff.1 h)
        exact ⟨t, e, rfl, rfl, he, hvalid, rfl⟩
      · simp [pure_eq_ok_iff] at h
    · rintro ⟨t, e, rfl, rfl, he, hvalid, rfl⟩
      exact ⟨e, he, by rw [if_pos hvalid]; rfl⟩

/-- What a phrase stands for is drafted. -/
theorem Template.isDrafted_of_ofPhrase? {phrase : Text} {t : Template}
    (h : ofPhrase? phrase = some t) : t.IsDrafted (plainPhrase phrase) := by
  rcases ofPhrase?_cases h with hset | ⟨hnone, rfl⟩
  · exact isDrafted_of_setPhrase? hset
  · exact Draft.isDrafted_compose hnone

end Crontab
