import Crontab.Proofs.Field.Bounds
import Crontab.Proofs.Text.Rewriting
import Crontab.Proofs.Text.Splitting

/-!
# The stored text of a field

A field keeps the text that it was read from, in lower case and with numbers for names.  When the
field is sound, nothing but digits and the four marks `*`, `,`, `-` and `/` is left in this text
(`Field.isStored_of_read`), so reading it once more changes nothing: `Field.IsStored` says that a field
is what its own text is read as, and `Expression.isStored_of_read` that every field of a schedule is
of this kind.

The way to it is a description of the sound fields: `read_iff` says that a field is sound exactly
when each of its pieces between commas is a segment within the bounds.  The same description, used the
other way round, gives what a written field is read as: a list of numbers (`isStored_numbers`) and a
range (`isStored_range`).
-/

namespace Crontab

/-! ## Characters -/

/-- The characters of a sound field in its stored form. -/
def isFieldChar (c : Char) : Bool := c.isDigit || ['*', ',', '-', '/'].contains c

lemma toNat_lt_of_isFieldChar {c : Char} (h : isFieldChar c = true) : c.toNat < 128 := by
  rw [isFieldChar, Bool.or_eq_true, List.contains_iff_mem] at h
  rcases h with h | h
  · exact Text.toNat_lt_of_isDigit h
  · have hmarks : ∀ m ∈ ['*', ',', '-', '/'], m.toNat < 128 := by decide
    exact hmarks c h

/-- A character of a field is not blank, has no other form in lower case and is no letter. -/
lemma plain_of_isFieldChar {c : Char} (h : isFieldChar c = true) :
    Text.isBlank c = false ∧ c.toLower = c ∧ c.isAlpha = false :=
  Text.forall_ascii (P := fun c =>
      isFieldChar c = true → Text.isBlank c = false ∧ c.toLower = c ∧ c.isAlpha = false)
    (by decide +kernel) (toNat_lt_of_isFieldChar h) h

lemma isFieldChar_of_isDigit {c : Char} (h : c.isDigit = true) : isFieldChar c = true := by
  simp [isFieldChar, h]

/-! ## Numbers -/

lemma readDigits_natText {n : Nat} (h : n < 100) : readDigits (natText n) = .ok n := by
  have hshort : ∀ n < 100, (natText n).length ≤ 2 := by decide
  rw [readDigits_of_length_le (le_trans (hshort n h) (by decide)), digitsValue_natText]

lemma noBlank_of_isDigits {s : Text} (h : Text.isDigits s = true) : ∀ c ∈ s, Text.isBlank c = false :=
  fun c hc => (plain_of_isFieldChar (isFieldChar_of_isDigit ((Text.isDigits_iff.1 h).2 c hc))).1

lemma readNat?_of_isDigits {s : Text} (h : Text.isDigits s = true) :
    readNat? s = some <$> readDigits s := by
  rw [readNat?, Text.trim_of_noBlank (noBlank_of_isDigits h), if_pos h]
  rfl

/-- Where there are no blanks, a number is a run of digits. -/
lemma isDigits_of_readNat? {s : Text} (hs : ∀ c ∈ s, Text.isBlank c = false) {v : Nat}
    (h : readNat? s = .ok (some v)) : Text.isDigits s = true ∧ readDigits s = .ok v := by
  rw [readNat?, Text.trim_of_noBlank hs] at h
  split at h
  · next hdigits =>
    obtain ⟨u, hu, hv⟩ := bind_eq_ok_iff.1 h
    obtain rfl := Option.some.inj (pure_eq_ok_iff.1 hv)
    exact ⟨hdigits, hu⟩
  · simp [pure, Except.pure] at h

/-! ## Segments -/

namespace Segment

variable {t : Text} {g : Segment}

lemma isFieldChar_of_readNat? (ht : ∀ c ∈ t, Text.isBlank c = false) {v : Nat}
    (h : readNat? t = .ok (some v)) : ∀ c ∈ t, isFieldChar c = true :=
  fun c hc =>
    isFieldChar_of_isDigit ((Text.isDigits_iff.1 (isDigits_of_readNat? ht h).1).2 c hc)

lemma isFieldChar_of_readSpan? {step : Option Nat} (ht : ∀ c ∈ t, Text.isBlank c = false)
    (h : readSpan? step t = .ok (some g)) : ∀ c ∈ t, isFieldChar c = true := by
  unfold readSpan? at h
  split at h
  · next hstar => simp [hstar, isFieldChar]
  · split at h
    · obtain ⟨v, hv, h⟩ := bind_eq_ok_iff.1 h
      obtain ⟨n, rfl, -⟩ := Option.map_eq_some_iff.1 (pure_eq_ok_iff.1 h)
      exact isFieldChar_of_readNat? ht hv
    · next first last hcut =>
      obtain ⟨rfl, -⟩ := Text.cut_eq_some_iff.1 hcut
      obtain ⟨a, ha, h⟩ := bind_eq_ok_iff.1 h
      obtain ⟨b, hb, h⟩ := bind_eq_ok_iff.1 h
      split at h
      · rw [List.forall_mem_append, List.forall_mem_cons] at ht ⊢
        exact ⟨isFieldChar_of_readNat? ht.1 ha, by decide, isFieldChar_of_readNat? ht.2.2 hb⟩
      · simp [pure, Except.pure] at h

lemma isFieldChar_of_read? (ht : ∀ c ∈ t, Text.isBlank c = false)
    (h : read? t = .ok (some g)) : ∀ c ∈ t, isFieldChar c = true := by
  unfold read? at h
  split at h
  · next body hcut =>
    obtain ⟨rfl, -⟩ := Text.cut_eq_none_iff.1 hcut
    exact isFieldChar_of_readSpan? ht h
  · next body hcut =>
    obtain ⟨rfl, -⟩ := Text.cut_eq_some_iff.1 hcut
    rw [List.forall_mem_append, List.forall_mem_cons] at ht ⊢
    exact ⟨isFieldChar_of_readSpan? ht.1 h, by decide, by simp⟩
  · next body c u hcut =>
    obtain ⟨rfl, -⟩ := Text.cut_eq_some_iff.1 hcut
    obtain ⟨k, hk, h⟩ := bind_eq_ok_iff.1 h
    split at h
    · simp [pure, Except.pure] at h
    · rw [List.forall_mem_append, List.forall_mem_cons] at ht ⊢
      exact ⟨isFieldChar_of_readSpan? ht.1 h, by decide, isFieldChar_of_readNat? ht.2.2 hk⟩

/-! ### What a segment is read as -/

lemma notMem_of_isDigits {s : Text} {c : Char} (h : Text.isDigits s = true) (hc : c.isDigit = false) :
    c ∉ s := fun hmem => by
  rw [(Text.isDigits_iff.1 h).2 c hmem] at hc
  exact absurd hc (by simp)

lemma readSpan?_digits {s : Text} (h : Text.isDigits s = true) (step : Option Nat) :
    readSpan? step s = (fun v => some ⟨.single v, step⟩) <$> readDigits s := by
  have hstar : s ≠ "*" := fun e => absurd h (e ▸ by decide)
  rw [readSpan?, if_neg hstar,
    show Text.cut "-" s = (s, none) from Text.cut_of_notMem (notMem_of_isDigits h (by decide))]
  simp only [readNat?_of_isDigits h]
  cases readDigits s <;> rfl

lemma readSpan?_range {s t : Text} (hs : Text.isDigits s = true) (ht : Text.isDigits t = true)
    (step : Option Nat) :
    readSpan? step (s ++ '-' :: t) =
      (do return some ⟨.range (← readDigits s) (← readDigits t), step⟩) := by
  have hstar : s ++ '-' :: t ≠ "*" := fun e => by
    have hmem : '-' ∈ ("*" : String).toList := e ▸ by simp
    exact absurd hmem (by decide)
  rw [readSpan?, if_neg hstar,
    show Text.cut "-" (s ++ '-' :: t) = (s, some t) from
      Text.cut_append (notMem_of_isDigits hs (by decide)) t]
  simp only [readNat?_of_isDigits hs, readNat?_of_isDigits ht]
  cases readDigits s <;> cases readDigits t <;> rfl

/-- Without a step, a segment is its span. -/
lemma read?_of_notMem (h : '/' ∉ t) : read? t = readSpan? none t := by
  rw [read?, show Text.cut "/" t = (t, none) from Text.cut_of_notMem h]

/-- With a step, the number behind the stroke is read before the span. -/
lemma read?_step {s : Text} (ht : '/' ∉ t) (hs : Text.isDigits s = true) :
    read? (t ++ '/' :: s) = (do readSpan? (some (max (← readDigits s) 1)) t) := by
  rw [read?, show Text.cut "/" (t ++ '/' :: s) = (t, some s) from Text.cut_append ht s]
  cases s with
  | nil => simp at hs
  | cons c s =>
    simp only [readNat?_of_isDigits hs]
    cases readDigits (c :: s) <;> rfl

end Segment

/-! ## Fields -/

namespace Field

variable {p : Position} {s : Text} {f : Field}

/-- When no piece is recorded as unreadable, there is a segment for every piece. -/
lemma exists_segments {parts : List Text} {found : List (Option Segment)}
    (hfound : List.Forall₂ (fun t o => Segment.read? t = .ok o) parts found)
    (hinvalid : ((parts.zip found).filterMap fun x => if x.2.isNone then some x.1 else none) = []) :
    ∃ segments, found = segments.map some ∧
      List.Forall₂ (fun t g => Segment.read? t = .ok (some g)) parts segments := by
  induction hfound with
  | nil => exact ⟨[], rfl, .nil⟩
  | @cons t o parts found ht hrest ih =>
    cases o with
    | none => simp at hinvalid
    | some g =>
      obtain ⟨segments, rfl, hsegments⟩ := ih (by simpa using hinvalid)
      exact ⟨g :: segments, rfl, .cons ht hsegments⟩

/-- A field is sound exactly when each of its pieces is a segment within the bounds. -/
lemma read_iff :
    Field.read p s = .ok f ∧ f.isSound = true ↔
      ∃ segments, List.Forall₂ (fun t g => Segment.read? t = .ok (some g))
          (Text.pieces ',' (normalize p s)) segments ∧
        (∀ g ∈ segments, g.outOfRange p = []) ∧
        f = ⟨normalize p s, ascending (segments.flatMap (Segment.values p)), [], []⟩ := by
  have hids : ∀ segments : List Segment, (segments.map some).filterMap id = segments := by simp
  constructor
  · rintro ⟨hread, hsound⟩
    obtain ⟨found, hfound, hf⟩ := bind_eq_ok_iff.1 hread
    obtain rfl := pure_eq_ok_iff.1 hf
    simp only [isSound, Bool.and_eq_true, List.isEmpty_iff] at hsound
    obtain ⟨hrange, hinvalid⟩ := hsound
    obtain ⟨segments, rfl, hsegments⟩ := exists_segments (mapM_eq_ok_iff.1 hfound) hinvalid
    rw [hids] at hrange
    refine ⟨segments, hsegments, List.flatMap_eq_nil_iff.1 hrange, ?_⟩
    rw [hids, hrange, hinvalid]
  · rintro ⟨segments, hsegments, hrange, rfl⟩
    have hfound : (Text.pieces ',' (normalize p s)).mapM Segment.read? = .ok (segments.map some) :=
      mapM_eq_ok_iff.2 (List.forall₂_map_right_iff.2 hsegments)
    -- every piece has its segment, so none is left over as invalid
    have hinvalid : (((Text.pieces ',' (normalize p s)).zip (segments.map some)).filterMap fun x =>
        if x.2.isNone then some x.1 else none) = [] := by
      rw [List.filterMap_eq_nil_iff]
      intro x hx
      obtain ⟨g, -, hg⟩ := List.mem_map.1 (List.of_mem_zip hx).2
      simp [← hg]
    refine ⟨?_, rfl⟩
    rw [Field.read, hfound]
    simp only [ok_bind, hids, hinvalid, List.flatMap_eq_nil_iff.2 hrange]
    rfl

/-! ### Names -/

/-- No name of a position shares a character with the stored form of a field. -/
lemma names_apart (p : Position) :
    ∀ n ∈ p.names, n.1 ≠ [] ∧ ∀ c ∈ n.1, isFieldChar c = false := by
  cases p <;> decide

lemma replaceNames_of_chars (hs : ∀ c ∈ s, isFieldChar c = true) : replaceNames p s = s := by
  have hnames := names_apart p
  unfold replaceNames
  generalize p.names = names at hnames
  induction names with
  | nil => rfl
  | cons n names ih =>
    have hkeep : Text.replaceAll n.1 (natText n.2) s = s := by
      obtain ⟨hne, hapart⟩ := hnames n List.mem_cons_self
      obtain ⟨m, ms, hn⟩ := List.exists_cons_of_ne_nil hne
      rw [hn] at hapart ⊢
      exact Text.replaceAll_of_notMem fun h =>
        absurd (hs m h) (by simp [hapart m List.mem_cons_self])
    rw [List.foldl_cons, hkeep]
    exact ih fun x hx => hnames x (List.mem_cons_of_mem n hx)

/-- Names are replaced on each side of a mark by themselves. -/
lemma replaceNames_append {c : Char} (hc : isFieldChar c = true) (s t : Text) :
    replaceNames p (s ++ c :: t) = replaceNames p s ++ c :: replaceNames p t := by
  have hnames := names_apart p
  unfold replaceNames
  generalize p.names = names at hnames
  induction names generalizing s t with
  | nil => rfl
  | cons n names ih =>
    obtain ⟨hne, hapart⟩ := hnames n List.mem_cons_self
    have hn : c ∉ n.1 := fun h => absurd hc (by simp [hapart c h])
    rw [List.foldl_cons, List.foldl_cons, List.foldl_cons, Text.replaceAll_append hne hn]
    exact ih _ _ fun x hx => hnames x (List.mem_cons_of_mem n hx)

lemma mem_replaceNames {c : Char} (hc : c ∈ replaceNames p s) : c ∈ s ∨ c.isDigit = true := by
  unfold replaceNames at hc
  generalize p.names = names at hc
  induction names generalizing s with
  | nil => exact .inl hc
  | cons n names ih =>
    rcases ih hc with hc | hc
    · exact (Text.mem_replaceAll hc).imp_right isDigit_of_mem_natText
    · exact .inr hc

/-- A text without blanks is stored without blanks. -/
lemma noBlank_normalize (hs : ∀ c ∈ s, Text.isBlank c = false) :
    ∀ c ∈ normalize p s, Text.isBlank c = false := by
  intro c hc
  rcases mem_replaceNames hc with hc | hc
  · exact Text.isBlank_of_mem_lower hs c hc
  · exact (plain_of_isFieldChar (isFieldChar_of_isDigit hc)).1

/-- The characters of a field are stored as they are. -/
lemma normalize_of_chars (hs : ∀ c ∈ s, isFieldChar c = true) : normalize p s = s := by
  have hlower : Text.lower s = s := by
    rw [Text.lower_of_ascii fun c hc => toNat_lt_of_isFieldChar (hs c hc)]
    exact (List.map_congr_left fun c hc => (plain_of_isFieldChar (hs c hc)).2.1).trans (List.map_id s)
  rw [normalize, hlower, replaceNames_of_chars hs]

/-- What stands on each side of a mark is stored by itself. -/
lemma normalize_append {c : Char} (hc : isFieldChar c = true) {s t : Text}
    (hs : ∀ c ∈ s, c.toNat < 128) (ht : ∀ c ∈ t, c.toNat < 128) :
    normalize p (s ++ c :: t) = normalize p s ++ c :: normalize p t := by
  have hst : ∀ d ∈ s ++ c :: t, d.toNat < 128 := by
    rw [List.forall_mem_append, List.forall_mem_cons]
    exact ⟨hs, toNat_lt_of_isFieldChar hc, ht⟩
  rw [normalize, normalize, normalize, Text.lower_of_ascii hst, Text.lower_of_ascii hs,
    Text.lower_of_ascii ht, List.map_append, List.map_cons, (plain_of_isFieldChar hc).2.1,
    replaceNames_append hc]

/-- The parts of a list are stored by themselves. -/
lemma normalize_join {ts : List Text} (hts : ∀ t ∈ ts, ∀ c ∈ t, c.toNat < 128) :
    normalize p (Text.join "," ts) = Text.join "," (ts.map (normalize p)) := by
  induction ts with
  | nil => exact normalize_of_chars (by simp)
  | cons t ts ih =>
    cases ts with
    | nil => rfl
    | cons u ts =>
      have hrest : ∀ v ∈ u :: ts, ∀ c ∈ v, c.toNat < 128 := fun v hv =>
        hts v (List.mem_cons_of_mem t hv)
      have hjoin : ∀ c ∈ Text.join [','] (u :: ts), c.toNat < 128 := by
        intro c hc
        rcases Text.mem_join hc with hc | ⟨v, hv, hc⟩
        · rw [List.mem_singleton.1 hc]
          decide
        · exact hrest v hv c hc
      rw [show ("," : Text) = [','] from rfl, Text.join_singleton_cons,
        normalize_append (by decide) (hts t List.mem_cons_self) hjoin,
        ← show ("," : Text) = [','] from rfl, ih hrest]
      exact (Text.join_singleton_cons ',' _ _ _).symm

/-! ### Reading again -/

/-- A field that its own text is read as. -/
structure IsStored (p : Position) (f : Field) : Prop where
  read_raw : Field.read p f.raw = .ok f
  sound : f.isSound = true
  raw_ne_nil : f.raw ≠ []
  chars : ∀ c ∈ f.raw, isFieldChar c = true

/-- A sound field that was read from a text without blanks is stored. -/
lemma isStored_of_read (hs : ∀ c ∈ s, Text.isBlank c = false) (hread : Field.read p s = .ok f)
    (hsound : f.isSound = true) : f.IsStored p := by
  obtain ⟨segments, hsegments, hrange, hf⟩ := read_iff.1 ⟨hread, hsound⟩
  have hraw : f.raw = normalize p s := by rw [hf]
  rw [← hraw] at hsegments hf
  have hblank : ∀ c ∈ f.raw, Text.isBlank c = false := hraw ▸ noBlank_normalize hs
  have hchars : ∀ c ∈ f.raw, isFieldChar c = true := by
    intro c hc
    rcases Text.mem_pieces_of_mem ',' hc with rfl | ⟨t, ht, hct⟩
    · decide
    · obtain ⟨g, -, hg⟩ := exists_of_forall₂ hsegments ht
      exact Segment.isFieldChar_of_read? (fun d hd => hblank d (Text.mem_of_mem_pieces ht hd)) hg c hct
  have hnormal : normalize p f.raw = f.raw := normalize_of_chars hchars
  refine ⟨(read_iff.2 ⟨segments, by rwa [hnormal], hrange, ?_⟩).1, hsound, ?_, hchars⟩
  · rw [hnormal]
    exact hf
  · intro hnil
    rw [hnil] at hsegments
    obtain ⟨g, -, hg⟩ := exists_of_forall₂ hsegments (List.mem_singleton.2 rfl)
    simp [Segment.read?, Segment.readSpan?, Text.cut] at hg

/-! ### Lists and ranges of numbers -/

lemma notMem_natText {n : Nat} {c : Char} (hc : c.isDigit = false) : c ∉ natText n :=
  Segment.notMem_of_isDigits (isDigits_natText n) hc

/-- In a list of numbers there are digits and commas only. -/
lemma isDigit_or_eq_of_mem_numbers {vs : List Nat} {c : Char}
    (hc : c ∈ Text.join "," (vs.map natText)) : c.isDigit = true ∨ c = ',' := by
  rcases Text.mem_join hc with hc | ⟨t, ht, hc⟩
  · exact .inr (List.mem_singleton.1 hc)
  · obtain ⟨v, -, rfl⟩ := List.mem_map.1 ht
    exact .inl (isDigit_of_mem_natText hc)

/-- In a range of numbers there are digits and hyphens only. -/
lemma isDigit_or_eq_of_mem_range {a b : Nat} {c : Char} (hc : c ∈ natText a ++ "-" ++ natText b) :
    c.isDigit = true ∨ c = '-' := by
  rw [List.mem_append, List.mem_append] at hc
  rcases hc with (hc | hc) | hc
  · exact .inl (isDigit_of_mem_natText hc)
  · exact .inr (List.mem_singleton.1 hc)
  · exact .inl (isDigit_of_mem_natText hc)

lemma notMem_numbers {vs : List Nat} {c : Char} (hdigit : c.isDigit = false) (hcomma : c ≠ ',') :
    c ∉ Text.join "," (vs.map natText) := fun hc => by
  rcases isDigit_or_eq_of_mem_numbers hc with hc | hc
  · exact absurd hc (by simp [hdigit])
  · exact hcomma hc

lemma notMem_range {a b : Nat} {c : Char} (hdigit : c.isDigit = false) (hhyphen : c ≠ '-') :
    c ∉ natText a ++ "-" ++ natText b := fun hc => by
  rcases isDigit_or_eq_of_mem_range hc with hc | hc
  · exact absurd hc (by simp [hdigit])
  · exact hhyphen hc

lemma pieces_numbers {vs : List Nat} (hne : vs ≠ []) :
    Text.pieces ',' (Text.join "," (vs.map natText)) = vs.map natText := by
  refine Text.pieces_join (by simpa using hne) fun t ht => ?_
  obtain ⟨v, -, rfl⟩ := List.mem_map.1 ht
  exact notMem_natText (by decide)

lemma lt_hundred_of_inBounds {v : Nat} (h : p.inBounds v = true) : v < 100 := by
  have hgreatest : p.greatest ≤ 59 := by cases p <;> decide
  have hv := (Position.inBounds_iff.1 h).2
  omega

lemma ascending_of_pairwise {vs : List Nat} (h : vs.Pairwise (· < ·)) : ascending vs = vs :=
  (pairwise_ascending vs).eq_of_mem_iff h fun _ => mem_ascending

/-- A list of numbers in ascending order is stored as these numbers. -/
lemma isStored_numbers {vs : List Nat} (hne : vs ≠ []) (hsorted : vs.Pairwise (· < ·))
    (hbounds : ∀ v ∈ vs, p.inBounds v = true ∧ p.stored v = v) :
    (⟨Text.join "," (vs.map natText), vs, [], []⟩ : Field).IsStored p := by
  set s := Text.join "," (vs.map natText) with hs
  have hchars : ∀ c ∈ s, isFieldChar c = true := by
    intro c hc
    rcases isDigit_or_eq_of_mem_numbers hc with hc | rfl
    · exact isFieldChar_of_isDigit hc
    · decide
  have hread : ∀ v ∈ vs, Segment.read? (natText v) = .ok (some ⟨.single v, none⟩) := by
    intro v hv
    rw [Segment.read?_of_notMem (notMem_natText (by decide)),
      Segment.readSpan?_digits (isDigits_natText v),
      readDigits_natText (lt_hundred_of_inBounds (hbounds v hv).1)]
    rfl
  have hvalues : (vs.map fun v => (⟨.single v, none⟩ : Segment)).flatMap (Segment.values p) = vs := by
    rw [List.flatMap_map]
    refine (List.flatMap_congr fun v hv => ?_).trans (List.flatMap_singleton' vs)
    simp [Segment.values, (hbounds v hv).1, (hbounds v hv).2]
  refine ⟨(read_iff.2 ⟨vs.map fun v => ⟨.single v, none⟩, ?_, ?_, ?_⟩).1, rfl, ?_, hchars⟩
  · rw [normalize_of_chars hchars, pieces_numbers hne, List.forall₂_map_left_iff,
      List.forall₂_map_right_iff, List.forall₂_same]
    exact hread
  · intro g hg
    obtain ⟨v, hv, rfl⟩ := List.mem_map.1 hg
    simp [Segment.outOfRange, (hbounds v hv).1]
  · rw [normalize_of_chars hchars, hvalues, ascending_of_pairwise hsorted]
  · -- the empty text has one piece, which is empty, and no number is written so
    intro hnil
    have hpieces := pieces_numbers hne
    rw [← hs, show s = [] from hnil] at hpieces
    have hmem : [] ∈ vs.map natText := hpieces ▸ List.mem_singleton.2 rfl
    obtain ⟨v, -, hv⟩ := List.mem_map.1 hmem
    exact natText_ne_nil v hv

/-- A range of numbers is stored as the numbers from the first to the last. -/
lemma isStored_range {a b : Nat} (hab : a ≤ b)
    (hbounds : ∀ v, a ≤ v → v ≤ b → p.inBounds v = true ∧ p.stored v = v) :
    (⟨natText a ++ "-" ++ natText b, List.range' a (b + 1 - a), [], []⟩ : Field).IsStored p := by
  set s := natText a ++ "-" ++ natText b with hs
  have ha := (hbounds a le_rfl hab).1
  have hb := (hbounds b hab le_rfl).1
  have hchars : ∀ c ∈ s, isFieldChar c = true := by
    intro c hc
    rcases isDigit_or_eq_of_mem_range hc with hc | rfl
    · exact isFieldChar_of_isDigit hc
    · decide
  have hread : Segment.read? s = .ok (some ⟨.range a b, none⟩) := by
    rw [Segment.read?_of_notMem (notMem_range (by decide) (by decide)), List.append_assoc]
    refine (Segment.readSpan?_range (isDigits_natText a) (isDigits_natText b) none).trans ?_
    rw [readDigits_natText (lt_hundred_of_inBounds ha), readDigits_natText (lt_hundred_of_inBounds hb)]
    rfl
  have hvalues : Segment.values p ⟨.range a b, none⟩ = List.range' a (b + 1 - a) := by
    -- within the bounds nothing has to be aligned or cut off
    have hleast : ¬ a < p.least := by
      have := (Position.inBounds_iff.1 ha).1
      omega
    have hgreatest : min b p.greatest = b := min_eq_left (Position.inBounds_iff.1 hb).2
    simp only [Segment.values, aligned, if_neg hleast, hgreatest, stepped, Option.getD_none,
      Nat.sub_self, Nat.add_zero, Nat.div_one]
    refine (List.map_congr_left fun v hv => ?_).trans (List.map_id _)
    obtain ⟨hav, hvb⟩ := List.mem_range'_1.1 hv
    exact (hbounds v hav (by omega)).2
  refine ⟨(read_iff.2 ⟨[⟨.range a b, none⟩], ?_, ?_, ?_⟩).1, rfl, ?_, hchars⟩
  · rw [normalize_of_chars hchars, Text.pieces_of_notMem (notMem_range (by decide) (by decide))]
    exact .cons hread .nil
  · simp [Segment.outOfRange, ha, hb]
  · rw [normalize_of_chars hchars, List.flatMap_singleton, hvalues,
      ascending_of_pairwise (List.pairwise_lt_range' _)]
  · simp [hs]

/-! ### The numbers of a field -/

lemma pairwise_values (h : Field.read p s = .ok f) : f.values.Pairwise (· < ·) := by
  obtain ⟨segments, -, hf⟩ := bind_eq_ok_iff.1 h
  rw [← pure_eq_ok_iff.1 hf]
  exact pairwise_ascending _

/-- The selected numbers are within the bounds, and stored as themselves. -/
lemma stored_of_mem_values (h : Field.read p s = .ok f) :
    ∀ v ∈ f.values, p.inBounds v = true ∧ p.stored v = v := by
  intro v hv
  by_cases hp : p = .dayOfWeek
  · subst hp
    have hlt := lt_seven_of_mem_values h hv
    exact ⟨Position.inBounds_iff.2 ⟨Nat.zero_le v, hlt.le⟩, by simp [Position.stored, hlt.ne]⟩
  · exact ⟨Position.inBounds_iff.2 (bounds_of_mem_values h hp hv),
      Position.stored_of_ne_dayOfWeek hp v⟩

namespace IsStored

lemma isSolid (h : f.IsStored p) : Text.IsSolid f.raw :=
  ⟨h.raw_ne_nil, fun c hc => (plain_of_isFieldChar (h.chars c hc)).1⟩

/-- The numbers of a field, written one by one, are stored as the same numbers. -/
lemma listed (h : f.IsStored p) (hne : f.values ≠ []) :
    (⟨Text.join "," (f.values.map natText), f.values, [], []⟩ : Field).IsStored p :=
  isStored_numbers hne (pairwise_values h.read_raw) (stored_of_mem_values h.read_raw)

end IsStored

end Field

end Crontab
