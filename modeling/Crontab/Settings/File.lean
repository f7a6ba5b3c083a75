import Crontab.Text.Blank

/-!
# Settings files

A settings file is a list of entries `NAME=value`.  An entry ends with its line; blank lines and
comments behind `#` do not count, and the word `export` may stand in front.  A name may stand in
single quotes, and a value in single or double ones; quoted texts may go over several lines.
Inside single quotes a backslash escapes a quote or a backslash, inside double quotes the usual
letters too.  Without quotes a value ends where the line or a comment begins.

A name without an equals sign is an entry without a value.  Where an entry cannot be read, it is
passed over up to the end of the line in which reading stopped, and the next line is read on its
own.
-/

namespace Crontab.SettingsFile

/-- A name, and its value if an equals sign stands behind the name. -/
structure Entry where
  name : Text
  value : Option Text
  deriving DecidableEq, Repr

/-! ## Lines -/

/-- The text with a line feed at the end of each line: a carriage return ends a line too, alone or
with a line feed behind it. -/
def withLineFeeds : Text → Text
  | '\r' :: '\n' :: s => '\n' :: withLineFeeds s
  | '\r' :: s => '\n' :: withLineFeeds s
  | c :: s => c :: withLineFeeds s
  | [] => []

/-- Whether a character is a blank inside a line. -/
def isGap (c : Char) : Bool := Text.isBlank c && c != '\n'

/-- The text behind the blanks of the line. -/
def skipGap (s : Text) : Text := s.dropWhile isGap

/-- The text behind the line. -/
def behindLine (s : Text) : Text := (s.dropWhile (· != '\n')).drop 1

theorem length_skipGap_le (s : Text) : (skipGap s).length ≤ s.length :=
  (List.dropWhile_suffix isGap).length_le

theorem length_behindLine_le (s : Text) : (behindLine s).length ≤ s.length := by
  have := (List.dropWhile_suffix (· != '\n') (l := s)).length_le
  simp only [behindLine, List.length_drop]
  omega

/-- What is behind a line is less than the line and what is behind it. -/
theorem length_behindLine_le_pred (s : Text) : (behindLine s).length ≤ s.length - 1 := by
  cases s with
  | nil => exact Nat.le_refl _
  | cons c s =>
    by_cases h : c = '\n'
    · simp [behindLine, h]
    · simpa [behindLine, h] using length_behindLine_le s

/-! ## Quotes -/

/-- The text inside quotes and the text behind them.  A quote behind a backslash does not close,
unless no other one does. -/
def quoted? (quote : Char) : Text → Option (Text × Text)
  | [] => none
  | c :: s =>
    if c = quote then some ([], s)
    else
      match s with
      | [] => none
      | d :: s =>
        if c = '\x5c' ∧ d = quote then
          match quoted? quote s with
          | some (value, rest) => some (c :: d :: value, rest)
          | none => some ([c], s)
        else (quoted? quote (d :: s)).map fun r => (c :: r.1, r.2)

theorem length_lt_of_quoted? {quote : Char} {s value rest : Text}
    (h : quoted? quote s = some (value, rest)) : rest.length < s.length := by
  fun_induction quoted? quote s generalizing value rest with
  | case1 => simp at h
  | case2 s => simp at h; simp [h.2]
  | case3 => simp at h
  | case4 c hc d s' hd v r hr ih =>
    simp at h
    have := ih hr
    simp only [List.length_cons, ← h.2]
    omega
  | case5 c hc d s' hd hr ih =>
    simp at h
    simp only [List.length_cons, ← h.2]
    omega
  | case6 c hc d s' hd ih =>
    obtain ⟨r, hr, he⟩ := Option.map_eq_some_iff.1 h
    have := ih hr
    simp at he
    simp only [List.length_cons, ← he.2] at this ⊢
    omega

/-- The character that an escape stands for. -/
def escaped? (quote c : Char) : Option Char :=
  if c = '\x5c' ∨ c = '\x27' then some c
  else if quote = '\x27' then none
  else
    match c with
    | '\x22' => some '\x22'
    | 'a' => some '\x07'
    | 'b' => some '\x08'
    | 'f' => some '\x0c'
    | 'n' => some '\n'
    | 'r' => some '\r'
    | 't' => some '\t'
    | 'v' => some '\x0b'
    | _ => none

/-- The text with the escapes of a kind of quotes resolved. -/
def unescape (quote : Char) : Text → Text
  | '\x5c' :: c :: s =>
    match escaped? quote c with
    | some d => d :: unescape quote s
    | none => '\x5c' :: unescape quote (c :: s)
  | c :: s => c :: unescape quote s
  | [] => []

/-! ## Parts of an entry

A reader hands on the part that it read and the text behind it, or else the text at which it
stopped.  What is left is never more than what was given, so reading comes to an end. -/

/-- The text at which a reader stopped. -/
def stop {α : Type} : Except Text (α × Text) → Text
  | .ok (_, rest) => rest
  | .error rest => rest

/-- The text without the word `export` in front. -/
def withoutExport (s : Text) : Text :=
  match Text.skip? "export" s with
  | some (c :: rest) => if isGap c then skipGap rest else s
  | _ => s

/-- Whether a character may stand in a name without quotes. -/
def isNameChar (c : Char) : Bool := !(c == '=' || c == '#' || Text.isBlank c)

theorem length_withoutExport_le (s : Text) : (withoutExport s).length ≤ s.length := by
  unfold withoutExport
  split
  · rename_i c rest h
    have hl := congrArg List.length (Text.eq_append_of_skip? h)
    have hr := length_skipGap_le rest
    simp only [List.length_append, List.length_cons] at hl
    split <;> omega
  · exact Nat.le_refl _

/-- Read the name; a comment has none. -/
def readName (s : Text) : Except Text (Option Text × Text) :=
  match s with
  | '#' :: _ => .ok (none, s)
  | '\x27' :: s' =>
    match s'.takeWhile (· != '\x27'), s'.dropWhile (· != '\x27') with
    | c :: name, _ :: rest => .ok (some (c :: name), rest)
    | _, _ => .error s
  | _ =>
    match s.takeWhile isNameChar with
    | [] => .error s
    | name => .ok (some name, s.dropWhile isNameChar)

theorem length_stop_readName_le (s : Text) : (stop (readName s)).length ≤ s.length := by
  unfold readName
  split
  · exact Nat.le_refl _
  · rename_i s'
    have hd := (List.dropWhile_suffix (· != '\x27') (l := s')).length_le
    split
    · rename_i hq
      rw [hq] at hd
      simp only [stop, List.length_cons] at hd ⊢
      omega
    · exact Nat.le_refl _
  · split
    · exact Nat.le_refl _
    · exact (List.dropWhile_suffix isNameChar).length_le

/-- The value without a comment behind it, which starts with a blank and `#`. -/
def withoutComment : Text → Text
  | [] => []
  | c :: s =>
    if Text.isBlank c && (Text.skip? "#" (Text.trimLeft s)).isSome then []
    else c :: withoutComment s

/-- Read the value behind the equals sign. -/
def readValue (s : Text) : Except Text (Text × Text) :=
  match s with
  | [] => .ok ([], [])
  | c :: s' =>
    if c = '\x27' ∨ c = '\x22' then
      match quoted? c s' with
      | some (value, rest) => .ok (unescape c value, rest)
      | none => .error s
    else
      .ok (Text.trimRight (withoutComment (s.takeWhile (· != '\n'))), s.dropWhile (· != '\n'))

theorem length_stop_readValue_le (s : Text) : (stop (readValue s)).length ≤ s.length := by
  unfold readValue
  split
  · exact Nat.le_refl _
  · rename_i c s'
    split
    · split
      · rename_i h
        have := length_lt_of_quoted? h
        simp only [stop, List.length_cons]
        omega
      · exact Nat.le_refl _
    · exact (List.dropWhile_suffix _).length_le

/-- Read the equals sign and the value, if they are there. -/
def readAssigned (s : Text) : Except Text (Option Text × Text) :=
  match s with
  | '=' :: s' =>
    match readValue (skipGap s') with
    | .ok (value, rest) => .ok (some value, rest)
    | .error rest => .error rest
  | _ => .ok (none, s)

theorem length_stop_readAssigned_le (s : Text) : (stop (readAssigned s)).length ≤ s.length := by
  unfold readAssigned
  split
  · rename_i s'
    have hv := length_stop_readValue_le (skipGap s')
    have hg := length_skipGap_le s'
    split <;> rename_i h <;> simp only [h, stop, List.length_cons] at hv ⊢ <;> omega
  · exact Nat.le_refl _

/-- Read what is left of the line, which may be a comment. -/
def readLineEnd (s : Text) : Except Text (Unit × Text) :=
  match skipGap s with
  | [] => .ok ((), [])
  | '\n' :: rest => .ok ((), rest)
  | '#' :: rest => .ok ((), behindLine rest)
  | rest => .error rest

/-- The text to read on from when a reader stopped at the end of a line or inside it. -/
def resume {α : Type} : Except Text (α × Text) → Text
  | .ok (_, rest) => rest
  | .error rest => behindLine rest

theorem length_resume_readLineEnd_le (s : Text) :
    (resume (readLineEnd s)).length ≤ s.length - 1 := by
  have hg := length_skipGap_le s
  unfold readLineEnd
  split
  · exact Nat.zero_le _
  · rename_i rest h
    rw [h] at hg
    simp only [resume, List.length_cons] at hg ⊢
    omega
  · rename_i rest h
    have hb := length_behindLine_le rest
    rw [h] at hg
    simp only [resume, List.length_cons] at hg ⊢
    omega
  · have hb := length_behindLine_le_pred (skipGap s)
    simp only [resume]
    omega

/-! ## Entries -/

/-- Read an entry from its first character on; a comment has none. -/
def readEntry (s : Text) : Except Text (Option Entry × Text) :=
  match readName (withoutExport s) with
  | .error rest => .error rest
  | .ok (name, rest) =>
    match readAssigned (skipGap rest) with
    | .error rest => .error rest
    | .ok (value, rest) =>
      match readLineEnd rest with
      | .error rest => .error rest
      | .ok (_, rest) => .ok (name.map fun name => ⟨name, value⟩, rest)

/-- Each entry uses up some of the text, and so does one that cannot be read. -/
theorem length_resume_readEntry_le (s : Text) :
    (resume (readEntry s)).length ≤ s.length - 1 := by
  have he := length_withoutExport_le s
  have hn := length_stop_readName_le (withoutExport s)
  unfold readEntry
  split
  · rename_i rest h
    have hb := length_behindLine_le_pred rest
    simp only [h, stop] at hn
    simp only [resume]
    omega
  · rename_i name rest h
    have hg := length_skipGap_le rest
    have ha := length_stop_readAssigned_le (skipGap rest)
    simp only [h, stop] at hn
    split
    · rename_i rest h
      have hb := length_behindLine_le_pred rest
      simp only [h, stop] at ha
      simp only [resume]
      omega
    · rename_i value rest h
      have hl := length_resume_readLineEnd_le rest
      simp only [h, stop] at ha
      split <;> rename_i h <;> simp only [h, resume] at hl ⊢ <;> omega

/-- The entry that was read, if one was. -/
def found? : Except Text (Option Entry × Text) → Option Entry
  | .ok (entry, _) => entry
  | .error _ => none

/-- The entries of a text whose lines end in line feeds, in order. -/
def entriesFrom (s : Text) : List Entry :=
  match s with
  | [] => []
  | c :: s =>
    if Text.isBlank c then entriesFrom s
    else
      let read := readEntry (c :: s)
      (found? read).toList ++ entriesFrom (resume read)
termination_by s.length
decreasing_by
  · simp
  · have := length_resume_readEntry_le (c :: s)
    simp only [List.length_cons] at this ⊢
    omega

/-- The entries of a file, in order. -/
def entries (file : Text) : List Entry := entriesFrom (withLineFeeds file)

end Crontab.SettingsFile
