import Crontab.Journal.Session
import Mathlib.Tactic.Lemma

/-!
# Journal keeping over a run of choices

A program may choose level and handler any number of times, and some of the names that it gives
cannot be used.  `Session.run_choose` says once what one choice does: either the session that is there
is replaced as a whole, or it stays as it is.  The second holds since the name is looked up before the
first change; had the old handlers gone earlier, a choice that fails would leave a session without any.

What a choice asks for is spelled out in `Choice.IsIn`: which names stand for which level, that `json`
gives documents and every other name lines.  It does not mention the tables in which a choice looks
its names up.

Over a run nothing is left of the choices in front of the last one that could be made
(`Session.isIn_of_lastMade?_eq_some`), so a session never has two handlers, which would write each
entry twice.
-/

namespace Crontab

/-! ## Names -/

namespace Level

variable {s : Text} {l : Level} {e : Fault}

/-- Two names cannot be used: that of a layout of entries, and that of the table of all layouts. -/
lemma named_eq_error_iff :
    named s = .error e ↔
      inCapitals s = "BASIC_FORMAT" ∧ e = .notALevel "%(levelname)s:%(name)s:%(message)s" ∨
        inCapitals s = "_STYLES" ∧ e = .layoutTable := by
  unfold named
  dsimp only
  split
  · next hlayout =>
    rw [Except.error.injEq]
    constructor
    · rintro rfl
      exact .inl ⟨hlayout, rfl⟩
    · rintro (⟨-, rfl⟩ | ⟨htable, -⟩)
      · rfl
      · exact absurd (hlayout.symm.trans htable) (by decide)
  · next hlayout =>
    split
    · next htable =>
      rw [Except.error.injEq]
      constructor
      · rintro rfl
        exact .inr ⟨htable, rfl⟩
      · rintro (⟨hname, -⟩ | ⟨-, rfl⟩)
        · exact absurd hname hlayout
        · rfl
    · next htable =>
      refine ⟨nofun, ?_⟩
      rintro (⟨hname, -⟩ | ⟨hname, -⟩)
      · exact absurd hname hlayout
      · exact absurd hname htable

/-- Any other name is looked up. -/
lemma eq_of_named (h : named s = .ok l) :
    l = (levelNames.lookup (inCapitals s)).getD .warning := by
  simp only [named] at h
  split at h
  · cases h
  · split at h
    · cases h
    · exact (Except.ok.inj h).symm

end Level

namespace Session

/-! ## One choice -/

/-- What comes of a choice, and the session behind it. -/
theorem run_choose (level format : Text) (s : Session) :
    (choose level format).run.run s =
      match Level.named level with
      | .ok l => (.ok (), ⟨l, [.named format]⟩)
      | .error e => (.error e, s) := by
  cases h : Level.named level with
  | error e => simp only [choose, h]; rfl
  | ok l => simp only [choose, h]; rfl

/-- A choice of level and handler by name. -/
structure Choice where
  level : Text
  format : Text
  deriving DecidableEq, Repr

namespace Choice

variable {c : Choice} {s : Session}

/-- What comes of a choice. -/
def outcome (c : Choice) (s : Session) : Except Fault Unit := ((choose c.level c.format).run.run s).1

/-- The session after a choice. -/
def after (c : Choice) (s : Session) : Session := afterSetup c.level c.format s

/-- Level and handler are those that a choice asks for, and there is no other handler.  The name of a
level is taken in capitals, and one that stands for nothing asks for warnings. -/
structure IsIn (c : Choice) (s : Session) : Prop where
  debug : inCapitals c.level = "DEBUG" → s.level = .debug
  info : inCapitals c.level = "INFO" → s.level = .info
  warning : inCapitals c.level = "WARNING" ∨ inCapitals c.level = "WARN" → s.level = .warning
  error : inCapitals c.level = "ERROR" → s.level = .error
  critical : inCapitals c.level = "CRITICAL" ∨ inCapitals c.level = "FATAL" → s.level = .critical
  notset : inCapitals c.level = "NOTSET" → s.level = .notset
  unknown : (∀ n ∈ ["DEBUG", "INFO", "WARNING", "WARN", "ERROR", "CRITICAL", "FATAL", "NOTSET"],
    inCapitals c.level ≠ String.toList n) → s.level = .warning
  documents : c.format = "json" → s.handlers = [.documents]
  lines : c.format ≠ "json" → s.handlers = [.lines]

lemma isIn_of_named {l : Level} (h : Level.named c.level = .ok l) :
    c.IsIn ⟨l, [Handler.named c.format]⟩ := by
  have hl := Level.eq_of_named h
  exact
    { debug := fun hname => by rw [hl, hname]; rfl
      info := fun hname => by rw [hl, hname]; rfl
      warning := by rintro (hname | hname) <;> rw [hl, hname] <;> rfl
      error := fun hname => by rw [hl, hname]; rfl
      critical := by rintro (hname | hname) <;> rw [hl, hname] <;> rfl
      notset := fun hname => by rw [hl, hname]; rfl
      unknown := fun hname => by
        have hnone : levelNames.lookup (inCapitals c.level) = none := by
          rw [List.lookup_eq_none_iff]
          intro p hp
          rw [bne_iff_ne]
          simp only [levelNames, List.mem_cons, List.not_mem_nil, or_false] at hp
          rcases hp with rfl | rfl | rfl | rfl | rfl | rfl | rfl | rfl <;> exact hname _ (by simp)
        rw [hl, hnone]
        rfl
      documents := fun hformat => by rw [Handler.named, if_pos hformat]
      lines := fun hformat => by rw [Handler.named, if_neg hformat] }

/-- A choice fails for the sake of its level only. -/
lemma outcome_eq_error_iff {e : Fault} :
    c.outcome s = .error e ↔ Level.named c.level = .error e := by
  rw [outcome, run_choose]
  cases Level.named c.level <;> simp

/-- A choice is made as a whole, or it fails and nothing is changed. -/
lemma made_or_failed (c : Choice) (s : Session) :
    (c.outcome s = .ok () ∧ c.IsIn (c.after s)) ∨ ∃ e, c.outcome s = .error e ∧ c.after s = s := by
  rw [outcome, after, afterSetup, run_choose]
  cases hl : Level.named c.level with
  | ok l => exact .inl ⟨rfl, isIn_of_named hl⟩
  | error e => exact .inr ⟨e, rfl, rfl⟩

lemma after_of_outcome_eq_error {e : Fault} (h : c.outcome s = .error e) : c.after s = s := by
  rcases c.made_or_failed s with ⟨hmade, -⟩ | ⟨-, -, hsame⟩
  · simp [hmade] at h
  · exact hsame

/-- The second of two equal choices changes nothing. -/
lemma after_after (c : Choice) (s : Session) : c.after (c.after s) = c.after s := by
  simp only [after, afterSetup, run_choose]
  cases Level.named c.level <;> rfl

end Choice

/-! ## Runs -/

variable {s : Session} {c : Choice} {cs : List Choice}

/-- The session after choices one after the other. -/
def afterChoices (s : Session) (cs : List Choice) : Session := cs.foldl (fun s c => c.after s) s

/-- The last of the choices that can be made, each in the session that those in front of it leave. -/
def lastMade? (s : Session) : List Choice → Option Choice
  | [] => none
  | c :: cs =>
    ((c.after s).lastMade? cs).or
      (match c.outcome s with
        | .ok _ => some c
        | .error _ => none)

lemma afterChoices_of_lastMade?_eq_none (h : s.lastMade? cs = none) : s.afterChoices cs = s := by
  induction cs generalizing s with
  | nil => rfl
  | cons c cs ih =>
    obtain ⟨hcs, hc⟩ := Option.or_eq_none_iff.1 h
    rcases c.made_or_failed s with ⟨hmade, -⟩ | ⟨e, -, hsame⟩
    · simp [hmade] at hc
    · exact (ih hcs).trans hsame

/-- The choices behind the last one that could be made leave the session to it. -/
lemma isIn_of_lastMade?_eq_some (h : s.lastMade? cs = some c) : c.IsIn (s.afterChoices cs) := by
  induction cs generalizing s with
  | nil => simp [lastMade?] at h
  | cons d cs ih =>
    rcases Option.or_eq_some_iff.1 h with hcs | ⟨hcs, hd⟩
    · exact ih hcs
    · have hrest : s.afterChoices (d :: cs) = d.after s := afterChoices_of_lastMade?_eq_none hcs
      rcases d.made_or_failed s with ⟨hmade, hin⟩ | ⟨e, hfailed, -⟩
      · obtain rfl : d = c := by simpa [hmade] using hd
        rwa [hrest]
      · simp [hfailed] at hd

/-- Choices are made as a whole or not at all.  When there is no handler at first, then at each point
of a run there still is none as long as no choice could be made, and otherwise level and handler are
those of the last choice that could be made.  Which choices cannot be made depends on the name of the
level alone: there are two such names, each with a fault of its own.  A choice that fails leaves any
session as it was, and one that is repeated makes no difference. -/
theorem afterChoices_lastMade (hs : s.handlers = []) (cs : List Choice) :
    (∀ n, match s.lastMade? (cs.take n) with
      | none =>
        (s.afterChoices (cs.take n)).level = s.level ∧ (s.afterChoices (cs.take n)).handlers = []
      | some c => c.IsIn (s.afterChoices (cs.take n))) ∧
    (∀ (c : Choice) (t : Session) (e : Fault), c.outcome t = .error e ↔
      inCapitals c.level = "BASIC_FORMAT" ∧ e = .notALevel "%(levelname)s:%(name)s:%(message)s" ∨
        inCapitals c.level = "_STYLES" ∧ e = .layoutTable) ∧
    (∀ (c : Choice) (t : Session) (e : Fault), c.outcome t = .error e → c.after t = t) ∧
    ∀ (c : Choice) (t : Session), c.after (c.after t) = c.after t := by
  refine ⟨fun n => ?_, fun c t e => Choice.outcome_eq_error_iff.trans Level.named_eq_error_iff,
    fun c t e => Choice.after_of_outcome_eq_error, Choice.after_after⟩
  cases hlast : s.lastMade? (cs.take n) with
  | none => simp only [afterChoices_of_lastMade?_eq_none hlast, hs, and_self]
  | some c => exact isIn_of_lastMade?_eq_some hlast

/-- A run with names of all kinds: the table of layouts, a name that stands for nothing, a level that
is known under two names, and a layout. -/
theorem afterChoices_lastMade_ofNames :
    let cs : List Choice :=
      [⟨"_styles", "text"⟩, ⟨"loud", "text"⟩, ⟨"Fatal", "json"⟩, ⟨"Basic_Format", "text"⟩]
    start.handlers = [] ∧ start.lastMade? (cs.take 1) = none ∧ start.afterChoices (cs.take 1) = start ∧
      start.lastMade? (cs.take 2) = some ⟨"loud", "text"⟩ ∧
      start.afterChoices (cs.take 2) = ⟨.warning, [.lines]⟩ ∧
      start.lastMade? (cs.take 4) = some ⟨"Fatal", "json"⟩ ∧
      start.afterChoices (cs.take 4) = ⟨.critical, [.documents]⟩ ∧
      Choice.IsIn ⟨"Fatal", "json"⟩ (start.afterChoices (cs.take 4)) :=
  ⟨rfl, by decide, by decide, by decide, by decide, by decide, by decide,
    (afterChoices_lastMade (s := start) rfl
      [⟨"_styles", "text"⟩, ⟨"loud", "text"⟩, ⟨"Fatal", "json"⟩, ⟨"Basic_Format", "text"⟩]).1 4⟩

end Session

end Crontab
