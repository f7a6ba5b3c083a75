import Crontab.Journal

/-!
# Keeping a journal

A `Session` is the state of journal keeping: from which level on entries are kept, and the handlers
that write them.  `Session.choose` chooses both by name, in three changes: the level is set, the
handlers that are there go, and a new one comes.  A change that stops leaves behind what was changed
before it, so it matters that the only one that can stop is the first: a name that cannot be used
leaves the session as it was, and each success leaves exactly one handler.

Level names are looked up in capitals among the names that stand for something; a name that stands
for nothing counts as `WARNING`.  One name stands for a layout of entries instead of a level, and
one for the table of all layouts.
-/

namespace Crontab

/-! ## Levels by name -/

/-- The characters outside ASCII whose capitals are ASCII letters: the sharp `ß`, the dotless `ı`, the
long `ſ`, and the ligatures. -/
def asciiCapitals : List (Char × Text) :=
  [('\u00DF', "SS"), ('\u0131', "I"), ('\u017F', "S"), ('\uFB00', "FF"), ('\uFB01', "FI"),
    ('\uFB02', "FL"), ('\uFB03', "FFI"), ('\uFB04', "FFL"), ('\uFB05', "ST"), ('\uFB06', "ST")]

/-- A text in capitals; characters whose capitals are outside ASCII stay as they are. -/
def inCapitals (s : Text) : Text := s.flatMap fun c => (asciiCapitals.lookup c).getD [c.toUpper]

/-- The names that stand for levels. -/
def levelNames : List (Text × Level) :=
  [("DEBUG", .debug), ("INFO", .info), ("WARNING", .warning), ("WARN", .warning),
    ("ERROR", .error), ("CRITICAL", .critical), ("FATAL", .critical), ("NOTSET", .notset)]

/-- The name that stands for a layout of entries, and the layout. -/
def layoutName : Text × Text := ("BASIC_FORMAT", "%(levelname)s:%(name)s:%(message)s")

/-- The name that stands for the table of all layouts of entries. -/
def layoutTableName : Text := "_STYLES"

/-- The level of a name. -/
def Level.named (s : Text) : Except Fault Level :=
  let s := inCapitals s
  if s = layoutName.1 then .error (.notALevel layoutName.2)
  else if s = layoutTableName then .error .layoutTable
  else .ok ((levelNames.lookup s).getD .warning)

/-! ## Sessions -/

/-- How a handler writes entries. -/
inductive Handler where
  | lines
  | documents
  deriving DecidableEq, Repr

/-- The handler of a format name. -/
def Handler.named (s : Text) : Handler := if s = "json" then documents else lines

/-- The state of journal keeping. -/
structure Session where
  level : Level
  handlers : List Handler
  deriving DecidableEq, Repr

namespace Session

/-- At the start there is no handler, and no level is set. -/
def start : Session := ⟨.notset, []⟩

/-- Keep entries from a level on. -/
def withLevel (l : Level) (s : Session) : Session := { s with level := l }

/-- Remove all handlers. -/
def withoutHandlers (s : Session) : Session := { s with handlers := [] }

/-- Add a handler. -/
def addHandler (h : Handler) (s : Session) : Session := { s with handlers := s.handlers ++ [h] }

/-- What changes the session.  When it stops on the way, the changes that it has made stay. -/
abbrev Change := ExceptT Fault (StateM Session)

/-- Choose level and handler by name. -/
def choose (level format : Text) : Change Unit := do
  let l ← Level.named level
  modify (withLevel l)
  modify withoutHandlers
  modify (addHandler (.named format))

/-- The session in which a choice has been made. -/
def setup (level format : Text) (s : Session) : Except Fault Session :=
  match (choose level format).run.run s with
  | (.ok _, t) => .ok t
  | (.error e, _) => .error e

/-- The session after a choice, whether it could be made or not. -/
def afterSetup (level format : Text) (s : Session) : Session :=
  ((choose level format).run.run s).2

/-- The level from which on entries are kept: warnings, as long as none is set. -/
def threshold (s : Session) : Level := if s.level = .notset then .warning else s.level

/-- Whether entries of a level are kept. -/
def keeps (s : Session) (l : Level) : Bool := decide (s.threshold.rank ≤ l.rank)

/-- What the handlers write of an entry: each of them writes it if it is kept. -/
def write (s : Session) (e : Entry) : List (Handler × Entry) :=
  if s.keeps e.level then s.handlers.map fun h => (h, e) else []

end Session

end Crontab
