import Crontab.Comparison
import Crontab.Dialect.Conversion
import Crontab.Phrase.Generation

/-!
# The journal

The library keeps a journal of what went wrong in a way that its results do not show in full.  An
entry is determined by what was asked and by what came out, so the computations do not carry the
journal along: the functions of this module say afterwards which entry belongs to a result.

`Level` orders entries by severity.  Where entries are kept, and from which level on, is the matter
of `Crontab.Journal.Session`.
-/

namespace Crontab

/-- How severe an entry is. -/
inductive Level where
  | notset
  | debug
  | info
  | warning
  | error
  | critical
  deriving DecidableEq, Repr

namespace Level

/-- The place of a level in the order of severity. -/
def rank : Level → Nat
  | notset => 0
  | debug => 10
  | info => 20
  | warning => 30
  | error => 40
  | critical => 50

/-- The name of a level. -/
def name : Level → Text
  | notset => "NOTSET"
  | debug => "DEBUG"
  | info => "INFO"
  | warning => "WARNING"
  | error => "ERROR"
  | critical => "CRITICAL"

end Level

/-- The part of the program that an entry comes from. -/
inductive Origin where
  | program
  | conversion
  | generation
  | search
  deriving DecidableEq, Repr

/-- The name under which an origin keeps its entries. -/
def Origin.name : Origin → Text
  | program => "cronlens"
  | conversion => "cronlens.cron.converter"
  | generation => "cronlens.cron.generator"
  | search => "cronlens.cron.scheduler"

/-- An entry of the journal. -/
structure Entry where
  level : Level
  origin : Origin
  message : Text
  /-- What an exception said, if the entry was made because of one. -/
  cause? : Option Text
  deriving DecidableEq, Repr

/-- The entry in one line. -/
def Entry.line (e : Entry) : Text := "[" ++ e.level.name ++ "] " ++ e.origin.name ++ ": " ++ e.message

/-! ## Entries of results -/

/-- A refused conversion is recorded. -/
def Conversion.entries : Conversion → List Entry
  | .done _ => []
  | .refused d why =>
    [⟨.debug, .conversion,
      "Conversion to " ++ ((d.map Dialect.name).getD "unknown") ++ " failed: " ++ why.message, none⟩]

/-- A phrase that was understood as something invalid is recorded. -/
def Generation.entries (phrase : Text) : Generation → List Entry
  | .invalid drafted _ =>
    [⟨.debug, .generation,
      "Generated " ++ Text.quoted drafted ++ " from " ++ Text.quoted phrase ++
        " but it failed validation", none⟩]
  | _ => []

/-- A search that found fewer occurrences than it was asked for is recorded, unless there was
nothing to search for. -/
def Expression.searchEntries (e : Expression) (count : Int) (found : List Moment) : List Entry :=
  if e.schedule?.isSome ∧ (found.length : Int) < count then
    [⟨.debug, .search,
      "Search window exhausted for " ++ Text.quoted e.source ++ ": " ++ natText found.length ++
        " of " ++ intText count ++ " occurrences found", none⟩]
  else []

namespace Expression

/-- The entries of a search as it went; one that was stopped leaves none. -/
def entriesAfter (e : Expression) (zone : Except Fault Zone) (count : Int) (start : AskedTime) :
    List Entry :=
  match e.runsAfter zone count start with
  | .ok found => e.searchEntries count found
  | .error _ => []

/-- The entries of paging, page by page. -/
def pageEntries (e : Expression) (zone : Except Fault Zone) (count : Int) :
    Nat → AskedTime → List Entry
  | 0, _ => []
  | n + 1, start =>
    e.entriesAfter zone count start ++
      match e.runsAfter zone count start with
      | .error _ => []
      | .ok page =>
        match page.getLast? with
        | none => []
        | some last => pageEntries e zone count n (DateTime.moment last)

/-- The entries of a comparison: those of the two searches that it makes. -/
def comparisonEntries (e₁ e₂ : Expression) (zone : Except Fault Zone) (start : AskedTime) :
    List Entry :=
  if e₁.schedule?.isSome && e₂.schedule?.isSome then
    [e₁, e₂].flatMap fun e => e.entriesAfter zone overlapSample start
  else []

end Expression

end Crontab
