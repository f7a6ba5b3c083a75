import Crontab.Journal

/-!
# Chains

A chain takes a text through several steps, each of which turns the current text into the next one:
a phrase into an expression, an expression into its canonical form, or one notation into another.
The first step that fails is the last one.
-/

namespace Crontab

/-- One step of a chain. -/
inductive Step where
  /-- Generate an expression from the text as a phrase. -/
  | generate
  /-- Write the text in its canonical form. -/
  | canonical
  /-- Read the text from the notation that it seems to be in. -/
  | auto
  /-- Read the text from the notation of a name. -/
  | read (source : Text)
  /-- Write the text in the notation of a name. -/
  | write (target : Text)
  deriving DecidableEq, Repr

/-- The step of a name: every name but the first ones is the name of a notation to write in. -/
def Step.ofName (s : Text) : Step :=
  if s = "generate" then generate
  else if s = "canonical" then canonical
  else if s = "auto" then auto
  else
    match Text.skip? "from:" s with
    | some source => read source
    | none => write s

/-- How a step went. -/
inductive StepOutcome where
  /-- The next text, and the sentence for it. -/
  | passed (text sentence : Text)
  /-- No next text, with the reason where there is one to tell. -/
  | failed (error : Option Text)
  deriving DecidableEq, Repr

/-- A step that was taken, with the entries that it left in the journal. -/
structure StepRecord where
  name : Text
  outcome : StepOutcome
  entries : List Entry
  deriving DecidableEq, Repr

namespace Step

/-- What a conversion gives for the next step: the expression inside the result if there is one, and
the result otherwise. -/
def ofConversion (c : Conversion) : Except (Option Text) Text × List Entry :=
  match c with
  | .done c => (.ok (c.expression?.getD c.result), [])
  | .refused d why => (.error (some why.message), (Conversion.refused d why).entries)

/-- The next text or the reason why there is none, and the entries for the journal. -/
def apply (s : Text) : Step → Except Fault (Except (Option Text) Text × List Entry)
  | .generate => do
    let g ← Crontab.generate s
    match g.expression? with
    | some e => return (.ok e, [])
    | none => return (.error g.error?, g.entries s)
  | .canonical => return (.ok (← Expression.read s).canonical, [])
  | .auto =>
    match detect s with
    | none => return (.error none, [])
    | some d => return ofConversion (← toCron s d.name)
  | .read source => return ofConversion (← toCron s source)
  | .write target => return ofConversion (← fromCron (.ok s) target)

end Step

/-- Take a text through the steps of these names. -/
def runChain : List Text → Text → Except Fault (List StepRecord)
  | [], _ => .ok []
  | name :: names, s => do
    match ← Step.apply s (Step.ofName name) with
    | (.ok t, entries) =>
      return ⟨name, .passed t (← describe t), entries⟩ :: (← runChain names t)
    | (.error e, entries) => return [⟨name, .failed e, entries⟩]

end Crontab
