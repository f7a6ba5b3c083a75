import Crontab.Fault
import Crontab.Text.Blank
import Crontab.Text.Digit

/-!
# Arguments

The arguments of a command are its options and its operands.  An option is written with its name
behind two hyphens, or with one letter behind one hyphen, and may take a value: the rest of the same
argument, behind an equals sign for a long name, or else the next argument, whatever that looks
like.  Letters of options without values may be written together.  Behind the argument `--`
everything is an operand.

`Arguments.read` takes arguments apart by the options that a command has.  It refuses what is no
option of the command, a value where none is taken, and a value that is missing.
-/

namespace Crontab

/-- An option of a command. -/
structure CommandOption where
  /-- The long name, without hyphens. -/
  name : Text
  letter? : Option Char
  takesValue : Bool
  deriving DecidableEq, Repr

namespace CommandOption

/-- An option without a value. -/
def flag (name : Text) (letter? : Option Char) : CommandOption := ⟨name, letter?, false⟩

/-- An option with a value. -/
def value (name : Text) (letter? : Option Char) : CommandOption := ⟨name, letter?, true⟩

end CommandOption

/-- The arguments of a command, taken apart. -/
structure Arguments where
  /-- The options that were given, by their long names, with their values; those that take none have
  an empty one. -/
  options : List (Text × Text)
  operands : List Text
  deriving DecidableEq, Repr

namespace Arguments

/-! ## One argument -/

/-- The options that one argument gives.  `awaiting` is the last one, if its value is still to
come. -/
structure Given where
  complete : List (Text × Text)
  awaiting : Option Text
  deriving DecidableEq, Repr

/-- Read an option by its long name; the argument is given without its hyphens. -/
def long? (opts : List CommandOption) (s : Text) : Option Given :=
  match Text.cut "=" s with
  | (name, value?) => do
    let o ← opts.find? fun o => o.name == name
    match o.takesValue, value? with
    | true, some value => return ⟨[(o.name, value)], none⟩
    | true, none => return ⟨[], some o.name⟩
    | false, none => return ⟨[(o.name, [])], none⟩
    | false, some _ => none

/-- Read options by their letters. -/
def letters? (opts : List CommandOption) : Text → Option Given
  | [] => some ⟨[], none⟩
  | c :: s => do
    let o ← opts.find? fun o => o.letter? == some c
    if o.takesValue then
      if s.isEmpty then return ⟨[], some o.name⟩ else return ⟨[(o.name, s)], none⟩
    else
      let g ← letters? opts s
      return { g with complete := (o.name, []) :: g.complete }

/-- What an argument is. -/
inductive Kind where
  | operand
  /-- From here on there are only operands. -/
  | endOfOptions
  /-- Options, or something in their place that cannot be read. -/
  | options (given? : Option Given)
  deriving DecidableEq, Repr

/-- The kind of an argument.  A hyphen alone is an operand. -/
def kindOf (opts : List CommandOption) (arg : Text) : Kind :=
  match arg with
  | '-' :: '-' :: [] => .endOfOptions
  | '-' :: '-' :: s => .options (long? opts s)
  | '-' :: c :: s => .options (letters? opts (c :: s))
  | _ => .operand

/-! ## All arguments -/

/-- Put options in front. -/
def withOptions (given : List (Text × Text)) (a : Arguments) : Arguments :=
  { a with options := given ++ a.options }

/-- Put an operand in front. -/
def withOperand (arg : Text) (a : Arguments) : Arguments :=
  { a with operands := arg :: a.operands }

/-- Take arguments apart.  Options are looked for behind the first operand only if `mixed` is
set. -/
def read (opts : List CommandOption) (mixed : Bool) : List Text → Option Arguments
  | [] => some ⟨[], []⟩
  | arg :: args =>
    match kindOf opts arg with
    | .endOfOptions => some ⟨[], args⟩
    | .operand =>
      if mixed then (read opts mixed args).map (withOperand arg) else some ⟨[], arg :: args⟩
    | .options none => none
    | .options (some ⟨given, none⟩) => (read opts mixed args).map (withOptions given)
    | .options (some ⟨given, some name⟩) =>
      match args with
      | [] => none
      | value :: args => (read opts mixed args).map (withOptions (given ++ [(name, value)]))

/-- Whether an option was given. -/
def has (a : Arguments) (name : Text) : Bool := a.options.any fun o => o.1 == name

/-- The value that was given last for an option. -/
def value? (a : Arguments) (name : Text) : Option Text := a.options.reverse.lookup name

/-! ## Values -/

/-- The digits of a text in which single underscores may stand between digits. -/
def groupedDigits? : Text → Option Text
  | [] => none
  | c :: s =>
    if !Text.isDecimal c then none
    else
      match s with
      | [] => some [c]
      | '_' :: s => (groupedDigits? s).map (c :: ·)
      | d :: s => (groupedDigits? (d :: s)).map (c :: ·)

/-- The number that grouped digits denote, if there are not too many of them. -/
def grouped? (s : Text) : Option Nat := do
  let digits ← groupedDigits? s
  if digits.length ≤ digitLimit then some (Text.decimalsValue digits) else none

/-- A whole number, with a sign or without one, and blanks around it aside. -/
def integer? (s : Text) : Option Int :=
  match Text.trim s with
  | '-' :: s => (grouped? s).map fun n => -(n : Int)
  | '+' :: s => (grouped? s).map fun n => (n : Int)
  | s => (grouped? s).map fun n => (n : Int)

end Arguments

end Crontab
