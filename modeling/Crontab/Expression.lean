import Crontab.Field

/-!
# Expressions

An expression is five fields separated by blanks, or six when a field for the seconds is put in
front, or an alias that starts with `@`.  Reading never refuses a text: `Expression.read` keeps the
text and says what it holds, namely

* five fields, each of which may have faults of its own (`FieldError`),
* the alias `@reboot`, which stands for no times at all, or
* nothing that can be divided into fields (`Malformed`).

The one thing that stops reading is a run of digits that is too long to be a number.

`Expression.canonical` writes an expression with its five fields in their stored form.
-/

namespace Crontab

/-! ## Five fields -/

/-- The fields of an expression. -/
structure Fields where
  minute : Field
  hour : Field
  dayOfMonth : Field
  month : Field
  dayOfWeek : Field
  deriving DecidableEq, Repr

namespace Fields

/-- The field at a position. -/
def get (f : Fields) : Position → Field
  | .minute => f.minute
  | .hour => f.hour
  | .dayOfMonth => f.dayOfMonth
  | .month => f.month
  | .dayOfWeek => f.dayOfWeek

/-- The fields with their positions, in order. -/
def toList (f : Fields) : List (Position × Field) := Position.all.map fun p => (p, f.get p)

/-- Read the five fields from their texts. -/
def read (minute hour dayOfMonth month dayOfWeek : Text) : Except Fault Fields := do
  return {
    minute := ← Field.read .minute minute
    hour := ← Field.read .hour hour
    dayOfMonth := ← Field.read .dayOfMonth dayOfMonth
    month := ← Field.read .month month
    dayOfWeek := ← Field.read .dayOfWeek dayOfWeek
  }

/-- The fields as one text. -/
def canonical (f : Fields) : Text :=
  Text.join " " [f.minute.raw, f.hour.raw, f.dayOfMonth.raw, f.month.raw, f.dayOfWeek.raw]

end Fields

/-! ## What can be wrong -/

/-- What can be wrong in one field. -/
inductive FieldError where
  /-- Numbers outside the bounds of their position. -/
  | outOfRange (position : Position) (values : List Nat)
  /-- Segments that cannot be read. -/
  | invalid (position : Position) (segments : List Text)
  deriving DecidableEq, Repr

/-- What can be wrong before there are any fields. -/
inductive Malformed where
  /-- The alias, in lower case, is not in the table. -/
  | unknownAlias (name : Text)
  /-- There are neither five nor six fields. -/
  | fieldCount (found : Nat)
  deriving DecidableEq, Repr

namespace FieldError

/-- The wording of a field error. -/
def message : FieldError → Text
  | outOfRange p values => p.label ++ ": values out of range (" ++ natsText values ++ ")"
  | invalid p segments => p.label ++ ": invalid value (" ++ Text.join ", " segments ++ ")"

end FieldError

namespace Field

/-- The errors of a field at its position. -/
def errors (p : Position) (f : Field) : List FieldError :=
  (if f.outOfRange.isEmpty then [] else [.outOfRange p f.outOfRange]) ++
    if f.invalid.isEmpty then [] else [.invalid p f.invalid]

theorem errors_eq_nil_iff {p : Position} {f : Field} : f.errors p = [] ↔ f.isSound = true := by
  unfold errors isSound
  cases h₁ : f.outOfRange.isEmpty <;> cases h₂ : f.invalid.isEmpty <;> simp

end Field

/-- The errors of all fields, in order. -/
def Fields.errors (f : Fields) : List FieldError := f.toList.flatMap fun x => x.2.errors x.1

/-! ## Aliases -/

/-- The aliases and the expressions that they stand for; `@reboot` stands for none. -/
def aliases : List (Text × Option Text) :=
  [("@yearly", some "0 0 1 1 *"), ("@annually", some "0 0 1 1 *"), ("@monthly", some "0 0 1 * *"),
    ("@weekly", some "0 0 * * 0"), ("@daily", some "0 0 * * *"), ("@midnight", some "0 0 * * *"),
    ("@hourly", some "0 * * * *"), ("@reboot", none)]

/-! ## Expressions -/

/-- What a text holds when it is read as an expression. -/
inductive Content where
  /-- Five fields; `secondsIgnored` says that a sixth field in front was dropped. -/
  | timed (fields : Fields) (secondsIgnored : Bool)
  /-- The start of the machine, at no time of the clock. -/
  | reboot
  /-- No fields at all. -/
  | malformed (cause : Malformed)
  deriving DecidableEq, Repr

/-- A text that was read as an expression. -/
structure Expression where
  /-- The text as it was given. -/
  source : Text
  content : Content
  deriving DecidableEq, Repr

/-- How reading went, in one word. -/
inductive Status where
  | ok
  | reboot
  | fieldError
  | structuralError
  deriving DecidableEq, Repr

namespace Content

/-- Read the fields of a text that is no alias. -/
def ofFields (s : Text) : Except Fault Content :=
  match Text.words s with
  | [m, h, d, mo, w] => return .timed (← Fields.read m h d mo w) false
  | [_, m, h, d, mo, w] => return .timed (← Fields.read m h d mo w) true
  | ws => return .malformed (.fieldCount ws.length)

/-- Read an alias, which is given without blanks around it. -/
def ofAlias (s : Text) : Except Fault Content :=
  match aliases.lookup (Text.lower s) with
  | none => return .malformed (.unknownAlias (Text.lower s))
  | some none => return .reboot
  | some (some expansion) => ofFields expansion

end Content

namespace Expression

/-- Read a text as an expression. -/
def read (s : Text) : Except Fault Expression := do
  let content ←
    match Text.trim s with
    | '@' :: rest => Content.ofAlias ('@' :: rest)
    | _ => Content.ofFields s
  return ⟨s, content⟩

/-- The fields of an expression, if it has any. -/
def fields? (e : Expression) : Option Fields :=
  match e.content with
  | .timed f _ => some f
  | _ => none

/-- The field at a position, if there are fields. -/
def field? (e : Expression) (p : Position) : Option Field := e.fields?.map fun f => f.get p

/-- Whether the expression stands for the start of the machine. -/
def isReboot (e : Expression) : Bool :=
  match e.content with
  | .reboot => true
  | _ => false

/-- Whether a field for the seconds was dropped. -/
def secondsIgnored (e : Expression) : Bool :=
  match e.content with
  | .timed _ ignored => ignored
  | _ => false

/-- How reading went. -/
def status (e : Expression) : Status :=
  match e.content with
  | .timed f _ => if f.errors.isEmpty then .ok else .fieldError
  | .reboot => .reboot
  | .malformed _ => .structuralError

/-- Whether the text is an expression without faults. -/
def isValid (e : Expression) : Bool :=
  match e.status with
  | .ok => true
  | .reboot => true
  | _ => false

/-- The fields of an expression that has times: it is valid and not `@reboot`. -/
def schedule? (e : Expression) : Option Fields :=
  match e.content with
  | .timed f _ => if f.errors.isEmpty then some f else none
  | _ => none

/-- What is wrong with the expression, in words. -/
def errors (e : Expression) : List Text :=
  match e.content with
  | .timed f _ => f.errors.map FieldError.message
  | .reboot => []
  | .malformed (.unknownAlias name) => ["Unknown alias: " ++ name]
  | .malformed (.fieldCount n) => ["Invalid field count: expected 5, got " ++ natText n]

/-- What is wrong with the expression, in one line. -/
def errorLine (e : Expression) : Text := Text.join ", " e.errors

/-- What might have been meant. -/
def suggestion? (e : Expression) : Option Text :=
  match e.content with
  | .malformed (.unknownAlias _) =>
    some ("Valid aliases: " ++ Text.join ", " (aliases.map Prod.fst))
  | .malformed (.fieldCount _) => some "Format: minute hour day-of-month month day-of-week"
  | _ => none

/-- The five fields in their stored form; a text without fields only loses the blanks around it. -/
def canonical (e : Expression) : Text :=
  match e.fields? with
  | some f => f.canonical
  | none => Text.trim e.source

end Expression

end Crontab
