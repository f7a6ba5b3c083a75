import Crontab.Numeral.Basic
import Crontab.Text.Quoted

/-!
# JSON documents

The documents that commands give as an alternative to plain text.  Members of an object keep their
order.  A document is written over several lines, two blanks deeper with every level; empty lists
and objects stay on one line.

Strings are written in one of two ways, `Escaping.ascii` and `Escaping.minimal`: either only ASCII
characters are left, or only what has to be escaped is.
-/

namespace Crontab

/-- A JSON document. -/
inductive Json where
  | null
  | bool (b : Bool)
  | int (n : Int)
  | str (s : Text)
  | arr (items : List Json)
  | obj (members : List (Text × Json))
  deriving Inhabited

namespace Json

/-! ## Strings -/

/-- Which characters of a string are written by their code. -/
inductive Escaping where
  /-- All that are not printable ASCII, those beyond the basic plane as two surrogates. -/
  | ascii
  /-- The control characters alone. -/
  | minimal
  deriving DecidableEq, Repr

/-- A code unit by its number. -/
def unitText (n : Nat) : Text := '\x5c' :: 'u' :: Text.hex 4 n

/-- A character by its number, in one or two code units. -/
def codeText (n : Nat) : Text :=
  if n < 0x10000 then unitText n
  else unitText (0xD800 + (n - 0x10000) / 0x400) ++ unitText (0xDC00 + (n - 0x10000) % 0x400)

/-- A character inside a string. -/
def charText (e : Escaping) (c : Char) : Text :=
  if c = '\x22' ∨ c = '\x5c' then ['\x5c', c]
  else if c = '\n' then ['\x5c', 'n']
  else if c = '\r' then ['\x5c', 'r']
  else if c = '\t' then ['\x5c', 't']
  else if c = '\x08' then ['\x5c', 'b']
  else if c = '\x0c' then ['\x5c', 'f']
  else if c.toNat < 0x20 then unitText c.toNat
  else if e = .ascii ∧ 0x7F ≤ c.toNat then codeText c.toNat
  else [c]

/-- A string in its quotes. -/
def stringText (e : Escaping) (s : Text) : Text :=
  '\x22' :: s.flatMap (charText e) ++ ['\x22']

/-! ## Documents -/

/-- The start of a line at a depth. -/
def newLine (depth : Nat) : Text := '\n' :: Text.fill (2 * depth) ' '

mutual

/-- A document whose first line starts at some depth. -/
def textAt (e : Escaping) (depth : Nat) : Json → Text
  | null => "null"
  | bool b => if b then "true" else "false"
  | int n => intText n
  | str s => stringText e s
  | arr [] => "[]"
  | arr (x :: xs) =>
    '[' :: newLine (depth + 1) ++ textAt e (depth + 1) x ++ itemsText e (depth + 1) xs ++
      newLine depth ++ "]"
  | obj [] => "\x7b\x7d"
  | obj ((k, x) :: xs) =>
    '\x7b' :: newLine (depth + 1) ++ stringText e k ++ ": " ++ textAt e (depth + 1) x ++
      membersText e (depth + 1) xs ++ newLine depth ++ "\x7d"

/-- The further items of a list. -/
def itemsText (e : Escaping) (depth : Nat) : List Json → Text
  | [] => []
  | x :: xs => ',' :: newLine depth ++ textAt e depth x ++ itemsText e depth xs

/-- The further members of an object. -/
def membersText (e : Escaping) (depth : Nat) : List (Text × Json) → Text
  | [] => []
  | (k, x) :: xs =>
    ',' :: newLine depth ++ stringText e k ++ ": " ++ textAt e depth x ++ membersText e depth xs

end

/-- A document. -/
def text (e : Escaping) (j : Json) : Text := textAt e 0 j

/-! ## Values -/

/-- A text that may be missing. -/
def strOrNull : Option Text → Json
  | none => null
  | some s => str s

/-- A natural number. -/
def nat (n : Nat) : Json := int n

/-- A list of texts. -/
def strs (ss : List Text) : Json := arr (ss.map str)

/-- A list of natural numbers. -/
def nats (ns : List Nat) : Json := arr (ns.map nat)

end Json

end Crontab
