import Crontab.Dialect.Weekday
import Crontab.Proofs.Field.Stored

/-!
# Lists of weekdays that count from 1

Where the days of the week count from Sunday as 1, a weekday field is a list of items with commas
between them.  An item is a day, a range of days, or one of these with a step, and a day is written
by its number or by the first three letters of its name, in any case (`Item.IsWritten`).

An item means the days from its first to its last in steps; with a step and no last day it runs to
Saturday (`Item.weekdays`).  A list of items covers a set of weekdays, counted from Sunday as 0, when
its numbers are numbers of weekdays and its items together mean these days (`WeekdayList.Covers`).
-/

namespace Crontab.WeekdayList

/-- The weekdays from one place to another of a week that counts from Sunday as 1, in steps, counted
from Sunday as 0. -/
def weekDays (first last step : Nat) : List Nat := (stepped first last step).map (· - 1)

lemma mem_weekDays {first last step : Nat} (hstep : 0 < step) {v : Nat} :
    v ∈ weekDays first last step ↔
      ∃ u, first ≤ u ∧ u ≤ last ∧ step ∣ u - first ∧ v = u - 1 := by
  simp only [weekDays, List.mem_map, mem_stepped hstep, and_assoc, eq_comm]

/-! ## Days -/

/-- A day of the week, by its number or by its name; the names count from Sunday as 0. -/
inductive Day where
  | number (n : Nat)
  | named (k : Fin 7)
  deriving DecidableEq, Repr

namespace Day

/-- The place of a day in a week that counts from Sunday as 1. -/
def position : Day → Nat
  | number n => n
  | named k => k + 1

/-- Whether a number is the number of a weekday. -/
def IsWithin : Day → Prop
  | number n => 1 ≤ n ∧ n ≤ 7
  | named _ => True

/-- How a day is written. -/
def IsWritten : Day → Text → Prop
  | number n, t => Text.isDigits t = true ∧ digitsValue t = n
  | named k, t => (t.map Char.toLower, (k : Nat)) ∈ Position.dayOfWeek.names

end Day

/-! ## Items -/

/-- An item of a list of weekdays. -/
structure Item where
  first : Day
  last? : Option Day
  step? : Option Nat
  ordered : ∀ d ∈ last?, first.position ≤ d.position
  step_pos : ∀ k ∈ step?, 0 < k

namespace Item

variable (i : Item)

/-- The number of days from one day of the item to the next. -/
def step : Nat := i.step?.getD 1

/-- The place of the last day up to which an item may run: a single day is its own last day, unless
a step is given, which runs to Saturday. -/
def lastPosition : Nat :=
  match i.last?, i.step? with
  | some d, _ => d.position
  | none, some _ => 7
  | none, none => i.first.position

/-- The weekdays of an item, counted from Sunday as 0. -/
def weekdays : List Nat := weekDays i.first.position i.lastPosition i.step

lemma step_pos' : 0 < i.step := by
  unfold step
  cases hstep : i.step? with
  | none => exact Nat.one_pos
  | some k => exact i.step_pos k hstep

lemma mem_weekdays {v : Nat} :
    v ∈ i.weekdays ↔
      ∃ u, i.first.position ≤ u ∧ u ≤ i.lastPosition ∧ i.step ∣ u - i.first.position ∧ v = u - 1 :=
  mem_weekDays i.step_pos'

/-- Whether the numbers of an item are numbers of weekdays. -/
def IsWithin : Prop := i.first.IsWithin ∧ ∀ d ∈ i.last?, d.IsWithin

/-- How the days of an item are written. -/
def SpanIsWritten (t : Text) : Prop :=
  match i.last? with
  | none => i.first.IsWritten t
  | some d => ∃ s u, i.first.IsWritten s ∧ d.IsWritten u ∧ t = s ++ '-' :: u

/-- How an item is written. -/
def IsWritten (t : Text) : Prop :=
  match i.step? with
  | none => i.SpanIsWritten t
  | some k => ∃ s u, i.SpanIsWritten s ∧ Text.isDigits u = true ∧ digitsValue u = k ∧ t = s ++ '/' :: u

/-- An item that is a single number. -/
def ofNumber (n : Nat) : Item := ⟨.number n, none, none, by simp, by simp⟩

/-- An item that is a range of numbers. -/
def ofRange (a b : Nat) (h : a ≤ b) : Item :=
  ⟨.number a, some (.number b), none, by simpa [Day.position] using h, by simp⟩

end Item

/-! ## Lists -/

/-- How a list of items is written. -/
def IsWritten (items : List Item) (t : Text) : Prop :=
  items ≠ [] ∧ ∃ ts, List.Forall₂ Item.IsWritten items ts ∧ t = Text.join "," ts

/-- The items mean exactly these weekdays, counted from Sunday as 0. -/
def Covers (items : List Item) (weekdays : List Nat) : Prop :=
  (∀ i ∈ items, i.IsWithin) ∧ ∀ v, v ∈ weekdays ↔ ∃ i ∈ items, v ∈ i.weekdays

end Crontab.WeekdayList
