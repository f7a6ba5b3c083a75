import Crontab.Text.Basic

/-!
# Tables of names

A table holds values under names, and keeps the names in the order in which they first came.  A
later value under a name takes the place of the earlier one, so the last value counts but the name
does not move.

What a table answers after one more value is `get?_put`, and where the name stands is `names_put`.
-/

namespace Crontab

/-- Values under names, each name once. -/
abbrev NameTable (α : Type) := List (Text × α)

namespace NameTable

variable {α : Type}

/-- The value under a name. -/
def get? (table : NameTable α) (name : Text) : Option α := table.lookup name

/-- The names, in the order in which they first came. -/
def names (table : NameTable α) : List Text := table.map Prod.fst

/-- The table with a value under a name: in the place of the old value if there is one, and at the
end if there is none. -/
def put (name : Text) (value : α) : NameTable α → NameTable α
  | [] => [(name, value)]
  | (n, v) :: table =>
    if n = name then (name, value) :: table else (n, v) :: put name value table

/-- The table of values that came one after the other. -/
def ofList (values : List (Text × α)) : NameTable α :=
  values.foldl (fun table v => put v.1 v.2 table) []

@[simp] theorem get?_nil (name : Text) : get? ([] : NameTable α) name = none := rfl

theorem get?_cons (n : Text) (v : α) (table : NameTable α) (name : Text) :
    get? ((n, v) :: table) name = if name = n then some v else get? table name := by
  by_cases h : name = n
  · simp [get?, h]
  · simp [get?, List.lookup_cons, h, beq_eq_false_iff_ne.2 h]

/-- One more value changes what is under its own name and nothing else. -/
theorem get?_put (name : Text) (value : α) (table : NameTable α) (other : Text) :
    get? (put name value table) other = if other = name then some value else get? table other := by
  induction table with
  | nil => simp [put, get?_cons]
  | cons entry table ih =>
    obtain ⟨n, v⟩ := entry
    by_cases hn : n = name
    · subst hn
      by_cases ho : other = n <;> simp [put, get?_cons, ho]
    · by_cases ho : other = n
      · subst ho
        simp [put, get?_cons, hn]
      · simp [put, get?_cons, hn, ho, ih]

/-- A name that is there keeps its place, and a new one comes last. -/
theorem names_put (name : Text) (value : α) (table : NameTable α) :
    names (put name value table) =
      if name ∈ names table then names table else names table ++ [name] := by
  induction table with
  | nil => simp [put, names]
  | cons entry table ih =>
    obtain ⟨n, v⟩ := entry
    by_cases hn : n = name
    · subst hn
      simp [put, names]
    · have hn' : name ≠ n := Ne.symm hn
      have hc : names ((n, v) :: put name value table) = n :: names (put name value table) := rfl
      have hd : names ((n, v) :: table) = n :: names table := rfl
      rw [put, if_neg hn, hc, ih, hd]
      by_cases hm : name ∈ names table <;> simp [hm, hn']

end NameTable

end Crontab
