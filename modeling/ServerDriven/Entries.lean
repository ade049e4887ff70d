/-
Module: ServerDriven.Entries
Purpose: Association lists that keep the order in which their keys were first written.
Main exports:
  Entries, Entries.get?, Entries.put, Entries.erase, Entries.keys, Entries.ofList, Entries.sorted
-/

namespace ServerDriven

/-- Values under text keys, in the order in which the keys were first written. -/
abbrev Entries (α : Type) := List (String × α)

namespace Entries

variable {α : Type}

/-- The value under a key. -/
def get? (entries : Entries α) (key : String) : Option α := List.lookup key entries

/-- Write a value: a key that is present keeps its place, a new one goes to the end. -/
def put (key : String) (value : α) : Entries α → Entries α
  | [] => [(key, value)]
  | (k, v) :: rest => if k = key then (key, value) :: rest else (k, v) :: put key value rest

/-- Remove a key. -/
def erase (key : String) (entries : Entries α) : Entries α :=
  entries.filter fun entry => entry.1 ≠ key

def keys (entries : Entries α) : List String := entries.map Prod.fst

/-- Write the pairs of a list one after the other: a repeated key keeps its first place and its
last value. -/
def ofList (pairs : List (String × α)) : Entries α :=
  pairs.foldl (fun entries pair => put pair.1 pair.2 entries) []

/-- The same entries in increasing order of their keys. -/
def sorted (entries : Entries α) : Entries α :=
  entries.mergeSort fun a b => a.1 ≤ b.1

@[simp] theorem get?_nil (key : String) : get? ([] : Entries α) key = none := rfl

theorem get?_cons (k key : String) (v : α) (rest : Entries α) :
    get? ((k, v) :: rest) key = if key = k then some v else get? rest key := by
  by_cases h : key = k
  · simp [get?, h]
  · simp [get?, List.lookup_cons, beq_false_of_ne h, h]

theorem get?_put (key other : String) (value : α) (entries : Entries α) :
    get? (put key value entries) other =
      if other = key then some value else get? entries other := by
  induction entries with
  | nil => simp [put, get?_cons]
  | cons entry rest ih =>
    obtain ⟨k, v⟩ := entry
    by_cases hk : k = key
    · subst hk
      by_cases ho : other = k <;> simp [put, get?_cons, ho]
    · by_cases ho : other = k
      · subst ho
        simp [put, get?_cons, hk]
      · simp [put, get?_cons, hk, ho, ih]

end Entries

end ServerDriven
