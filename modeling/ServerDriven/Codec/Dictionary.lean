/-
Module: ServerDriven.Codec.Dictionary
Purpose: Finite maps from text keys, kept in increasing order of their keys.
Main exports:
  Dictionary, Dictionary.get?, Dictionary.put, Dictionary.erase, Dictionary.ofList
-/

namespace ServerDriven

/-- Values under text keys in increasing order, each key once.  Equal maps are equal
dictionaries. -/
structure Dictionary (α : Type) where
  entries : List (String × α)
  increasing : entries.Pairwise fun a b => a.1 < b.1
deriving Repr, DecidableEq

namespace Dictionary

variable {α : Type}

def empty : Dictionary α := ⟨[], .nil⟩

instance : Inhabited (Dictionary α) := ⟨empty⟩

def get? (d : Dictionary α) (key : String) : Option α := d.entries.lookup key

/-- Put an entry at its place in an increasing list, in place of one with the same key. -/
def insert (key : String) (value : α) : List (String × α) → List (String × α)
  | [] => [(key, value)]
  | (k, v) :: rest =>
    if key < k then (key, value) :: (k, v) :: rest
    else if key = k then (key, value) :: rest
    else (k, v) :: insert key value rest

theorem mem_insert {key : String} {value : α} {entries : List (String × α)} {entry : String × α}
    (h : entry ∈ insert key value entries) : entry = (key, value) ∨ entry ∈ entries := by
  induction entries with
  | nil => simpa [insert] using h
  | cons head rest ih =>
    obtain ⟨k, v⟩ := head
    simp only [insert] at h
    split at h
    · simpa using h
    · split at h
      · simp only [List.mem_cons] at h ⊢
        exact h.imp_right .inr
      · simp only [List.mem_cons] at h ⊢
        rcases h with h | h
        · exact .inr (.inl h)
        · exact (ih h).imp_right .inr

theorem insert_increasing {key : String} {value : α} {entries : List (String × α)}
    (h : entries.Pairwise fun a b => a.1 < b.1) :
    (insert key value entries).Pairwise fun a b => a.1 < b.1 := by
  induction entries with
  | nil => simp [insert]
  | cons head rest ih =>
    obtain ⟨k, v⟩ := head
    rw [List.pairwise_cons] at h
    simp only [insert]
    split
    · rename_i hlt
      refine List.pairwise_cons.2 ⟨fun entry he => ?_, List.pairwise_cons.2 h⟩
      rcases List.mem_cons.1 he with rfl | he
      · exact hlt
      · exact String.lt_trans hlt (h.1 entry he)
    · split
      · rename_i heq
        subst heq
        exact List.pairwise_cons.2 ⟨h.1, h.2⟩
      · rename_i hlt hne
        refine List.pairwise_cons.2 ⟨fun entry he => ?_, ih h.2⟩
        rcases mem_insert he with rfl | he
        · exact Std.lt_of_le_of_ne (String.not_lt.1 hlt) (Ne.symm hne)
        · exact h.1 entry he

/-- Write a value under a key. -/
def put (d : Dictionary α) (key : String) (value : α) : Dictionary α :=
  ⟨insert key value d.entries, insert_increasing d.increasing⟩

/-- Remove a key. -/
def erase (d : Dictionary α) (key : String) : Dictionary α :=
  ⟨d.entries.filter fun entry => entry.1 ≠ key, d.increasing.filter _⟩

/-- The dictionary of a list of pairs; the last value of a repeated key counts. -/
def ofList (pairs : List (String × α)) : Dictionary α :=
  pairs.foldl (fun d pair => d.put pair.1 pair.2) empty

end Dictionary

end ServerDriven
