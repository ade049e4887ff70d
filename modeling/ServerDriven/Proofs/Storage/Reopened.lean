/-
Module: ServerDriven.Proofs.Storage.Reopened
Purpose: A storage in a file holds, when it is opened again, what it held before.
Main exports:
  Dictionary.ofList_entries, FileStorage.load_render, FileStorage.IsDurable,
  FileStorage.isDurable_openAt, FileStorage.isDurable_put, FileStorage.isDurable_remove
-/
import ServerDriven.Proofs.Json.ReadBack
import ServerDriven.Storage.File

namespace ServerDriven

/-! ### Dictionaries from their own entries -/

namespace Dictionary

variable {α : Type}

theorem eq_of_entries {d e : Dictionary α} (same : d.entries = e.entries) : d = e := by
  cases d
  cases e
  cases same
  rfl

/-- A key beyond all others goes to the end. -/
theorem insert_of_forall_lt {key : String} (value : α) {entries : List (String × α)}
    (beyond : ∀ entry ∈ entries, entry.1 < key) :
    insert key value entries = entries ++ [(key, value)] := by
  induction entries with
  | nil =>
      rfl
  | cons entry rest ih =>
      obtain ⟨k, v⟩ := entry
      have lower : k < key := beyond (k, v) List.mem_cons_self
      have notBelow : ¬key < k := fun higher => String.lt_irrefl k (String.lt_trans lower higher)
      have apart : key ≠ k := fun same => String.lt_irrefl key (same ▸ lower)
      rw [insert, if_neg notBelow, if_neg apart,
        ih fun entry mem => beyond entry (List.mem_cons_of_mem _ mem)]
      rfl

/-- Entries in increasing order stay where they are put. -/
theorem entries_foldl_put (pairs : List (String × α)) (d : Dictionary α)
    (increasing : (d.entries ++ pairs).Pairwise fun a b => a.1 < b.1) :
    (pairs.foldl (fun d pair => d.put pair.1 pair.2) d).entries = d.entries ++ pairs := by
  induction pairs generalizing d with
  | nil =>
      exact (List.append_nil _).symm
  | cons pair pairs ih =>
      have beyond : ∀ entry ∈ d.entries, entry.1 < pair.1 := fun entry mem =>
        (List.pairwise_append.mp increasing).2.2 entry mem pair List.mem_cons_self
      have put : (d.put pair.1 pair.2).entries = d.entries ++ [pair] :=
        insert_of_forall_lt pair.2 beyond
      rw [List.append_cons, ← put] at increasing ⊢
      exact ih (d.put pair.1 pair.2) increasing

/-- A dictionary is that of its entries. -/
theorem ofList_entries (d : Dictionary α) : ofList d.entries = d :=
  eq_of_entries (entries_foldl_put d.entries empty d.increasing)

end Dictionary

/-! ### Files -/

namespace FileStorage

theorem mapM_writtenMember (depth : Nat) (members : List (String × String)) :
    (members.map fun member => (some member.1, Written.string (some member.2))).mapM
      (Codec.string.writtenMember depth) = .ok members := by
  induction members with
  | nil =>
      rfl
  | cons member members ih =>
      rw [List.map_cons, List.mapM_cons, ih]
      rfl

/-- What was written to a file is read from it. -/
theorem load_render (entries : Memory) : load (render entries) = entries := by
  have written : Written.ofText? (render entries) = some (Written.ofStrings entries.entries) :=
    Written.ofText?_pretty_strings entries.entries
  have read : (Codec.dictionary Codec.string).fromWritten Written.depthLimit
      (Written.ofStrings entries.entries) = .ok entries := by
    have members := mapM_writtenMember 126 entries.entries
    exact (congrArg (Except.map Dictionary.ofList) members).trans
      (congrArg Except.ok entries.ofList_entries)
  rw [load, Codec.readText, written]
  dsimp only
  rw [read]

/-- Writes succeed, and whoever opens the file finds what the storage holds. -/
structure IsDurable (s : FileStorage) : Prop where
  writable : s.medium.isWritable = true
  reopened : openAt s.medium = s

theorem isDurable_openAt {medium : Medium} (writable : medium.isWritable = true) :
    (openAt medium).IsDurable := ⟨writable, rfl⟩

/-- Whatever is written, the file holds it. -/
theorem isDurable_update {s : FileStorage} (writable : s.medium.isWritable = true)
    (entries : Memory) : (s.update entries).IsDurable := by
  have medium : (s.update entries).medium = { s.medium with content := some (render entries) } :=
    if_pos writable
  constructor
  · rw [medium]
    exact writable
  · rw [medium, openAt, Option.map_some, Option.getD_some, load_render, ← medium]
    rfl

theorem IsDurable.put {s : FileStorage} (durable : s.IsDurable) (key value : String) :
    (Storage.put s key value).IsDurable := isDurable_update durable.writable _

theorem IsDurable.remove {s : FileStorage} (durable : s.IsDurable) (key : String) :
    (Storage.remove s key).IsDurable := isDurable_update durable.writable _

end FileStorage

end ServerDriven
