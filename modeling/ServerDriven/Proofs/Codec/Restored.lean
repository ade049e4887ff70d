/-
Module: ServerDriven.Proofs.Codec.Restored
Purpose: Values that are read again as they were written: the simple ones, and structures whose
  fields are.
Main exports:
  Codec.Restores, Codec.Keeps, Codec.IsFaithful, Codec.keeps_list, Codec.keeps_dictionary,
  Record.Restores, Record.Restores.fromJson, Record.keeps_of_tables, Record.keeps_codec
-/
import ServerDriven.Proofs.Codec.RecordReading
import ServerDriven.Proofs.Storage.Reopened

namespace ServerDriven

/-!
A field that may be missing is left out where there is no value, and null stands for no value too.
So such a field restores a value only if the value is not itself written as null.
-/

namespace Codec

variable {α β : Type}

/-- What is written of a value is read as that value. -/
def Restores (c : Codec α) (x : α) : Prop := c.fromJson (c.toJson x) = .ok x

/-- A value is restored, and it is not taken for a missing one. -/
structure Keeps (c : Codec α) (x : α) : Prop where
  restored : c.Restores x
  present : c.toJson x ≠ .null

/-- Every value is restored. -/
def IsFaithful (c : Codec α) : Prop := ∀ x, c.Restores x

@[simp] theorem restores_of_keeps {c : Codec α} {x : α} (keeps : c.Keeps x) : c.Restores x :=
  keeps.restored

/-! ### Simple types -/

@[simp] theorem keeps_string (s : String) : string.Keeps s := ⟨rfl, nofun⟩

@[simp] theorem keeps_bool (b : Bool) : bool.Keeps b := ⟨rfl, nofun⟩

@[simp] theorem keeps_object (members : List (String × Json)) : object.Keeps members := ⟨rfl, nofun⟩

@[simp] theorem restores_any (v : Json) : any.Restores v := rfl

/-- Any value but null is told from a missing one. -/
@[simp] theorem keeps_any {v : Json} (present : v ≠ .null) : any.Keeps v :=
  ⟨restores_any v, present⟩

@[simp] theorem keeps_int32 (n : Int32) : int32.Keeps n := by
  have least : -2_147_483_648 ≤ n.toInt := Int32.le_toInt n
  have greatest : n.toInt < 2_147_483_648 := Int32.toInt_lt n
  have number : Number.ofInt n.toInt = .integer n.toInt (by omega) (by omega) := by
    apply dif_pos
    omega
  constructor
  · unfold Restores
    simp only [int32, ofValue, number]
    rw [if_pos ⟨least, greatest⟩, Int32.ofInt_toInt]
  · simp [int32, ofValue]

/-! ### Lists, dictionaries and values that may be missing -/

theorem mapM_restored {ι : Type} {write : α → ι} {read : ι → Except DecodeError α} {xs : List α}
    (each : ∀ x ∈ xs, read (write x) = .ok x) : (xs.map write).mapM read = .ok xs := by
  induction xs with
  | nil =>
      rfl
  | cons x xs ih =>
      have first : read (write x) = .ok x := each x List.mem_cons_self
      have rest := ih fun y mem => each y (List.mem_cons_of_mem x mem)
      rw [List.map_cons, List.mapM_cons, first, rest]
      rfl

theorem keeps_list_of_restores {c : Codec α} {xs : List α} (each : ∀ x ∈ xs, c.Restores x) :
    (list c).Keeps xs := by
  constructor
  · exact mapM_restored each
  · simp [list]

@[simp] theorem keeps_list {c : Codec α} {xs : List α} (each : ∀ x ∈ xs, c.Keeps x) :
    (list c).Keeps xs :=
  keeps_list_of_restores fun x mem => (each x mem).restored

/-- In a list, null is a value like any other. -/
@[simp] theorem keeps_list_any (items : List Json) : (list any).Keeps items :=
  keeps_list_of_restores fun v _ => restores_any v

@[simp] theorem keeps_dictionary {c : Codec α} {d : Dictionary α}
    (each : ∀ entry ∈ d.entries, c.Keeps entry.2) : (dictionary c).Keeps d := by
  have entries : (d.entries.map fun entry => (entry.1, c.toJson entry.2)).mapM c.member =
      .ok d.entries := by
    apply mapM_restored
    intro entry mem
    have value : c.fromJson (c.toJson entry.2) = .ok entry.2 := (each entry mem).restored
    simp [member, value, Except.map]
  constructor
  · unfold Restores
    simp [dictionary, entries, Except.map, d.ofList_entries]
  · simp [dictionary]

/-- What is present is read as it would be if it could not be missing. -/
theorem fromJson_option {c : Codec α} {v : Json} (present : v ≠ .null) :
    c.option.fromJson v = (c.fromJson v).map some := by
  cases v with
  | null =>
      exact absurd rfl present
  | _ =>
      rfl

end Codec

/-! ### Structures -/

section Structures

variable {whole whole' : Json} {σ α β : Type}

/-- One field reads what the other writes of `x`.  Where it writes nothing, the value is the one that
stands for a missing field. -/
structure Field.Restores (reader : Field whole σ β) (writer : Field whole' σ β) (x : σ) : Prop where
  name : reader.name = writer.name
  written : ∀ v h, writer.toJson? (writer.project x) = some v →
    reader.fromJson v h = .ok (writer.project x)
  leftOut : writer.toJson? (writer.project x) = none →
    reader.fallback = some (writer.project x)

/-- A field that is always written restores what its type does, whatever stands for it when it is
missing. -/
theorem Field.restores_of_written {name : String} {fallback fallback' : Option β} {c : Codec β}
    {project : σ → β} {x : σ} (restored : c.Restores (project x)) :
    Field.Restores
      (⟨name, fallback, fun v _ => c.fromJson v, c.fromWritten, project, some ∘ c.toJson⟩ :
        Field whole σ β)
      (⟨name, fallback', fun v _ => c.fromJson v, c.fromWritten, project, some ∘ c.toJson⟩ :
        Field whole' σ β) x := by
  refine ⟨rfl, ?_, nofun⟩
  rintro v h ⟨⟩
  exact restored

namespace Record

/-- One table reads what the other writes of `x`, field by field. -/
inductive Restores (x : σ) : {α : Type} → Record whole σ α → Record whole' σ α → Prop where
  | build {α : Type} (make : α) : Restores x (.build make) (.build make)
  | field {α β : Type} {reader : Record whole σ (β → α)} {writer : Record whole' σ (β → α)}
      {f : Field whole σ β} {g : Field whole' σ β} (before : Restores x reader writer)
      (restored : f.Restores g x) : Restores x (reader.field f) (writer.field g)

/-- What a table builds from the fields of `x`. -/
def rebuild (x : σ) : {α : Type} → Record whole σ α → α
  | _, .build make => make
  | _, .field before f => rebuild x before (f.project x)

/-- Each field of `x` is found among some members, if it is written at all. -/
def HeldIn (members : List (String × Json)) (x : σ) : {α : Type} → Record whole σ α → Prop
  | _, .build _ => True
  | _, .field before f =>
    HeldIn members x before ∧ Entries.get? members f.name = f.toJson? (f.project x)

/-- What is written last is found if it was not there before. -/
theorem get?_toMembers_field (before : Record whole σ (β → α)) (f : Field whole σ β) (x : σ)
    (name : String) :
    Entries.get? (toMembers x (before.field f)) name =
      (Entries.get? (toMembers x before) name).or
        (if name = f.name then f.toJson? (f.project x) else none) := by
  rw [toMembers, Entries.get?, List.lookup_append]
  apply congrArg (Option.or _)
  cases f.toJson? (f.project x) with
  | none =>
      simp
  | some v =>
      exact Entries.get?_cons f.name name v []

/-- Nothing is written under other names than those of the fields. -/
theorem get?_toMembers_eq_none {r : Record whole σ α} {name : String} (other : name ∉ r.names)
    (x : σ) : Entries.get? (toMembers x r) name = none := by
  induction r with
  | build make =>
      rfl
  | field before f ih =>
      simp only [names, List.mem_append, List.mem_singleton, not_or] at other
      rw [get?_toMembers_field, ih other.1, if_neg other.2]
      rfl

/-- Members that are found under the same names hold the same fields. -/
theorem HeldIn.congr {r : Record whole σ α} {members members' : List (String × Json)} {x : σ}
    (held : r.HeldIn members x)
    (same : ∀ name ∈ r.names, Entries.get? members' name = Entries.get? members name) :
    r.HeldIn members' x := by
  induction r with
  | build make =>
      trivial
  | field before f ih =>
      obtain ⟨earlier, last⟩ := held
      constructor
      · apply ih earlier
        intro name mem
        exact same name (List.mem_append_left [f.name] mem)
      · rw [same f.name (by simp [names])]
        exact last

/-- What is written of a structure holds its fields, if no two of them have the same name. -/
theorem heldIn_toMembers {r : Record whole σ α} (distinct : r.names.Nodup) (x : σ) :
    r.HeldIn (toMembers x r) x := by
  induction r with
  | build make =>
      trivial
  | field before f ih =>
      obtain ⟨earlier, -, apart⟩ := List.nodup_append.mp distinct
      have new : f.name ∉ before.names := by
        intro mem
        exact apart f.name mem f.name List.mem_cons_self rfl
      constructor
      · apply (ih earlier).congr
        intro name mem
        have other : name ≠ f.name := by
          rintro rfl
          exact new mem
        rw [get?_toMembers_field, if_neg other, Option.or_none]
      · rw [get?_toMembers_field, get?_toMembers_eq_none new, if_pos rfl]
        rfl

namespace Restores

variable {x : σ} {reader : Record whole σ α} {writer : Record whole' σ α}

/-- A field is read from the members that hold it. -/
theorem value?_field {f : Field whole σ β} {g : Field whole' σ β} (restored : f.Restores g x)
    {members : List (String × Json)} (h : sizeOf (Json.object members) ≤ sizeOf whole)
    (held : Entries.get? members g.name = g.toJson? (g.project x)) (place : Nat) :
    f.value? (.object members) h place = some (g.project x) := by
  rw [← restored.name] at held
  unfold Field.value?
  split
  · rename_i absent
    exact restored.leftOut (held.symm.trans absent)
  · rename_i v present
    rw [restored.written v _ (held.symm.trans present)]
    rfl

/-- A structure is read from members that hold its fields. -/
theorem gatherFrom (restores : Restores x reader writer) {members : List (String × Json)}
    (h : sizeOf (Json.object members) ≤ sizeOf whole) (held : writer.HeldIn members x) :
    reader.gatherFrom (.object members) h = some (writer.rebuild x) := by
  induction restores with
  | build make =>
      rfl
  | field before restored ih =>
      obtain ⟨earlier, last⟩ := held
      simp only [Record.gatherFrom, gather] at ih ⊢
      rw [ih earlier, value?_field restored h last]
      rfl

/-- What one table writes, the other reads. -/
theorem fromJson (restores : Restores x reader writer) (distinct : writer.names.Nodup)
    (name : String) (h : sizeOf (Json.object (toMembers x writer)) ≤ sizeOf whole) :
    reader.fromJson name (.object (toMembers x writer)) h = .ok (writer.rebuild x) := by
  apply Reading.eq_ok_of_toOption
  rw [toOption_fromJson, Json.holds, if_pos rfl]
  exact restores.gatherFrom h (heldIn_toMembers distinct x)

/-! #### Kinds of fields -/

section Kinds

variable {reader : Record whole σ (β → α)} {writer : Record whole' σ (β → α)} {name : String}
  {c : Codec β} {project : σ → β}

theorem required (before : Restores x reader writer) (restored : c.Restores (project x)) :
    Restores x (reader.required name c project) (writer.required name c project) :=
  .field before (Field.restores_of_written restored)

theorem withDefault (before : Restores x reader writer) {fallback : β}
    (restored : c.Restores (project x)) :
    Restores x (reader.withDefault name c fallback project)
      (writer.withDefault name c fallback project) :=
  .field before (Field.restores_of_written restored)

end Kinds

variable {reader : Record whole σ (Option β → α)} {writer : Record whole' σ (Option β → α)}
  {name : String} {project : σ → Option β}

theorem optional (before : Restores x reader writer) {c : Codec β}
    (kept : ∀ b, project x = some b → c.Keeps b) :
    Restores x (reader.optional name c project) (writer.optional name c project) := by
  refine .field before ⟨rfl, ?_, ?_⟩
  · intro v h written
    obtain ⟨b, holds, rfl⟩ := Option.map_eq_some_iff.mp written
    have holds : project x = some b := holds
    have present : c.toJson b ≠ .null := (kept b holds).present
    have restored : c.fromJson (c.toJson b) = .ok b := (kept b holds).restored
    change c.option.fromJson (c.toJson b) = .ok (project x)
    rw [Codec.fromJson_option present, restored, holds]
    rfl
  · intro leftOut
    have none : project x = none := Option.map_eq_none_iff.mp leftOut
    exact congrArg some none.symm

/-- A smaller structure that is present is read as it would be if it could not be missing. -/
theorem fromJson_nested {fromJson : (v : Json) → sizeOf v < sizeOf whole → Except DecodeError β}
    {v : Json} (h : sizeOf v < sizeOf whole) :
    v ≠ .null → (match v, h with
      | .null, _ => .ok none
      | v, h => (fromJson v h).map some) = (fromJson v h).map some := by
  intro present
  cases v with
  | null =>
      exact absurd rfl present
  | _ =>
      rfl

/-- A field that holds a smaller structure of the kind being read. -/
theorem nested (before : Restores x reader writer)
    {fromJson : (v : Json) → sizeOf v < sizeOf whole → Except DecodeError β}
    {fromJson' : (v : Json) → sizeOf v < sizeOf whole' → Except DecodeError β}
    {fromWritten fromWritten' : Written → Except DecodeError β}
    {toJson? toJson?' : Option β → Option Json} (toJson : β → Json)
    (written : toJson?' (project x) = (project x).map toJson)
    (kept : ∀ b, project x = some b → toJson b ≠ .null ∧ ∀ h, fromJson (toJson b) h = .ok b) :
    Restores x (reader.nested name fromJson fromWritten toJson? project)
      (writer.nested name fromJson' fromWritten' toJson?' project) := by
  refine .field before ⟨rfl, ?_, ?_⟩
  · intro v h shown
    obtain ⟨b, holds, rfl⟩ := Option.map_eq_some_iff.mp (written.symm.trans shown)
    obtain ⟨present, restored⟩ := kept b holds
    refine (fromJson_nested h present).trans ?_
    rw [restored]
    exact congrArg Except.ok holds.symm
  · intro leftOut
    have none : project x = none := Option.map_eq_none_iff.mp (written.symm.trans leftOut)
    exact congrArg some none.symm

end Restores

/-- A structure is kept if its fields are restored and have different names.  The table with which
it is written need not be the one with which it is read. -/
theorem keeps_of_tables {c : Codec α} {x : α} {name : String}
    {reader : (whole : Json) → Record whole α α} {writer : Record whole' α α}
    (fields : ∀ whole, Restores x (reader whole) writer) (distinct : writer.names.Nodup)
    (rebuilt : writer.rebuild x = x) (written : c.toJson x = .object (toMembers x writer))
    (read : ∀ v, c.fromJson v = (reader v).fromJson name v (Nat.le_refl _)) : c.Keeps x := by
  constructor
  · calc c.fromJson (c.toJson x)
        = (reader (.object (toMembers x writer))).fromJson name (.object (toMembers x writer))
            (Nat.le_refl _) := by rw [written, read]
      _ = .ok (writer.rebuild x) := (fields _).fromJson distinct name (Nat.le_refl _)
      _ = .ok x := by rw [rebuilt]
  · rw [written]
    nofun

theorem keeps_codec {name : String} {r : (whole : Json) → Record whole α α} {x : α}
    (fields : ∀ whole, Restores x (r whole) (r .null)) (distinct : (r .null).names.Nodup)
    (rebuilt : (r .null).rebuild x = x) : (codec name r).Keeps x :=
  keeps_of_tables fields distinct rebuilt rfl fun _ => rfl

end Record

end Structures

end ServerDriven
