/-
Module: ServerDriven.Proofs.Codec.RecordReading
Purpose: What reading a structure from a value comes to, apart from which of several errors is
  blamed: each field is read from its own place, and the structure is there when all fields are.
Main exports:
  Json.slot?, Json.holds, Field.value?, Record.gather, Record.gatherFrom,
  Record.toOption_fromJson, Record.bind_field
-/
import ServerDriven.Codec.Record

namespace ServerDriven

/-!
A reading blames the first error in the text, so that its result depends on where things stand.
Whether it succeeds, and with what, does not: a field is looked up in its own slot, and no field
looks into the slot of another.
-/

/-! ### Slots -/

namespace Json

/-- What stands for a field: the member of that name in an object, the item in that place in an
array. -/
def slot? (v : Json) (place : Nat) (name : String) : Option Json :=
  match v with
  | .object members => Entries.get? members name
  | .array items => items[place]?
  | _ => none

/-- Whether a value may stand for a structure of so many fields: an object may, and so may an array
that is not too long. -/
def holds (size : Nat) : Json → Bool
  | .object _ => true
  | .array items => items.length ≤ size
  | _ => false

/-- What stands for a field is smaller than the whole. -/
theorem sizeOf_lt_of_slot? {v w : Json} {place : Nat} {name : String}
    (h : v.slot? place name = some w) : sizeOf w < sizeOf v := by
  cases v with
  | object members =>
      exact sizeOf_lt_of_get? h
  | array items =>
      have mem : w ∈ items := List.mem_of_getElem? h
      have := List.sizeOf_lt_of_mem mem
      simp only [array.sizeOf_spec]
      omega
  | _ =>
      cases h

end Json

/-! ### Errors left out -/

namespace Reading

variable {α β : Type}

/-- Two readings succeed together when both do. -/
theorem toOption_both (first : Reading (β → α)) (second : Reading β) :
    (both first second).toOption = first.toOption.bind fun f => second.toOption.map f := by
  cases first with
  | ok f =>
      cases second <;> rfl
  | error e =>
      cases second with
      | ok b =>
          rfl
      | error e' =>
          unfold both
          dsimp only
          split <;> rfl

theorem toOption_result (reading : Reading α) : reading.result.toOption = reading.toOption := by
  cases reading <;> rfl

theorem eq_ok_of_toOption {ε : Type} {result : Except ε α} {x : α}
    (h : result.toOption = some x) : result = .ok x := by
  cases result with
  | ok y =>
      exact congrArg Except.ok (Option.some.inj h)
  | error e =>
      cases h

end Reading

section Members

variable {ω : Type} (members : List (String × ω)) (name : String)

/-- The first member of a name is the one that is found under it. -/
theorem map_snd_head?_membersNamed :
    (membersNamed members name).head?.map Prod.snd = Entries.get? members name := by
  suffices aux : ∀ place, ((((members.zipIdx place).filter fun entry => entry.1.1 = name).map
      fun entry => (entry.2, entry.1.2)).head?.map Prod.snd) = Entries.get? members name from aux 0
  induction members with
  | nil =>
      intro place
      rfl
  | cons member rest ih =>
      intro place
      obtain ⟨key, w⟩ := member
      rw [Entries.get?_cons, List.zipIdx_cons]
      by_cases same : name = key
      · simp [same]
      · simpa [same, Ne.symm same] using ih (place + 1)

end Members

/-- A look-up in entries that have been changed one by one. -/
theorem Entries.get?_map {α β : Type} (g : α → β) (entries : Entries α) (key : String) :
    Entries.get? (entries.map fun entry => (entry.1, g entry.2)) key =
      (Entries.get? entries key).map g := by
  induction entries with
  | nil =>
      rfl
  | cons entry rest ih =>
      obtain ⟨k, v⟩ := entry
      rw [List.map_cons, get?_cons, get?_cons, ih]
      split <;> rfl

namespace Field

variable {whole : Json} {σ β ω : Type} (f : Field whole σ β)

/-- The value of a field, from what stands for it in a value. -/
def value? (v : Json) (h : sizeOf v ≤ sizeOf whole) (place : Nat) : Option β :=
  match found : v.slot? place f.name with
  | none => f.fallback
  | some w => (f.fromJson w (Nat.lt_of_lt_of_le (Json.sizeOf_lt_of_slot? found) h)).toOption

/-- A field is read from the member of its name, wherever that stands. -/
theorem toOption_ofMembers (read : ω → Except DecodeError β) (members : List (String × ω))
    (place : Nat) :
    (f.ofMembers read true members place).toOption =
      (Entries.get? members f.name).elim f.fallback fun w => (read w).toOption := by
  rw [← map_snd_head?_membersNamed]
  unfold ofMembers
  cases membersNamed members f.name with
  | nil =>
      cases f.fallback <;> rfl
  | cons entry rest =>
      obtain ⟨i, w⟩ := entry
      simp only [List.head?_cons, Option.map_some, Option.elim_some]
      cases read w with
      | error e =>
          rfl
      | ok b =>
          cases rest <;> rfl

/-- A field is read from the item in its place. -/
theorem toOption_ofItems (read : ω → Except DecodeError β) (expected : String) (items : List ω)
    (place : Nat) :
    (f.ofItems read expected items place).toOption =
      items[place]?.elim f.fallback fun w => (read w).toOption := by
  unfold ofItems
  cases items[place]? with
  | none =>
      cases f.fallback <;> rfl
  | some w =>
      simp only [Option.elim_some]
      cases read w <;> rfl

/-- The value of a field, from what is known to be smaller than the whole. -/
theorem value?_eq {v : Json} (h : sizeOf v ≤ sizeOf whole) {place : Nat}
    {small? : Option { w : Json // sizeOf w < sizeOf whole }}
    (found : small?.map Subtype.val = v.slot? place f.name) :
    f.value? v h place = small?.elim f.fallback fun w => (f.fromJson w.1 w.2).toOption := by
  unfold value?
  split
  · rename_i absent
    rw [absent, Option.map_eq_none_iff] at found
    rw [found]
    rfl
  · rename_i w present
    rw [present, Option.map_eq_some_iff] at found
    obtain ⟨small, rfl, rfl⟩ := found
    rfl

/-- The value of a field whose reading does not ask how small its value is. -/
theorem value?_of_plain (read : Json → Except DecodeError β)
    (plain : ∀ w h, f.fromJson w h = read w) (v : Json) (h : sizeOf v ≤ sizeOf whole)
    (place : Nat) :
    f.value? v h place =
      (v.slot? place f.name).elim f.fallback fun w => (read w).toOption := by
  unfold value?
  split
  · rename_i absent
    rw [absent]
    rfl
  · rename_i w present
    rw [plain, present]
    rfl

end Field

namespace Record

variable {whole : Json} {σ : Type}

/-- Put a structure together from the values of its fields, each of which has a place and a name. -/
def gather (value? : {β : Type} → Nat → Field whole σ β → Option β) :
    {α : Type} → Record whole σ α → Option α
  | _, .build make => some make
  | _, .field before f =>
    (gather value? before).bind fun make => (value? before.size f).map make

section

variable {α ω : Type} {value?' : {β : Type} → Nat → Field whole σ β → Option β}
  (read : {β : Type} → Field whole σ β → ω → Except DecodeError β)

theorem toOption_ofMembers (members : List (String × ω))
    (agree : ∀ {β : Type} (place : Nat) (f : Field whole σ β),
      (f.ofMembers (read f) true members place).toOption = value?' place f)
    (r : Record whole σ α) :
    (r.ofMembers read true members).toOption = r.gather value?' := by
  induction r with
  | build make =>
      rfl
  | field before f ih =>
      rw [ofMembers, Reading.toOption_both, ih, agree]
      rfl

theorem toOption_ofItems (expected : String) (items : List ω)
    (agree : ∀ {β : Type} (place : Nat) (f : Field whole σ β),
      (f.ofItems (read f) expected items place).toOption = value?' place f)
    (r : Record whole σ α) :
    (r.ofItems read expected items).toOption = r.gather value?' := by
  induction r with
  | build make =>
      rfl
  | field before f ih =>
      rw [ofItems, Reading.toOption_both, ih, agree]
      rfl

end

variable {α : Type}

/-- What the fields of a table come to in a value. -/
abbrev gatherFrom (v : Json) (h : sizeOf v ≤ sizeOf whole) (r : Record whole σ α) : Option α :=
  r.gather fun place f => f.value? v h place

/-- The items of an array are put together as the values in its slots. -/
theorem toOption_of_items {items : List Json} {h : sizeOf (Json.array items) ≤ sizeOf whole}
    {expected : String} {bounded : List { w : Json // sizeOf w < sizeOf whole }}
    (same : bounded.map Subtype.val = items) {r : Record whole σ α} {reading : Except DecodeError α}
    (done : (ofItems (fun f w => f.fromJson w.1 w.2) expected bounded r).result = reading) :
    reading.toOption = r.gatherFrom (.array items) h := by
  rw [← done, Reading.toOption_result]
  refine toOption_ofItems _ _ _ (fun place f => ?_) r
  rw [Field.toOption_ofItems]
  refine (f.value?_eq h ?_).symm
  rw [← List.getElem?_map, same]
  rfl

/-- Reading a structure from a value succeeds when the value may stand for it and each field can be
read from its own slot. -/
theorem toOption_fromJson (name : String) (r : Record whole σ α) (v : Json)
    (h : sizeOf v ≤ sizeOf whole) :
    (r.fromJson name v h).toOption =
      if v.holds r.size then r.gatherFrom v h else none := by
  cases v with
  | object members =>
      unfold fromJson
      rw [Reading.toOption_result]
      refine toOption_ofMembers _ _ (fun place f => ?_) r
      rw [Field.toOption_ofMembers]
      refine (f.value?_eq h ?_).symm
      rw [← Entries.get?_map, List.map_map]
      exact congrArg (Entries.get? · f.name) (List.attach_map_subtype_val members)
  | array items =>
      unfold fromJson Json.holds
      dsimp only
      split
      · rename_i e failed
        rw [← toOption_of_items ((List.map_map ..).trans (List.attach_map_subtype_val items)) failed]
        split <;> rfl
      · rename_i x done
        rw [← toOption_of_items ((List.map_map ..).trans (List.attach_map_subtype_val items)) done]
        by_cases long : r.size < items.length
        · simp [long, Nat.not_le.mpr long, Except.toOption]
        · simp [long, Nat.not_lt.mp long]
  | _ =>
      rfl

/-- What has been read is put together from the fields. -/
theorem gatherFrom_of_fromJson {name : String} {r : (whole : Json) → Record whole α α} {v : Json}
    {x : α} (done : (codec name r).fromJson v = .ok x) :
    (r v).gatherFrom v (Nat.le_refl _) = some x := by
  have read := toOption_fromJson name (r v) v (Nat.le_refl _)
  change ((codec name r).fromJson v).toOption = _ at read
  rw [done] at read
  split at read
  · exact read.symm
  · cases read

/-! ### Kinds of fields -/

section Kinds

variable {β : Type} {v : Json} (h : sizeOf v ≤ sizeOf whole)

@[simp] theorem size_required (before : Record whole σ (β → α)) (name : String) (c : Codec β)
    (project : σ → β) : (before.required name c project).size = before.size + 1 := rfl

@[simp] theorem size_withDefault (before : Record whole σ (β → α)) (name : String) (c : Codec β)
    (fallback : β) (project : σ → β) :
    (before.withDefault name c fallback project).size = before.size + 1 := rfl

@[simp] theorem size_optional (before : Record whole σ (Option β → α)) (name : String)
    (c : Codec β) (project : σ → Option β) :
    (before.optional name c project).size = before.size + 1 := rfl

variable {γ : Type}

theorem bind_build (make : α) (k : α → Option γ) :
    ((build make : Record whole σ α).gatherFrom v h).bind k = k make := rfl

/-- A field is read after those before it, and what is done with the whole is done then. -/
theorem bind_field (before : Record whole σ (β → α)) (f : Field whole σ β) (k : α → Option γ) :
    ((before.field f).gatherFrom v h).bind k =
      (before.gatherFrom v h).bind fun make =>
        (f.value? v h before.size).bind fun x => k (make x) := by
  change ((before.gatherFrom v h).bind fun make => (f.value? v h before.size).map make).bind k = _
  cases before.gatherFrom v h with
  | none =>
      rfl
  | some make =>
      dsimp only [Option.bind_some]
      cases f.value? v h before.size with
      | none =>
          rfl
      | some x =>
          rfl

theorem bind_required (before : Record whole σ (β → α)) (name : String) (c : Codec β)
    (project : σ → β) (k : α → Option γ) :
    ((before.required name c project).gatherFrom v h).bind k =
      (before.gatherFrom v h).bind fun make =>
        ((v.slot? before.size name).bind fun w => (c.fromJson w).toOption).bind fun x =>
          k (make x) := by
  unfold required
  rw [bind_field, Field.value?_of_plain _ c.fromJson fun _ _ => rfl]
  cases v.slot? before.size name <;> rfl

theorem bind_withDefault (before : Record whole σ (β → α)) (name : String) (c : Codec β)
    (fallback : β) (project : σ → β) (k : α → Option γ) :
    ((before.withDefault name c fallback project).gatherFrom v h).bind k =
      (before.gatherFrom v h).bind fun make =>
        ((v.slot? before.size name).elim (some fallback) fun w =>
          (c.fromJson w).toOption).bind fun x => k (make x) := by
  unfold withDefault
  rw [bind_field, Field.value?_of_plain _ c.fromJson fun _ _ => rfl]

theorem bind_optional (before : Record whole σ (Option β → α)) (name : String) (c : Codec β)
    (project : σ → Option β) (k : α → Option γ) :
    ((before.optional name c project).gatherFrom v h).bind k =
      (before.gatherFrom v h).bind fun make =>
        ((v.slot? before.size name).elim (some none) fun w =>
          (c.option.fromJson w).toOption).bind fun x => k (make x) := by
  unfold optional
  rw [bind_field, Field.value?_of_plain _ c.option.fromJson fun _ _ => rfl]

end Kinds

end Record

end ServerDriven
