/-
Module: ServerDriven.Codec.Record
Purpose: Structures as tables of fields, from which reading and writing are derived.
Main exports:
  Field, Record, Record.required, Record.withDefault, Record.optional, Record.codec
-/
import ServerDriven.Codec.Basic

namespace ServerDriven

/-!
A structure is read from an object by the names of its fields, or from an array by their order.
The result does not depend on the order in which the members of an object are written; only the
choice among several errors does, since the first one in the text counts and a missing field is
noticed last.  Members with other names are not read at all.

Values nested in the one being read are smaller than it, so that a structure may contain itself;
`whole` is the value being read.
-/

/-- One field: its name, what stands for it when it is missing, and how it is read and written. -/
structure Field (whole : Json) (σ β : Type) where
  name : String
  fallback : Option β
  fromJson : (v : Json) → sizeOf v < sizeOf whole → Except DecodeError β
  fromWritten : Nat → Written → Except DecodeError β
  /-- The value of the field in a structure. -/
  project : σ → β
  /-- The field's JSON form, unless the field is left out. -/
  toJson? : β → Option Json

/-- A table of fields, in the order of their declaration, with the function that builds the
structure `α` from their values. -/
inductive Record (whole : Json) (σ : Type) : Type → Type 1 where
  | build {α : Type} (make : α) : Record whole σ α
  | field {α β : Type} (before : Record whole σ (β → α)) (f : Field whole σ β) : Record whole σ α

/-- An error, and where in the text it stands. -/
abbrev Reading (α : Type) := Except (Nat × DecodeError) α

namespace Reading

variable {α β : Type}

/-- Two readings of the same text: of two errors, the earlier one. -/
def both : Reading (β → α) → Reading β → Reading α
  | .ok f, .ok b => .ok (f b)
  | .ok _, .error e => .error e
  | .error e, .ok _ => .error e
  | .error (i, e), .error (j, e') => if j < i then .error (j, e') else .error (i, e)

def result : Reading α → Except DecodeError α
  | .ok x => .ok x
  | .error e => .error e.2

end Reading

/-- The members with a given name, each with its place. -/
def membersNamed {ω : Type} (members : List (String × ω)) (name : String) : List (Nat × ω) :=
  (members.zipIdx.filter fun entry => entry.1.1 = name).map fun entry => (entry.2, entry.1.2)

namespace Field

variable {whole : Json} {σ β ω : Type}

/-- Read a field from the members of an object.  `place` is the field's place in the table; it
orders missing fields after everything that is written. -/
def ofMembers (f : Field whole σ β) (read : ω → Except DecodeError β) (repeats : Bool)
    (members : List (String × ω)) (place : Nat) : Reading β :=
  match membersNamed members f.name with
  | [] =>
    match f.fallback with
    | some b => .ok b
    | none => .error (members.length + place, .missingField f.name)
  | (i, w) :: rest =>
    match read w, rest with
    | .error e, _ => .error (i, e)
    | .ok b, [] => .ok b
    | .ok b, (j, _) :: _ => if repeats then .ok b else .error (j, .duplicateField f.name)

/-- Read a field from the items of an array. -/
def ofItems (f : Field whole σ β) (read : ω → Except DecodeError β) (expected : String)
    (items : List ω) (place : Nat) : Reading β :=
  match items[place]? with
  | some w =>
    match read w with
    | .ok b => .ok b
    | .error e => .error (place, e)
  | none =>
    match f.fallback with
    | some b => .ok b
    | none => .error (place, .invalidLength place expected)

end Field

namespace Record

variable {whole : Json} {σ : Type}

/-! ### Tables -/

section

variable {α β : Type}

/-- A field that has to be present. -/
def required (before : Record whole σ (β → α)) (name : String) (c : Codec β) (project : σ → β) :
    Record whole σ α :=
  before.field ⟨name, none, fun v _ => c.fromJson v, c.fromWritten, project, some ∘ c.toJson⟩

/-- A field that takes a default value when it is missing, and is always written. -/
def withDefault (before : Record whole σ (β → α)) (name : String) (c : Codec β) (fallback : β)
    (project : σ → β) : Record whole σ α :=
  before.field
    ⟨name, some fallback, fun v _ => c.fromJson v, c.fromWritten, project, some ∘ c.toJson⟩

/-- A field that may be missing or null, and is left out when there is no value. -/
def optional (before : Record whole σ (Option β → α)) (name : String) (c : Codec β)
    (project : σ → Option β) : Record whole σ α :=
  before.field
    ⟨name, some none, fun v _ => c.option.fromJson v, c.option.fromWritten, project,
      Option.map c.toJson⟩

/-- An optional field that holds a smaller structure of the kind being read. -/
def nested (before : Record whole σ (Option β → α)) (name : String)
    (fromJson : (v : Json) → sizeOf v < sizeOf whole → Except DecodeError β)
    (fromWritten : Written → Except DecodeError β) (toJson? : Option β → Option Json)
    (project : σ → Option β) : Record whole σ α :=
  before.field {
    name
    fallback := some none
    fromJson := fun v h =>
      match v, h with
      | .null, _ => .ok none
      | v, h => (fromJson v h).map some
    fromWritten := fun _ w =>
      match w with
      | .null => .ok none
      | w => (fromWritten w).map some
    project
    toJson? }

end

/-- The number of fields. -/
def size : {α : Type} → Record whole σ α → Nat
  | _, .build _ => 0
  | _, .field before _ => before.size + 1

/-- The names of the fields. -/
def names : {α : Type} → Record whole σ α → List String
  | _, .build _ => []
  | _, .field before f => before.names ++ [f.name]

/-! ### Reading -/

section

variable {ω : Type} (read : {β : Type} → Field whole σ β → ω → Except DecodeError β)

def ofMembers (repeats : Bool) (members : List (String × ω)) :
    {α : Type} → Record whole σ α → Reading α
  | _, .build make => .ok make
  | _, .field before f =>
    Reading.both (ofMembers repeats members before)
      (f.ofMembers (read f) repeats members before.size)

def ofItems (expected : String) (items : List ω) : {α : Type} → Record whole σ α → Reading α
  | _, .build make => .ok make
  | _, .field before f =>
    Reading.both (ofItems expected items before) (f.ofItems (read f) expected items before.size)

end

variable {α : Type}

/-- The wording of what was expected of an array. -/
def expected (name : String) (r : Record whole σ α) : String :=
  "struct " ++ name ++ " with " ++ toString r.size ++
    (if r.size = 1 then " element" else " elements")

/-- Read a structure from a value. -/
def fromJson (name : String) (r : Record whole σ α) (v : Json) (h : sizeOf v ≤ sizeOf whole) :
    Except DecodeError α :=
  match v, h with
  | .object members, h =>
    let members := members.attach.map fun ⟨(key, w), hw⟩ =>
      (key, (⟨w, by
        have := List.sizeOf_lt_of_mem hw
        simp at this h
        omega⟩ : { w : Json // sizeOf w < sizeOf whole }))
    (ofMembers (fun f w => f.fromJson w.1 w.2) true members r).result
  | .array items, h =>
    let bounded := items.attach.map fun ⟨w, hw⟩ =>
      (⟨w, by
        have := List.sizeOf_lt_of_mem hw
        simp at h
        omega⟩ : { w : Json // sizeOf w < sizeOf whole })
    match (ofItems (fun f w => f.fromJson w.1 w.2) (r.expected name) bounded r).result with
    | .error e => .error e
    | .ok x =>
      if r.size < items.length then
        .error (.invalidLength items.length "fewer elements in array")
      else .ok x
  | v, _ => .error (.invalidType (.ofJson v) ("struct " ++ name))

/-- The members of an object in a text, if all their names are readable. -/
def readableMembers (members : List (Option String × Written)) :
    Except DecodeError (List (String × Written)) :=
  members.mapM fun
    | (some key, w) => .ok (key, w)
    | (none, _) => .error .unreadable

/-- Read a structure from what is written in a text. -/
def fromWritten (name : String) (r : Record whole σ α) (depth : Nat) (w : Written) :
    Except DecodeError α :=
  match w, depth with
  | .object _, 0 | .array _, 0 => .error .unreadable
  | .object members, depth + 1 => do
    let members ← readableMembers members
    (ofMembers (fun f w => f.fromWritten depth w) false members r).result
  | .array items, depth + 1 =>
    match (ofItems (fun f w => f.fromWritten depth w) (r.expected name) items r).result with
    | .error e => .error e
    | .ok x => if r.size < items.length then .error .trailing else .ok x
  | w, depth =>
    Codec.viaValue (fun v => .error (.invalidType (.ofJson v) ("struct " ++ name))) depth w

/-! ### Writing -/

/-- The members of the object that stands for a structure. -/
def toMembers (x : σ) : {α : Type} → Record whole σ α → List (String × Json)
  | _, .build _ => []
  | _, .field before f =>
    toMembers x before ++ ((f.toJson? (f.project x)).map fun v => (f.name, v)).toList

/-- The codec of a structure. -/
def codec {α : Type} (name : String) (r : (whole : Json) → Record whole α α) : Codec α where
  fromJson v := fromJson name (r v) v (Nat.le_refl _)
  fromWritten depth w := fromWritten name (r .null) depth w
  toJson x := .object (toMembers x (r .null))

end Record

end ServerDriven
