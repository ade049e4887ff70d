/-
Module: ServerDriven.Proofs.Codec.AlikeValues
Purpose: Values that are alike are read alike: the simple ones, and structures whose fields are.
Main exports:
  Codec.ReadsAlike, Codec.readsAlike_list, Codec.readsAlike_dictionary, Json.SlotsAlike,
  Field.AgreesWith, Record.Agree, Record.Agree.fromJson
-/
import Mathlib.Data.List.Forall2
import ServerDriven.Proofs.Codec.Restored

namespace ServerDriven

/-!
Two values are read alike if both are read, with results that are alike, or neither is.  Which error
is blamed does not matter.  How values may differ depends on the name of the field for which they
stand.
-/

theorem rel_eq_refl {α : Type} (x? : Option α) : Option.Rel Eq x? x? := by
  cases x? with
  | none => exact .none
  | some x => exact .some rfl

theorem eq_of_rel_eq {α : Type} {x? y? : Option α} (related : Option.Rel Eq x? y?) : x? = y? := by
  cases related with
  | none => rfl
  | some same => exact congrArg some same

namespace Codec

variable {α β : Type}

/-- Values that are alike are read alike. -/
def ReadsAlike (c : Codec α) (alike : Json → Json → Prop) (same : α → α → Prop) : Prop :=
  ∀ v v', alike v v' → Option.Rel same (c.fromJson v).toOption (c.fromJson v').toOption

theorem readsAlike_eq (c : Codec α) : c.ReadsAlike Eq Eq := by
  rintro v _ rfl
  exact rel_eq_refl _

theorem rel_toOption_bind {same : α → α → Prop} {same' : β → β → Prop}
    {result result' : Except DecodeError α} {next next' : α → Except DecodeError β}
    (related : Option.Rel same result.toOption result'.toOption)
    (later : ∀ x x', same x x' → Option.Rel same' (next x).toOption (next' x').toOption) :
    Option.Rel same' (result >>= next).toOption (result' >>= next').toOption := by
  cases result with
  | error e =>
      cases result' with
      | error e' => exact .none
      | ok x' => cases related
  | ok x =>
      cases result' with
      | error e' => cases related
      | ok x' =>
          cases related with
          | some holds => exact later x x' holds

theorem rel_toOption_map {same : α → α → Prop} {same' : β → β → Prop}
    {result result' : Except DecodeError α} {f f' : α → β}
    (related : Option.Rel same result.toOption result'.toOption)
    (next : ∀ x x', same x x' → same' (f x) (f' x')) :
    Option.Rel same' (result.map f).toOption (result'.map f').toOption := by
  change Option.Rel same' (f <$> result).toOption (f' <$> result').toOption
  rw [map_eq_pure_bind, map_eq_pure_bind]
  exact rel_toOption_bind related fun x x' holds => .some (next x x' holds)

/-! ### Lists, dictionaries and values that may be missing -/

/-- Items that are read alike, one by one, are read alike together. -/
theorem rel_toOption_mapM {ι : Type} {read : ι → Except DecodeError α} {same : α → α → Prop}
    {items items' : List ι}
    (each : List.Forall₂ (fun v v' => Option.Rel same (read v).toOption (read v').toOption) items
      items') :
    Option.Rel (List.Forall₂ same) (items.mapM read).toOption (items'.mapM read).toOption := by
  induction each with
  | nil =>
      exact .some .nil
  | cons first _ ih =>
      rw [List.mapM_cons, List.mapM_cons]
      exact rel_toOption_bind first fun x x' holds =>
        rel_toOption_bind ih fun xs xs' all => .some (.cons holds all)

theorem readsAlike_list {c : Codec α} {alike : Json → Json → Prop} {same : α → α → Prop}
    (reads : c.ReadsAlike alike same) {items items' : List Json}
    (each : List.Forall₂ alike items items') :
    Option.Rel (List.Forall₂ same) ((list c).fromJson (.array items)).toOption
      ((list c).fromJson (.array items')).toOption :=
  rel_toOption_mapM (each.imp reads)

/-- Entries under the same keys, in the same order, whose values are alike. -/
def SameKeys (alike : Json → Json → Prop) (entry entry' : String × Json) : Prop :=
  entry.1 = entry'.1 ∧ alike entry.2 entry'.2

theorem readsAlike_dictionary {c : Codec α} {alike : Json → Json → Prop}
    (reads : c.ReadsAlike alike Eq) {members members' : List (String × Json)}
    (each : List.Forall₂ (SameKeys alike) members members') :
    Option.Rel Eq ((dictionary c).fromJson (.object members)).toOption
      ((dictionary c).fromJson (.object members')).toOption := by
  have entries : Option.Rel (List.Forall₂ Eq) (members.mapM c.member).toOption
      (members'.mapM c.member).toOption := by
    refine rel_toOption_mapM (each.imp ?_)
    rintro ⟨key, v⟩ ⟨_, v'⟩ ⟨rfl, same⟩
    exact rel_toOption_map (reads _ _ same) fun x x' equal => congrArg (Prod.mk key) equal
  refine rel_toOption_map entries fun xs xs' equal => ?_
  rw [List.forall₂_eq_eq_eq] at equal
  exact congrArg Dictionary.ofList equal

/-- Null is a missing value for both, or for neither. -/
def TellsNull (alike : Json → Json → Prop) : Prop :=
  ∀ v v', alike v v' → (v = .null ↔ v' = .null)

theorem readsAlike_option {c : Codec α} {alike : Json → Json → Prop} (nulls : TellsNull alike)
    (reads : c.ReadsAlike alike Eq) : c.option.ReadsAlike alike Eq := by
  intro v v' same
  by_cases null : v = .null
  · rw [null, (nulls _ _ same).mp null]
    exact .some rfl
  · rw [fromJson_option null, fromJson_option (mt (nulls _ _ same).mpr null)]
    exact rel_toOption_map (reads _ _ same) fun x x' equal => congrArg some equal

end Codec

/-! ### Structures -/

/-- Two values hold alike what a structure with certain names is read from.  What else is in them
does not matter, nor does the order of the members of an object. -/
structure Json.SlotsAlike (alike : String → Json → Json → Prop) (names : List String)
    (v v' : Json) : Prop where
  holds : v.holds names.length = v'.holds names.length
  slots : ∀ {place name}, names[place]? = some name →
    Option.Rel (alike name) (v.slot? place name) (v'.slot? place name)

section Structures

variable {whole whole' : Json} {σ α β : Type}

/-- Two fields of one name read values that are alike alike. -/
structure Field.AgreesWith (f : Field whole σ β) (g : Field whole' σ β)
    (alike : Json → Json → Prop) (same : β → β → Prop) : Prop where
  name : f.name = g.name
  absent : Option.Rel same f.fallback g.fallback
  present : ∀ {w w'} h h', alike w w' →
    Option.Rel same (f.fromJson w h).toOption (g.fromJson w' h').toOption

/-- A field is read alike from slots that are alike. -/
theorem Field.AgreesWith.value? {f : Field whole σ β} {g : Field whole' σ β}
    {alike : Json → Json → Prop} {same : β → β → Prop} (agrees : f.AgreesWith g alike same)
    {v v' : Json} (h : sizeOf v ≤ sizeOf whole) (h' : sizeOf v' ≤ sizeOf whole') {place : Nat}
    (slots : Option.Rel alike (v.slot? place f.name) (v'.slot? place f.name)) :
    Option.Rel same (f.value? v h place) (g.value? v' h' place) := by
  rw [agrees.name] at slots
  have name := agrees.name
  unfold Field.value?
  split
  · rename_i absent
    rw [name] at absent
    rw [absent] at slots
    split
    · exact agrees.absent
    · rename_i present
      rw [present] at slots
      cases slots
  · rename_i w present
    rw [name] at present
    rw [present] at slots
    split
    · rename_i absent
      rw [absent] at slots
      cases slots
    · rename_i w' present'
      rw [present'] at slots
      cases slots with
      | some holds => exact agrees.present _ _ holds

/-- A field whose reading does not ask how small its value is reads equal values alike. -/
theorem Field.agreesWith_of_plain {f : Field whole σ β} {g : Field whole' σ β}
    (read : Json → Except DecodeError β) (plain : ∀ w h, f.fromJson w h = read w)
    (plain' : ∀ w h, g.fromJson w h = read w) (name : f.name = g.name)
    (fallback : f.fallback = g.fallback) : f.AgreesWith g Eq Eq := by
  refine ⟨name, ?_, ?_⟩
  · rw [fallback]
    exact rel_eq_refl _
  · rintro w _ h h' rfl
    rw [plain, plain']
    exact rel_eq_refl _

/-- Functions that lead from results that are alike to results that are alike. -/
def Lift (before : β → β → Prop) (after : α → α → Prop) (f f' : β → α) : Prop :=
  ∀ x x', before x x' → after (f x) (f' x')

namespace Record

/-- Two tables read values that are alike alike, field by field. -/
inductive Agree (alike : String → Json → Json → Prop) :
    {α : Type} → (α → α → Prop) → Record whole σ α → Record whole' σ α → Prop where
  | build {α : Type} {same : α → α → Prop} {make make' : α} (holds : same make make') :
      Agree alike same (.build make) (.build make')
  | field {α β : Type} {same : α → α → Prop} {sameField : β → β → Prop}
      {r : Record whole σ (β → α)} {r' : Record whole' σ (β → α)} {f : Field whole σ β}
      {g : Field whole' σ β} (before : Agree alike (Lift sameField same) r r')
      (agrees : f.AgreesWith g (alike f.name) sameField) :
      Agree alike same (r.field f) (r'.field g)

theorem size_eq (r : Record whole σ α) : r.size = r.names.length := by
  induction r with
  | build make =>
      rfl
  | field before f ih =>
      rw [size, names, List.length_append, ih]
      rfl

namespace Agree

variable {alike : String → Json → Json → Prop} {same : α → α → Prop} {r : Record whole σ α}
  {r' : Record whole' σ α}

theorem names_eq (agree : Agree alike same r r') : r.names = r'.names := by
  induction agree with
  | build holds =>
      rfl
  | field before agrees ih =>
      rw [names, names, ih, agrees.name]

/-- Structures are put together alike from slots that are alike. -/
theorem gatherFrom (agree : Agree alike same r r') {v v' : Json} (h : sizeOf v ≤ sizeOf whole)
    (h' : sizeOf v' ≤ sizeOf whole')
    (slots : ∀ {place name}, r.names[place]? = some name →
      Option.Rel (alike name) (v.slot? place name) (v'.slot? place name)) :
    Option.Rel same (r.gatherFrom v h) (r'.gatherFrom v' h') := by
  induction agree with
  | build holds =>
      exact .some holds
  | @field _ _ _ sameField r r' f g before agrees ih =>
      have earlier := ih fun {place name} found => by
        refine slots ?_
        rw [names, List.getElem?_append_left (List.getElem?_eq_some_iff.mp found).1]
        exact found
      have last : Option.Rel sameField (f.value? v h r.size) (g.value? v' h' r'.size) := by
        rw [r'.size_eq, ← before.names_eq, ← r.size_eq]
        refine agrees.value? h h' (slots ?_)
        rw [names, size_eq, List.getElem?_concat_length]
      change Option.Rel _ ((r.gatherFrom v h).bind fun make => (f.value? v h r.size).map make)
        ((r'.gatherFrom v' h').bind fun make => (g.value? v' h' r'.size).map make)
      generalize r.gatherFrom v h = make? at earlier
      generalize r'.gatherFrom v' h' = make?' at earlier
      generalize f.value? v h r.size = x? at last
      generalize g.value? v' h' r'.size = x?' at last
      cases earlier with
      | none =>
          exact .none
      | some makes =>
          cases last with
          | none => exact .none
          | some holds => exact .some (makes _ _ holds)

/-- Structures are read alike from values that hold their fields alike. -/
theorem fromJson (agree : Agree alike same r r') {v v' : Json} (h : sizeOf v ≤ sizeOf whole)
    (h' : sizeOf v' ≤ sizeOf whole') (slots : Json.SlotsAlike alike r.names v v')
    (name name' : String) :
    Option.Rel same (r.fromJson name v h).toOption (r'.fromJson name' v' h').toOption := by
  rw [toOption_fromJson, toOption_fromJson, r'.size_eq, ← agree.names_eq, r.size_eq, slots.holds]
  split
  · exact agree.gatherFrom h h' slots.slots
  · exact .none

/-! #### Kinds of fields -/

/-- Equal functions lead to equal results. -/
theorem lift_eq {r : Record whole σ (β → α)} {r' : Record whole' σ (β → α)}
    (agree : Agree alike Eq r r') : Agree alike (Lift Eq Eq) r r' := by
  have equal : (Lift Eq Eq : (β → α) → (β → α) → Prop) = Eq := by
    funext f f'
    simp [Lift, funext_iff]
  rwa [equal]

section Kinds

variable {r : Record whole σ (β → α)} {r' : Record whole' σ (β → α)} {name : String}
  {c : Codec β} {sameField : β → β → Prop} {project : σ → β}

theorem required (before : Agree alike (Lift sameField same) r r')
    (reads : c.ReadsAlike (alike name) sameField) :
    Agree alike same (r.required name c project) (r'.required name c project) :=
  .field before ⟨rfl, .none, fun _ _ => reads _ _⟩

theorem withDefault (before : Agree alike (Lift sameField same) r r') {fallback : β}
    (reads : c.ReadsAlike (alike name) sameField) (default : sameField fallback fallback) :
    Agree alike same (r.withDefault name c fallback project)
      (r'.withDefault name c fallback project) :=
  .field before ⟨rfl, .some default, fun _ _ => reads _ _⟩

end Kinds

section Kinds

variable {r : Record whole σ (Option β → α)} {r' : Record whole' σ (Option β → α)} {name : String}
  {project : σ → Option β}

theorem optional (before : Agree alike (Lift Eq same) r r') {c : Codec β}
    (nulls : Codec.TellsNull (alike name)) (reads : c.ReadsAlike (alike name) Eq) :
    Agree alike same (r.optional name c project) (r'.optional name c project) :=
  .field before ⟨rfl, .some rfl, fun _ _ => Codec.readsAlike_option nulls reads _ _⟩

theorem nested (before : Agree alike (Lift Eq same) r r') (nulls : Codec.TellsNull (alike name))
    {fromJson : (v : Json) → sizeOf v < sizeOf whole → Except DecodeError β}
    {fromJson' : (v : Json) → sizeOf v < sizeOf whole' → Except DecodeError β}
    {fromWritten fromWritten' : Written → Except DecodeError β}
    {toJson? toJson?' : Option β → Option Json}
    (reads : ∀ w w' h h', alike name w w' →
      Option.Rel Eq (fromJson w h).toOption (fromJson' w' h').toOption) :
    Agree alike same (r.nested name fromJson fromWritten toJson? project)
      (r'.nested name fromJson' fromWritten' toJson?' project) := by
  refine .field before ⟨rfl, .some rfl, ?_⟩
  intro w w' h h' holds
  by_cases null : w = .null
  · obtain rfl := (nulls _ _ holds).mp null
    subst null
    exact .some rfl
  · refine (congrArg₂ (fun x y => Option.Rel Eq x.toOption y.toOption)
      (Restores.fromJson_nested h null)
      (Restores.fromJson_nested h' (mt (nulls _ _ holds).mpr null))).mpr ?_
    exact Codec.rel_toOption_map (reads w w' h h' holds) fun x x' equal => congrArg some equal

end Kinds

end Agree

end Record

end Structures

end ServerDriven
