/-
Module: ServerDriven.Proofs.Schema.ContainedFaults
Purpose: A value that is no node becomes a fallback node in its place, and harms neither the node
  above it nor those beside it.
Main exports:
  Node.own?, Node.childItems?, Node.WellFormed, Node.toOption_fromJson, Node.at?, Node.StandsAt,
  Node.at?_decode_iff, Node.faults_are_contained
-/
import ServerDriven.Proofs.Codec.RecordReading
import ServerDriven.Schema.Codec

namespace ServerDriven

/-! ### Fields of a node -/

/-- A field that may be missing or null. -/
def Json.mayHold {β : Type} (read : Json → Option β) : Option Json → Option (Option β)
  | none | some .null => some none
  | some w => (read w).map some

namespace Codec

variable {β : Type}

theorem toOption_string (w : Json) : (string.fromJson w).toOption = w.asString? := by
  cases w <;> rfl

theorem toOption_object (w : Json) : (object.fromJson w).toOption = w.asObject? := by
  cases w <;> rfl

theorem toOption_any (w : Json) : (any.fromJson w).toOption = some w := rfl

theorem toOption_list_any (w : Json) : ((list any).fromJson w).toOption = w.asArray? := by
  cases w with
  | array items =>
      have all : items.mapM any.fromJson = .ok items := by
        induction items with
        | nil =>
            rfl
        | cons item rest ih =>
            rw [List.mapM_cons, ih]
            rfl
      change (items.mapM any.fromJson).toOption = _
      rw [all]
      rfl
  | _ =>
      rfl

theorem toOption_option (c : Codec β) (w? : Option Json) :
    (w?.elim (some none) fun w => (c.option.fromJson w).toOption) =
      Json.mayHold (fun w => (c.fromJson w).toOption) w? := by
  cases w? with
  | none =>
      rfl
  | some w =>
      have read : ∀ reading : Except DecodeError β,
          (reading.map some).toOption = reading.toOption.map some := by
        intro reading
        cases reading <;> rfl
      cases w with
      | null =>
          rfl
      | _ =>
          exact read _

end Codec

namespace Node

/-- A node put together from its fields, given what has come of its children; nothing if one of the
fields is malformed. -/
def ofFields? (v : Json) (children? : Option (List Node)) : Option Node :=
  if v.holds 12 then do
    let id ← Json.mayHold Json.asString? (v.slot? 0 "id")
    let kind ← (v.slot? 1 "type").bind Json.asString?
    let name ← Json.mayHold Json.asString? (v.slot? 2 "name")
    let properties ← (v.slot? 3 "properties").elim (some []) Json.asObject?
    let style ← (v.slot? 4 "style").elim (some []) Json.asObject?
    let children ← children?
    let position ← Json.mayHold (fun w => (Position.codec.fromJson w).toOption)
      (v.slot? 6 "position")
    let data ← Json.mayHold some (v.slot? 7 "data")
    let dataSource ← Json.mayHold Json.asString? (v.slot? 8 "dataSource")
    let content ← Json.mayHold some (v.slot? 9 "content")
    let items ← Json.mayHold Json.asArray? (v.slot? 10 "items")
    let action ← Json.mayHold Json.asObject? (v.slot? 11 "action")
    return {
      id, kind, name, properties, style, children, position, data, dataSource, content, items,
      action }
  else none

/-- A node without its children; nothing if one of its own fields is malformed. -/
def own? (v : Json) : Option Node := ofFields? v (some [])

/-- The values in a list of children, which may be null. -/
def listed? : Json → Option (List Json)
  | .null => some []
  | .array items => some items
  | _ => none

/-- The values that are to be the children of a node; nothing if they are no list. -/
def childItems? (v : Json) : Option (List Json) := (v.slot? 5 "children").elim (some []) listed?

theorem toOption_childrenOf (w : Json) :
    (childrenOf w fun u _ => decode u).toOption = (listed? w).map (List.map decode) := by
  cases w with
  | array items =>
      have same : items.attach.map (fun item => decode item.1) = items.map decode :=
        List.attach_map_val
      exact congrArg some same
  | _ =>
      rfl

theorem value?_childrenField (v : Json) (h : sizeOf v ≤ sizeOf v)
    (fromWritten : Nat → Written → Except DecodeError (List Node))
    (toItems : List Node → List Json) :
    (childrenField (fun w _ => childrenOf w fun u _ => orFallback u (fromJson u)) fromWritten
        toItems : Field v Node (List Node)).value? v h 5 =
      (childItems? v).map (List.map decode) := by
  rw [Field.value?_of_plain _ (fun w => childrenOf w fun u _ => decode u) fun _ _ => rfl]
  unfold childItems?
  change (v.slot? 5 "children").elim (some []) _ = _
  cases v.slot? 5 "children" with
  | none =>
      rfl
  | some w =>
      exact toOption_childrenOf w

/-- A node is read field by field, and its children one by one. -/
theorem toOption_fromJson (v : Json) :
    (fromJson v).toOption = ofFields? v ((childItems? v).map (List.map decode)) := by
  rw [fromJson, Record.toOption_fromJson, ← Option.bind_fun_some (Record.gatherFrom _ _ _)]
  unfold record ofFields?
  -- The last field of the table is the outermost.
  rw [Record.bind_optional, Record.bind_optional, Record.bind_optional, Record.bind_optional,
    Record.bind_optional, Record.bind_optional, Record.bind_field, Record.bind_withDefault,
    Record.bind_withDefault, Record.bind_optional, Record.bind_required, Record.bind_optional,
    Record.bind_build]
  simp only [Record.size_optional, Record.size_required, Record.size_withDefault, Record.size,
    Nat.zero_add, Nat.reduceAdd, value?_childrenField, Codec.toOption_option,
    Codec.toOption_string, Codec.toOption_object, Codec.toOption_any, Codec.toOption_list_any,
    Option.bind_eq_bind, Option.pure_def]

/-- What is read first is read first in a part, too. -/
theorem bind_part {α β γ : Type} {x? : Option α} {whole : α → Option γ} {part : α → Option β}
    {rest : β → Option γ} (next : ∀ x, whole x = (part x).bind rest) :
    x?.bind whole = (x?.bind part).bind rest := by
  rw [Option.bind_assoc]
  exact congrArg x?.bind (funext next)

/-- What comes of the children does not touch the other fields. -/
theorem ofFields?_eq (v : Json) (children? : Option (List Node)) :
    ofFields? v children? =
      (own? v).bind fun own => children?.map fun children => { own with children } := by
  unfold own? ofFields?
  split
  · refine bind_part fun id => bind_part fun kind => bind_part fun name =>
      bind_part fun properties => bind_part fun style => ?_
    cases children? with
    | none =>
        exact (Option.bind_fun_none _).symm
    | some children =>
        simp only [Option.bind_eq_bind, Option.bind_some]
        exact bind_part fun position => bind_part fun data => bind_part fun dataSource =>
          bind_part fun content => bind_part fun items => bind_part fun action => rfl
  · rfl

/-! ### Nodes and fallback nodes -/

/-- A value has the fields of a node and a list of children, whatever is in the list. -/
def WellFormed (v : Json) : Prop := (own? v).isSome ∧ (childItems? v).isSome

instance (v : Json) : Decidable (WellFormed v) := inferInstanceAs (Decidable (_ ∧ _))

/-- A well-formed value is a node with its own fields, whose children stand for the values in its
list, one by one. -/
theorem fromJson_of_own {v : Json} {own : Node} {items : List Json} (fields : own? v = some own)
    (listed : childItems? v = some items) :
    fromJson v = .ok { own with children := items.map decode } := by
  have read := toOption_fromJson v
  rw [ofFields?_eq, fields, listed] at read
  exact Reading.eq_ok_of_toOption read

/-- Any other value is none. -/
theorem fromJson_of_not_wellFormed {v : Json} (malformed : ¬WellFormed v) :
    ∃ e, fromJson v = .error e := by
  have read := toOption_fromJson v
  rw [ofFields?_eq] at read
  cases result : fromJson v with
  | error e =>
      exact ⟨e, rfl⟩
  | ok node =>
      rw [result] at read
      obtain ⟨own, fields, rest⟩ := Option.bind_eq_some_iff.mp read.symm
      obtain ⟨children, listed, -⟩ := Option.map_eq_some_iff.mp rest
      refine absurd ⟨?_, ?_⟩ malformed
      · rw [fields]
        rfl
      · exact (Option.isSome_map).symm.trans (by rw [listed]; rfl)

theorem decode_of_own {v : Json} {own : Node} {items : List Json} (fields : own? v = some own)
    (listed : childItems? v = some items) :
    decode v = { own with children := items.map decode } := by
  rw [decode, fromJson_of_own fields listed]
  rfl

theorem decode_of_not_wellFormed {v : Json} (malformed : ¬WellFormed v) :
    ∃ e, fromJson v = .error e ∧ decode v = fallback v e.message := by
  obtain ⟨e, failed⟩ := fromJson_of_not_wellFormed malformed
  refine ⟨e, failed, ?_⟩
  rw [decode, failed]
  rfl

/-- A child without a kind is not held against the node above it; children that are no list are. -/
example :
    WellFormed (.object [("type", .string "column"), ("children", .array [.object []])]) ∧
      ¬WellFormed (.object []) ∧
      ¬WellFormed (.object [("type", .string "text"), ("children", .bool true)]) := by
  decide

/-- The properties of a node are in its value. -/
theorem properties_of_own {v : Json} {own : Node} (fields : own? v = some own) :
    own.properties = [] ∨ v.slot? 3 "properties" = some (.object own.properties) := by
  unfold own? ofFields? at fields
  split at fields
  · simp only [Option.bind_eq_bind, Option.bind_eq_some_iff] at fields
    obtain ⟨id, -, kind, -, name, -, properties, slot, style, -, children, -, position, -, data, -,
      dataSource, -, content, -, items, -, action, -, made⟩ := fields
    obtain rfl := congrArg Node.properties (Option.some.inj made)
    cases found : v.slot? 3 "properties" with
    | none =>
        rw [found] at slot
        exact .inl (Option.some.inj slot).symm
    | some w =>
        rw [found] at slot
        cases w with
        | object members =>
            obtain rfl := Option.some.inj slot
            exact .inr rfl
        | _ =>
            cases slot
  · cases fields

/-- No node is its own fallback node, which would have to hold the whole value in a property. -/
theorem decode_ne_fallback {v : Json} (formed : WellFormed v) (reason : String) :
    decode v ≠ fallback v reason := by
  obtain ⟨own, fields⟩ := Option.isSome_iff_exists.mp formed.1
  obtain ⟨items, listed⟩ := Option.isSome_iff_exists.mp formed.2
  rw [decode_of_own fields listed]
  intro same
  have held : own.properties = [("raw", v), ("error", .string reason)] :=
    congrArg Node.properties same
  rcases properties_of_own fields with none | slot
  · rw [none] at held
    cases held
  · rw [held] at slot
    have small := Json.sizeOf_lt_of_slot? slot
    have kept : Entries.get? [("raw", v), ("error", .string reason)] "raw" = some v := rfl
    have large := Json.sizeOf_lt_of_get? kept
    omega

/-- The list of children may be taken out of an object before its other fields are read. -/
theorem own?_put_children (members : List (String × Json)) (children : Json) :
    own? (.object (Entries.put "children" children members)) = own? (.object members) := by
  have same : ∀ {place : Nat} {name : String}, name ≠ "children" →
      Json.slot? (.object (Entries.put "children" children members)) place name =
        Json.slot? (.object members) place name := by
    intro place name other
    unfold Json.slot?
    dsimp only
    rw [Entries.get?_put, if_neg other]
  unfold own? ofFields?
  rw [same (by decide), same (by decide), same (by decide), same (by decide), same (by decide),
    same (by decide), same (by decide), same (by decide), same (by decide), same (by decide),
    same (by decide)]
  rfl

theorem childItems?_put_children (members : List (String × Json)) :
    childItems? (.object (Entries.put "children" (.array []) members)) = some [] := by
  unfold childItems? Json.slot?
  dsimp only
  rw [Entries.get?_put, if_pos rfl]
  rfl

/-- A node is what its object is without children, with the children put in. -/
theorem fromJson_object_iff {members : List (String × Json)} {items : List Json}
    (listed : childItems? (.object members) = some items) (node : Node) :
    fromJson (.object members) = .ok node ↔
      ∃ bare, fromJson (.object (Entries.put "children" (.array []) members)) = .ok bare ∧
        node = { bare with children := items.map decode } := by
  have noItems := childItems?_put_children members
  have sameFields := own?_put_children members (.array [])
  cases fields : own? (.object members) with
  | none =>
      have malformed : ¬WellFormed (.object members) := by
        intro formed
        rw [WellFormed, fields] at formed
        cases formed.1
      have malformed' : ¬WellFormed (.object (Entries.put "children" (.array []) members)) := by
        intro formed
        rw [WellFormed, sameFields, fields] at formed
        cases formed.1
      obtain ⟨e, failed⟩ := fromJson_of_not_wellFormed malformed
      obtain ⟨e', failed'⟩ := fromJson_of_not_wellFormed malformed'
      rw [failed, failed']
      constructor
      · intro read
        cases read
      · rintro ⟨bare, read, -⟩
        cases read
  | some own =>
      rw [fromJson_of_own fields listed, fromJson_of_own (sameFields.trans fields) noItems]
      constructor
      · intro read
        exact ⟨_, rfl, (Except.ok.inj read).symm⟩
      · rintro ⟨bare, read, rfl⟩
        rw [← Except.ok.inj read]

/-! ### Any depth -/

/-- The node at an address: the places of the children on the way down. -/
def at? (node : Node) : List Nat → Option Node
  | [] => some node
  | place :: address => node.children[place]?.bind fun child => child.at? address

/-- A value stands at an address below another: all values above it, the other included, are well
formed. -/
inductive StandsAt : Json → List Nat → Json → Prop where
  | here (v : Json) : StandsAt v [] v
  | inside {v item raw : Json} {items : List Json} {place : Nat} {address : List Nat}
      (formed : WellFormed v) (listed : childItems? v = some items)
      (child : items[place]? = some item) (rest : StandsAt item address raw) :
      StandsAt v (place :: address) raw

/-- The nodes of a tree are what the values at their addresses are read as. -/
theorem at?_decode_iff {v : Json} {address : List Nat} {node : Node} :
    (decode v).at? address = some node ↔ ∃ raw, StandsAt v address raw ∧ node = decode raw := by
  induction address generalizing v with
  | nil =>
      constructor
      · intro found
        exact ⟨v, .here v, (Option.some.inj found).symm⟩
      · rintro ⟨raw, ⟨⟩, rfl⟩
        rfl
  | cons place address ih =>
      by_cases formed : WellFormed v
      · obtain ⟨own, fields⟩ := Option.isSome_iff_exists.mp formed.1
        obtain ⟨items, listed⟩ := Option.isSome_iff_exists.mp formed.2
        have children : (decode v).children = items.map decode := by
          rw [decode_of_own fields listed]
        rw [at?, children, List.getElem?_map]
        constructor
        · intro found
          obtain ⟨child, among, found⟩ := Option.bind_eq_some_iff.mp found
          obtain ⟨item, child_item, rfl⟩ := Option.map_eq_some_iff.mp among
          obtain ⟨raw, rest, same⟩ := ih.mp found
          exact ⟨raw, .inside formed listed child_item rest, same⟩
        · rintro ⟨raw, stands, same⟩
          cases stands with
          | inside _ listed' child rest =>
              obtain rfl := Option.some.inj (listed.symm.trans listed')
              rw [child]
              exact ih.mpr ⟨raw, rest, same⟩
      · obtain ⟨e, -, replaced⟩ := decode_of_not_wellFormed formed
        rw [replaced]
        constructor
        · intro found
          cases found
        · rintro ⟨raw, stands, -⟩
          cases stands with
          | inside formed' => exact absurd formed' formed

end Node

/-! ### Sections -/

namespace Sections

/-- What becomes of a section: nothing if it is missing or null, and else a node. -/
def read (section? : Option Json) : Option Node :=
  match section? with
  | none | some .null => none
  | some v => some (Node.decode v)

theorem value?_sectionField {whole : Json} (name : String) (project : Sections → Option Node)
    (v : Json) (h : sizeOf v ≤ sizeOf whole) (place : Nat) :
    (sectionField name project : Field whole Sections (Option Node)).value? v h place =
      some (read (v.slot? place name)) := by
  rw [Field.value?_of_plain _ Node.sectionOf fun _ _ => rfl]
  change (v.slot? place name).elim (some none) _ = _
  cases v.slot? place name with
  | none =>
      rfl
  | some w =>
      cases w <;> rfl

/-- Sections can always be read, whatever is in them. -/
theorem fromJson_object (members : List (String × Json)) :
    codec.fromJson (.object members) = .ok
      ⟨read (Entries.get? members "topBar"), read (Entries.get? members "body"),
        read (Entries.get? members "bottomBar")⟩ := by
  have read := Record.toOption_fromJson "ScreenSections" (record (.object members))
    (.object members) (Nat.le_refl _)
  unfold record at read
  rw [← Option.bind_fun_some (Record.gatherFrom _ _ _), Record.bind_field, Record.bind_field,
    Record.bind_field, Record.bind_build] at read
  simp only [value?_sectionField, Option.bind_some] at read
  change (codec.fromJson (.object members)).toOption = _ at read
  exact Reading.eq_ok_of_toOption read

end Sections

/-- One bad node spoils no more than itself.  An object is read as the node that it is without its
children, with each value in the list of its children read on its own.  A value with well-formed
fields is a node, and any other value, and no well-formed one, is replaced by a fallback node that
keeps it; so it is at every address of a tree.  A section that is missing or null is none, and any
other is a node. -/
theorem Node.faults_are_contained :
    (∀ (members : List (String × Json)) (items : List Json),
      childItems? (.object members) = some items → ∀ node,
        (fromJson (.object members) = .ok node ↔
          ∃ bare, fromJson (.object (Entries.put "children" (.array []) members)) = .ok bare ∧
            node = { bare with children := items.map decode })) ∧
    (∀ raw, WellFormed raw → fromJson raw = .ok (decode raw)) ∧
    (∀ raw, ¬WellFormed raw → ∃ e, fromJson raw = .error e ∧ decode raw = fallback raw e.message) ∧
    (∀ raw reason, (fallback raw reason).kind = "fallback" ∧ (fallback raw reason).action = none ∧
      (fallback raw reason).children = [] ∧
      (fallback raw reason).property? "raw" = some raw) ∧
    (∀ v address node, (decode v).at? address = some node ↔
      ∃ raw, StandsAt v address raw ∧ node = decode raw ∧
        ((∃ reason, node = fallback raw reason) ↔ ¬WellFormed raw)) ∧
    ∀ members : List (String × Json), Sections.codec.fromJson (.object members) = .ok
      ⟨Sections.read (Entries.get? members "topBar"), Sections.read (Entries.get? members "body"),
        Sections.read (Entries.get? members "bottomBar")⟩ := by
  have replaced : ∀ raw, (∃ reason, decode raw = fallback raw reason) ↔ ¬WellFormed raw := by
    intro raw
    constructor
    · rintro ⟨reason, same⟩ formed
      exact decode_ne_fallback formed reason same
    · intro malformed
      obtain ⟨e, -, same⟩ := decode_of_not_wellFormed malformed
      exact ⟨e.message, same⟩
  refine ⟨fun members items listed => fromJson_object_iff listed, fun raw formed => ?_,
    fun raw => decode_of_not_wellFormed, fun raw reason => ⟨rfl, rfl, rfl, rfl⟩,
    fun v address node => ?_, Sections.fromJson_object⟩
  · obtain ⟨own, fields⟩ := Option.isSome_iff_exists.mp formed.1
    obtain ⟨items, listed⟩ := Option.isSome_iff_exists.mp formed.2
    rw [fromJson_of_own fields listed, decode_of_own fields listed]
  · rw [at?_decode_iff]
    constructor
    · rintro ⟨raw, stands, rfl⟩
      exact ⟨raw, stands, rfl, replaced raw⟩
    · rintro ⟨raw, stands, same, -⟩
      exact ⟨raw, stands, same⟩

end ServerDriven
