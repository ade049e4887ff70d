/-
Module: ServerDriven.Proofs.Schema.Reencoded
Purpose: What has been read as a screen is written so that it is read as the same screen again.
Main exports:
  Codec.renew, Codec.IsStable, Node.IsUnambiguous, Node.isUnambiguous_decode,
  Node.keeps_of_isUnambiguous, Node.restores_iff, screens_are_stable
-/
import ServerDriven.Proofs.Codec.Restored
import ServerDriven.Proofs.Schema.ContainedFaults

namespace ServerDriven

open Codec
open Record.Restores (build required withDefault optional)

/-!
Null stands for no data and for no content, so a node whose data is null would come back without
any.  No such node is ever read, fallback nodes included, and every other node comes back.  The
unambiguous nodes are where the two halves of the argument meet.
-/

/-! ### Stable codecs -/

namespace Codec

variable {α : Type}

/-- Read a value and write what has been read. -/
def renew (c : Codec α) (v : Json) : Except DecodeError Json := (c.fromJson v).map c.toJson

/-- Whatever has been read is restored, and so written no differently the next time. -/
structure IsStable (c : Codec α) : Prop where
  restored : ∀ {v x}, c.fromJson v = .ok x → c.Restores x
  settled : ∀ {v w}, c.renew v = .ok w → c.renew w = .ok w

/-- It is enough to know something of what is read that keeps it. -/
theorem IsStable.of_kept {c : Codec α} {Good : α → Prop}
    (read : ∀ {v x}, c.fromJson v = .ok x → Good x) (kept : ∀ {x}, Good x → c.Keeps x) :
    c.IsStable := by
  have restored : ∀ {v x}, c.fromJson v = .ok x → c.Restores x :=
    fun done => (kept (read done)).restored
  refine ⟨restored, ?_⟩
  intro v w renewed
  cases result : c.fromJson v with
  | error e =>
      rw [renew, result] at renewed
      cases renewed
  | ok x =>
      rw [renew, result] at renewed
      obtain rfl : c.toJson x = w := Except.ok.inj renewed
      have again : c.fromJson (c.toJson x) = .ok x := restored result
      rw [renew, again]
      rfl

/-- A field with a default value has that value or one that was read. -/
theorem default_or_read {c : Codec α} {fallback x : α} {w? : Option Json}
    (found : (w?.elim (some fallback) fun w => (c.fromJson w).toOption) = some x) :
    x = fallback ∨ ∃ w, c.fromJson w = .ok x := by
  cases w? with
  | none =>
      exact .inl (Option.some.inj found).symm
  | some w =>
      exact .inr ⟨w, Reading.eq_ok_of_toOption found⟩

end Codec

/-! ### Nodes -/

/-- A value that is read from a field that may be null is not null. -/
theorem Json.ne_null_of_mayHold {w? : Option Json} {x : Option Json}
    (read : mayHold some w? = some x) : x ≠ some .null := by
  rintro rfl
  cases w? with
  | none =>
      cases read
  | some w =>
      cases w <;> cases read

theorem Codec.keeps_any_of_ne {x : Option Json} (other : x ≠ some .null) :
    ∀ v, x = some v → any.Keeps v := by
  rintro v rfl
  apply keeps_any
  rintro rfl
  exact other rfl

@[simp] theorem Position.keeps (position : Position) : codec.Keeps position := by
  apply Record.keeps_codec
  · intro whole
    apply_rules [build, required, withDefault, optional]
    all_goals simp
  · decide
  · rfl

namespace Node

/-- Null is neither the data nor the content of any node of the tree. -/
inductive IsUnambiguous : Node → Prop where
  | mk {node : Node} (data : node.data ≠ some .null) (content : node.content ≠ some .null)
      (children : ∀ child ∈ node.children, IsUnambiguous child) : IsUnambiguous node

theorem isUnambiguous_fallback (raw : Json) (reason : String) :
    (fallback raw reason).IsUnambiguous := by
  refine .mk nofun nofun ?_
  intro child mem
  cases mem

/-- The data and the content of a node that has been read are not null. -/
theorem ne_null_of_own {v : Json} {own : Node} (fields : own? v = some own) :
    own.data ≠ some .null ∧ own.content ≠ some .null := by
  unfold own? ofFields? at fields
  split at fields
  · simp only [Option.bind_eq_bind, Option.bind_eq_some_iff] at fields
    obtain ⟨id, -, kind, -, name, -, properties, -, style, -, children, -, position, -, data,
      readData, dataSource, -, content, readContent, items, -, action, -, made⟩ := fields
    obtain rfl := Option.some.inj made
    exact ⟨Json.ne_null_of_mayHold readData, Json.ne_null_of_mayHold readContent⟩
  · cases fields

/-- The values in the list of children are smaller than the value of the node. -/
theorem sizeOf_lt_of_childItems? {v item : Json} {items : List Json}
    (listed : childItems? v = some items) (mem : item ∈ items) : sizeOf item < sizeOf v := by
  unfold childItems? at listed
  cases found : v.slot? 5 "children" with
  | none =>
      rw [found] at listed
      obtain rfl := Option.some.inj listed
      cases mem
  | some w =>
      rw [found] at listed
      have smaller : sizeOf w < sizeOf v := Json.sizeOf_lt_of_slot? found
      cases w with
      | null =>
          obtain rfl := Option.some.inj listed
          cases mem
      | array all =>
          obtain rfl : all = items := Option.some.inj listed
          have inside : sizeOf item < sizeOf all := List.sizeOf_lt_of_mem mem
          simp only [Json.array.sizeOf_spec] at smaller
          omega
      | _ =>
          cases listed

/-- Every node that is read is unambiguous, and so is every fallback node.  The induction is on the
size of the value: the nodes inside a node are read from smaller values. -/
theorem isUnambiguous_decode (v : Json) : (decode v).IsUnambiguous := by
  by_cases formed : WellFormed v
  · obtain ⟨own, fields⟩ := Option.isSome_iff_exists.mp formed.1
    obtain ⟨items, listed⟩ := Option.isSome_iff_exists.mp formed.2
    obtain ⟨data, content⟩ := ne_null_of_own fields
    rw [decode_of_own fields listed]
    refine .mk data content ?_
    intro child mem
    obtain ⟨item, among, rfl⟩ := List.mem_map.mp mem
    have smaller : sizeOf item < sizeOf v := sizeOf_lt_of_childItems? listed among
    exact isUnambiguous_decode item
  · obtain ⟨e, -, replaced⟩ := decode_of_not_wellFormed formed
    rw [replaced]
    exact isUnambiguous_fallback v e.message
termination_by sizeOf v

theorem decode_of_fromJson {v : Json} {node : Node} (read : fromJson v = .ok node) :
    decode v = node := by
  rw [decode, read]
  rfl

theorem isUnambiguous_of_fromJson {v : Json} {node : Node} (read : codec.fromJson v = .ok node) :
    node.IsUnambiguous := by
  rw [← decode_of_fromJson read]
  exact isUnambiguous_decode v

theorem toItems_eq (nodes : List Node) : toItems nodes = nodes.map toJson := by
  induction nodes with
  | nil =>
      rw [toItems, List.map_nil]
  | cons node rest ih =>
      rw [toItems, ih, List.map_cons]

/-- The table with which a node is written. -/
def writer (node : Node) : Record .null Node Node :=
  record .null (childrenField (fun _ _ => .error .unreadable) (fun _ _ => .error .unreadable)
    fun _ => toItems node.children)

theorem toJson_eq (node : Node) : toJson node = .object (Record.toMembers node node.writer) := by
  cases node
  rw [toJson]
  rfl

/-- The children are read from the list of what was written of each. -/
theorem restores_children {whole : Json} {node : Node}
    (children : ∀ child ∈ node.children, codec.Keeps child)
    (fromWritten fromWritten' : Nat → Written → Except DecodeError (List Node))
    (fromJson' : (v : Json) → sizeOf v < sizeOf (.null : Json) → Except DecodeError (List Node)) :
    Field.Restores
      (childrenField (fun w _ => childrenOf w fun u _ => orFallback u (fromJson u)) fromWritten
        (fun _ => []) : Field whole Node (List Node))
      (childrenField fromJson' fromWritten' fun _ => toItems node.children) node := by
  have each : ∀ child ∈ node.children, decode (toJson child) = child := by
    intro child mem
    exact decode_of_fromJson (children child mem).restored
  refine ⟨rfl, ?_, nofun⟩
  rintro v h ⟨⟩
  apply Reading.eq_ok_of_toOption
  calc (childrenOf (.array (toItems node.children)) fun u _ => decode u).toOption
      = some ((toItems node.children).map decode) := toOption_childrenOf _
    _ = some node.children := by
      rw [toItems_eq, List.map_map]
      exact congrArg some ((List.map_congr_left each).trans (List.map_id _))

/-- A node is kept if its children are, and null is neither its data nor its content. -/
theorem keeps_of_children {node : Node} (data : node.data ≠ some .null)
    (content : node.content ≠ some .null)
    (children : ∀ child ∈ node.children, codec.Keeps child) : codec.Keeps node := by
  -- One table reads the children that the other writes.  In all else the two are the same.
  have fields : ∀ whole, Record.Restores node
      (record whole (childrenField
        (fun w _ => childrenOf w fun u _ => orFallback u (fromJson u))
        (fun _ _ => .error .unreadable) (fun _ => []))) node.writer := by
    intro whole
    apply_rules [build, required, withDefault, optional, Record.Restores.field,
      restores_children, keeps_any_of_ne]
    all_goals simp
  have distinct : node.writer.names.Nodup := by
    change (record .null (childrenField (fun _ _ => .error .unreadable)
      (fun _ _ => .error .unreadable) fun _ => [])).names.Nodup
    decide
  have rebuilt : node.writer.rebuild node = node := by
    cases node
    rfl
  apply Record.keeps_of_tables fields distinct rebuilt (toJson_eq node)
  intro v
  change fromJson v = _
  rw [fromJson]

@[simp] theorem keeps_of_isUnambiguous {node : Node} (unambiguous : node.IsUnambiguous) :
    codec.Keeps node := by
  induction unambiguous with
  | mk data content children ih =>
      exact keeps_of_children data content ih

/-- The nodes that are restored are those that can be read. -/
theorem restores_iff (node : Node) : codec.Restores node ↔ node.IsUnambiguous := by
  constructor
  · exact isUnambiguous_of_fromJson
  · intro unambiguous
    exact (keeps_of_isUnambiguous unambiguous).restored

/-- A node that was put together elsewhere need not come back. -/
example : ¬codec.Restores { kind := "text", data := some .null } := by
  rw [restores_iff]
  rintro ⟨data, -, -⟩
  exact data rfl

end Node

/-! ### Screens -/

namespace Sections

/-- The nodes of all sections are unambiguous. -/
def IsUnambiguous (sections : Sections) : Prop := ∀ node ∈ sections.present, node.IsUnambiguous

theorem isUnambiguous_read {section? : Option Json} {node : Node}
    (there : read section? = some node) : node.IsUnambiguous := by
  unfold read at there
  split at there
  · cases there
  · cases there
  · obtain rfl := Option.some.inj there
    exact Node.isUnambiguous_decode _

theorem isUnambiguous_of_fromJson {v : Json} {sections : Sections}
    (done : codec.fromJson v = .ok sections) : sections.IsUnambiguous := by
  have found := Record.gatherFrom_of_fromJson done
  rw [← Option.bind_fun_some (Record.gatherFrom _ _ _)] at found
  unfold record at found
  -- No section is ever malformed, so that all three are there.
  rw [Record.bind_field, Record.bind_field, Record.bind_field, Record.bind_build] at found
  simp only [value?_sectionField, Option.bind_some] at found
  obtain rfl := Option.some.inj found
  intro node mem
  simp only [present, List.mem_append, Option.mem_toList] at mem
  rcases mem with (top | body) | bottom
  · exact isUnambiguous_read top
  · exact isUnambiguous_read body
  · exact isUnambiguous_read bottom

theorem sectionOf_eq {v : Json} (present : v ≠ .null) :
    Node.sectionOf v = .ok (some (Node.decode v)) := by
  cases v with
  | null =>
      exact absurd rfl present
  | _ =>
      rfl

theorem restores_section {whole whole' : Json} {sections : Sections} (name : String)
    {project : Sections → Option Node}
    (unambiguous : ∀ node, project sections = some node → node.IsUnambiguous) :
    Field.Restores (sectionField name project : Field whole Sections (Option Node))
      (sectionField name project : Field whole' Sections (Option Node)) sections := by
  refine ⟨rfl, ?_, ?_⟩
  · intro v h written
    obtain ⟨node, there, rfl⟩ := Option.map_eq_some_iff.mp written
    have kept : Node.codec.Keeps node := Node.keeps_of_isUnambiguous (unambiguous node there)
    have same : Node.decode (Node.toJson node) = node := Node.decode_of_fromJson kept.restored
    calc Node.sectionOf (Node.toJson node)
        = .ok (some (Node.decode (Node.toJson node))) := sectionOf_eq kept.present
      _ = .ok (some node) := by rw [same]
      _ = .ok (project sections) := congrArg Except.ok there.symm
  · intro leftOut
    have none : project sections = none := Option.map_eq_none_iff.mp leftOut
    exact congrArg some none.symm

@[simp] theorem keeps {sections : Sections} (unambiguous : sections.IsUnambiguous) :
    codec.Keeps sections := by
  apply Record.keeps_codec
  · intro whole
    apply_rules [build, Record.Restores.field, restores_section]
    all_goals
      intro node there
      apply unambiguous
      simp [present, there]
  · decide
  · rfl

end Sections

namespace ScreenDefinition

theorem isUnambiguous_of_fromJson {v : Json} {screen : ScreenDefinition}
    (done : codec.fromJson v = .ok screen) : screen.sections.IsUnambiguous := by
  have found := Record.gatherFrom_of_fromJson done
  rw [← Option.bind_fun_some (Record.gatherFrom _ _ _)] at found
  unfold record at found
  rw [Record.bind_withDefault, Record.bind_withDefault, Record.bind_withDefault,
    Record.bind_optional, Record.bind_required, Record.bind_required, Record.bind_build] at found
  -- The fields are gone through as far as the sections.
  obtain ⟨id, -, found⟩ := Option.bind_eq_some_iff.mp found
  obtain ⟨kind, -, found⟩ := Option.bind_eq_some_iff.mp found
  obtain ⟨name, -, found⟩ := Option.bind_eq_some_iff.mp found
  obtain ⟨style, -, found⟩ := Option.bind_eq_some_iff.mp found
  obtain ⟨sections, there, found⟩ := Option.bind_eq_some_iff.mp found
  obtain ⟨references, -, made⟩ := Option.bind_eq_some_iff.mp found
  obtain rfl := Option.some.inj made
  rcases default_or_read there with rfl | ⟨w, read⟩
  · intro node mem
    cases mem
  · exact Sections.isUnambiguous_of_fromJson read

@[simp] theorem keeps {screen : ScreenDefinition} (unambiguous : screen.sections.IsUnambiguous) :
    codec.Keeps screen := by
  apply Record.keeps_codec
  · intro whole
    apply_rules [build, required, withDefault, optional]
    all_goals simp [unambiguous]
  · decide
  · rfl

end ScreenDefinition

@[simp] theorem DocumentMeta.keeps (document : DocumentMeta) : codec.Keeps document := by
  apply Record.keeps_codec
  · intro whole
    apply_rules [build, required, withDefault, optional]
  · decide
  · rfl

namespace ScreenSchema

theorem isUnambiguous_of_fromJson {v : Json} {schema : ScreenSchema}
    (done : codec.fromJson v = .ok schema) : schema.screen.sections.IsUnambiguous := by
  have found := Record.gatherFrom_of_fromJson done
  rw [← Option.bind_fun_some (Record.gatherFrom _ _ _)] at found
  unfold record at found
  rw [Record.bind_required, Record.bind_required, Record.bind_build] at found
  obtain ⟨document, -, found⟩ := Option.bind_eq_some_iff.mp found
  obtain ⟨screen, there, made⟩ := Option.bind_eq_some_iff.mp found
  obtain ⟨w, -, read⟩ := Option.bind_eq_some_iff.mp there
  obtain rfl := Option.some.inj made
  exact ScreenDefinition.isUnambiguous_of_fromJson (Reading.eq_ok_of_toOption read)

@[simp] theorem keeps {schema : ScreenSchema} (unambiguous : schema.screen.sections.IsUnambiguous) :
    codec.Keeps schema := by
  apply Record.keeps_codec
  · intro whole
    apply_rules [build, required, withDefault, optional]
    all_goals simp [unambiguous]
  · decide
  · rfl

end ScreenSchema

/-- Whatever is read as a node, as sections, as a screen or as a document is written so that it is
read as the same again, from then on always in the same form, and so is every node in the place of
which something else stood.  So no look at the nodes of a tree, at their actions or for a node of
some id tells it from its copy. -/
theorem screens_are_stable :
    (Node.codec.IsStable ∧ Sections.codec.IsStable ∧ ScreenDefinition.codec.IsStable ∧
      ScreenSchema.codec.IsStable) ∧
    (∀ raw, Node.codec.Restores (Node.decode raw)) ∧
    (∀ {v node copy}, Node.codec.fromJson v = .ok node →
      Node.codec.fromJson (Node.codec.toJson node) = .ok copy →
        copy.walk = node.walk ∧ (∀ wanted, copy.find? wanted = node.find? wanted) ∧
          copy.parsedAction? = node.parsedAction?) ∧
    ∀ {v schema copy}, ScreenSchema.codec.fromJson v = .ok schema →
      ScreenSchema.codec.fromJson (ScreenSchema.codec.toJson schema) = .ok copy →
        copy.screen.sections.present.map Node.walk = schema.screen.sections.present.map Node.walk ∧
          ∀ wanted, copy.findNode? wanted = schema.findNode? wanted := by
  have node : Node.codec.IsStable := .of_kept Node.isUnambiguous_of_fromJson
    Node.keeps_of_isUnambiguous
  have schema : ScreenSchema.codec.IsStable := .of_kept ScreenSchema.isUnambiguous_of_fromJson
    ScreenSchema.keeps
  refine ⟨⟨node, ?_, ?_, schema⟩, ?_, ?_, ?_⟩
  · exact .of_kept Sections.isUnambiguous_of_fromJson Sections.keeps
  · exact .of_kept ScreenDefinition.isUnambiguous_of_fromJson ScreenDefinition.keeps
  · intro raw
    exact (Node.restores_iff _).mpr (Node.isUnambiguous_decode raw)
  · intro v x copy read again
    obtain rfl : x = copy := Except.ok.inj ((node.restored read).symm.trans again)
    exact ⟨rfl, fun wanted => rfl, rfl⟩
  · intro v x copy read again
    obtain rfl : x = copy := Except.ok.inj ((schema.restored read).symm.trans again)
    exact ⟨rfl, fun wanted => rfl⟩

/-! ### A document in which all that may be crooked is so -/

/-- A node in the positional form.  Of its children one has null data and a member that means
nothing, and the other is no node. -/
def Node.crooked : Json :=
  .array [.null, .string "column", .null, .object [], .object [],
    .array [.object [("id", .string "title"), ("type", .string "text"), ("data", .null),
      ("hint", .bool true)], .bool true]]

/-- A document with this node as its body, below a null top bar. -/
def ScreenSchema.crooked : Json :=
  .object [("exported", .null),
    ("screen", .array [.string "home", .string "screen", .null, .object [],
      .array [.null, Node.crooked]]),
    ("document", .array [.string "d", .string "Home", .string "today"])]

theorem Node.fromJson_crooked :
    codec.fromJson crooked = .ok {
      kind := "column"
      children := [{ id := some "title", kind := "text" },
        fallback (.bool true) "invalid type: boolean `true`, expected struct SchemaNode"] } := by
  have title : decode (.object [("id", .string "title"), ("type", .string "text"),
      ("data", .null), ("hint", .bool true)]) = { id := some "title", kind := "text" } := by
    have fields : own? (.object [("id", .string "title"), ("type", .string "text"),
        ("data", .null), ("hint", .bool true)]) = some { id := some "title", kind := "text" } := rfl
    exact decode_of_own fields rfl
  have replaced : decode (.bool true) =
      fallback (.bool true) "invalid type: boolean `true`, expected struct SchemaNode" := by
    rw [decode, fromJson]
    rfl
  have fields : own? crooked = some { kind := "column" } := rfl
  refine (fromJson_of_own fields rfl).trans ?_
  rw [List.map_cons, title, List.map_cons, replaced, List.map_nil]

/-- The node and the document are read, and their copies are like them. -/
theorem crooked_is_stable :
    (∃ node copy, Node.codec.fromJson Node.crooked = .ok node ∧
      Node.codec.fromJson (Node.codec.toJson node) = .ok copy ∧
      node.walk.map Node.isFallback = [false, false, true] ∧ copy.walk = node.walk) ∧
    ∃ schema copy, ScreenSchema.codec.fromJson ScreenSchema.crooked = .ok schema ∧
      ScreenSchema.codec.fromJson (ScreenSchema.codec.toJson schema) = .ok copy ∧
      schema.findNode? "title" = some { id := some "title", kind := "text" } ∧
      copy.findNode? "title" = schema.findNode? "title" := by
  obtain ⟨⟨node, -, -, schema⟩, -, nodes, schemas⟩ := screens_are_stable
  constructor
  · have read := Node.fromJson_crooked
    have again := node.restored read
    exact ⟨_, _, read, again, rfl, (nodes read again).1⟩
  · have body : Node.decode Node.crooked = _ := Node.decode_of_fromJson Node.fromJson_crooked
    have read : ScreenSchema.codec.fromJson ScreenSchema.crooked = .ok ⟨⟨"d", "Home", "today"⟩,
        ⟨"home", "screen", none, [], { body := some (Node.decode Node.crooked) }, []⟩⟩ := rfl
    have again := schema.restored read
    refine ⟨_, _, read, again, ?_, (schemas read again).2 "title"⟩
    rw [body]
    rfl

end ServerDriven
