/-
Module: ServerDriven.Proofs.Codec.MemberOrder
Purpose: What is read from an object depends neither on the order of its members nor on members that
  no field is named for, at any depth.
Main exports:
  Form, StructType.form, Json.Similar, Node.Alike, Node.rel_fromJson, StructType.Alike,
  StructType.readsAlike, member_order_is_immaterial
-/
import ServerDriven.Proofs.Codec.KeptObjects

namespace ServerDriven

open Record (Agree)

/-! ### Values that differ only in members that do not matter -/

/-- What is in a field: a structure, several of them in a list or under keys, or anything that is
taken as it is. -/
inductive Form where
  | asIs
  | struct (t : StructType)
  | list (form : Form)
  | dictionary (form : Form)
deriving DecidableEq

/-- The fields in which there are structures again. -/
def StructType.form : StructType → String → Form
  | screenSchema, "document" => .struct documentMeta
  | screenSchema, "screen" => .struct screenDefinition
  | screenDefinition, "sections" => .struct sections
  | sections, "topBar" | sections, "body" | sections, "bottomBar" => .struct node
  | node, "children" => .list (.struct node)
  | node, "position" => .struct position
  | stateSet, "states" => .list (.struct stateModel)
  | stateModel, "transitions" => .list (.struct transition)
  | stateModel, "expressions" => .list (.struct expression)
  | stateModel, "integration_config" => .struct integrationConfig
  | screenData, "fields" => .list (.struct fieldData)
  | screenData, "buttons" => .list (.struct buttonData)
  | screenData, "components" => .list (.struct componentData)
  | fieldData, "validation" => .struct validationConfig
  | fieldData, "link" => .struct linkData
  | componentData, "items" => .list (.struct cardItem)
  | componentData, "statusMap" => .dictionary (.struct statusStyle)
  | componentData, "ifTrue" | componentData, "ifFalse" => .struct componentData
  | cardItem, "action" => .struct actionData
  | saveRequest, "states" => .struct stateSet
  | executionResponse, "screen" => .struct screenData
  | _, _ => .asIs

/-- Two values of a form differ only where structures stand: there they hold the same fields, or
fields that differ no more themselves.  What else is in an object, and in which order, is left open.
-/
inductive Json.Similar : Form → Json → Json → Prop where
  | refl (form : Form) (v : Json) : Similar form v v
  | struct {t : StructType} {v v' : Json} (holds : v.holds t.names.length = true)
      (holds' : v'.holds t.names.length = true)
      (absent : ∀ place name, t.names[place]? = some name →
        (v.slot? place name = none ↔ v'.slot? place name = none))
      (present : ∀ place name, t.names[place]? = some name → ∀ w w', v.slot? place name = some w →
        v'.slot? place name = some w' → Similar (t.form name) w w') :
      Similar (.struct t) v v'
  | list {form : Form} {items items' : List Json} (length : items.length = items'.length)
      (each : ∀ (i : Nat) (v v' : Json), items[i]? = some v → items'[i]? = some v' →
        Similar form v v') :
      Similar (.list form) (.array items) (.array items')
  | dictionary {form : Form} {members members' : List (String × Json)}
      (keys : members.map Prod.fst = members'.map Prod.fst)
      (each : ∀ (i : Nat) (member member' : String × Json), members[i]? = some member →
        members'[i]? = some member' → Similar form member.2 member'.2) :
      Similar (.dictionary form) (.object members) (.object members')

/-- Items that are related one by one. -/
theorem forall₂_of_getElem? {α β : Type} {related : α → β → Prop} {xs : List α} {ys : List β}
    (length : xs.length = ys.length)
    (each : ∀ (i : Nat) x y, xs[i]? = some x → ys[i]? = some y → related x y) :
    List.Forall₂ related xs ys := by
  refine List.forall₂_iff_get.mpr ⟨length, fun i h h' => ?_⟩
  exact each i _ _ (List.getElem?_eq_getElem h) (List.getElem?_eq_getElem h')

namespace Json.Similar

theorem tellsNull (form : Form) : Codec.TellsNull (Similar form) := by
  intro v v' similar
  cases similar with
  | refl =>
      exact Iff.rfl
  | struct holds holds' absent present =>
      refine iff_of_false ?_ ?_
      · rintro rfl
        cases holds
      · rintro rfl
        cases holds'
  | list length each =>
      exact iff_of_false nofun nofun
  | dictionary keys each =>
      exact iff_of_false nofun nofun

/-- Objects are similar if each field stands in both or in neither, with values that are similar. -/
theorem object {t : StructType} {members members' : List (String × Json)}
    (fields : ∀ name ∈ t.names,
      Entries.get? members name = none ∧ Entries.get? members' name = none ∨
        ∃ w w', Entries.get? members name = some w ∧ Entries.get? members' name = some w' ∧
          Similar (t.form name) w w') :
    Similar (.struct t) (.object members) (.object members') := by
  refine .struct rfl rfl (fun place name found => ?_) fun place name found w w' here there => ?_
  · change Entries.get? members name = none ↔ Entries.get? members' name = none
    rcases fields name (List.mem_of_getElem? found) with ⟨none, none'⟩ | ⟨w, w', here, there, -⟩
    · exact iff_of_true none none'
    · rw [here, there]
      exact iff_of_false nofun nofun
  · have here : Entries.get? members name = some w := here
    have there : Entries.get? members' name = some w' := there
    rcases fields name (List.mem_of_getElem? found) with ⟨none, -⟩ | ⟨u, u', here', there', similar⟩
    · cases none.symm.trans here
    · cases here'.symm.trans here
      cases there'.symm.trans there
      exact similar

/-- Similar values hold alike what a structure is read from. -/
theorem slotsAlike {t : StructType} {v v' : Json} (similar : Similar (.struct t) v v') :
    SlotsAlike (fun name => Similar (t.form name)) t.names v v' := by
  cases similar with
  | refl =>
      refine ⟨rfl, fun {place name} _ => ?_⟩
      cases v.slot? place name with
      | none => exact .none
      | some w => exact .some (.refl _ w)
  | struct holds holds' absent present =>
      refine ⟨holds.trans holds'.symm, fun {place name} found => ?_⟩
      have both := absent place name found
      cases here : v.slot? place name with
      | none =>
          rw [both.mp here]
          exact .none
      | some w =>
          cases there : v'.slot? place name with
          | none =>
              rw [both.mpr there] at here
              cases here
          | some w' =>
              exact .some (present place name found w w' here there)

theorem eq_of_asIs {v v' : Json} (similar : Similar .asIs v v') : v = v' := by
  cases similar
  rfl

/-- Lists are the same or hold similar values. -/
theorem list_cases {form : Form} {v v' : Json} (similar : Similar (.list form) v v') :
    (∃ items items', v = .array items ∧ v' = .array items' ∧
      List.Forall₂ (Similar form) items items') ∨ v = v' ∧ ∀ items, v ≠ .array items := by
  cases similar with
  | refl =>
      cases v with
      | array items =>
          exact .inl ⟨items, items, rfl, rfl, List.forall₂_same.mpr fun v _ => .refl form v⟩
      | _ => exact .inr ⟨rfl, nofun⟩
  | @list _ items items' length each =>
      exact .inl ⟨items, items', rfl, rfl, forall₂_of_getElem? length each⟩

end Json.Similar

/-! ### Structures without nodes -/

open Json (Similar)

section Kinds

variable {β : Type} {c : Codec β} {form : Form}

theorem readsAlike_asIs : c.ReadsAlike (Similar .asIs) Eq := by
  intro v v' similar
  rw [similar.eq_of_asIs]
  exact rel_eq_refl _

theorem readsAlike_list (reads : c.ReadsAlike (Similar form) Eq) :
    (Codec.list c).ReadsAlike (Similar (.list form)) Eq := by
  intro v v' similar
  rcases similar.list_cases with ⟨items, items', rfl, rfl, each⟩ | ⟨rfl, -⟩
  · have together := Codec.readsAlike_list reads each
    rwa [List.forall₂_eq_eq_eq] at together
  · exact rel_eq_refl _

theorem readsAlike_dictionary (reads : c.ReadsAlike (Similar form) Eq) :
    (Codec.dictionary c).ReadsAlike (Similar (.dictionary form)) Eq := by
  intro v v' similar
  cases similar with
  | refl =>
      exact rel_eq_refl _
  | dictionary keys each =>
      refine Codec.readsAlike_dictionary reads (forall₂_of_getElem? ?_ ?_)
      · have same := congrArg List.length keys
        rwa [List.length_map, List.length_map] at same
      · intro i member member' here there
        have key := congrArg (·[i]?) keys
        simp only [List.getElem?_map, here, there, Option.map_some, Option.some.injEq] at key
        exact ⟨key, each i member member' here there⟩

end Kinds

namespace StructType

/-- A structure whose fields hold no structures is read from equal values. -/
theorem readsAlike_of_flat {t : StructType} (flat : ∀ name, t.form name = .asIs) :
    t.codec.ReadsAlike (Similar (.struct t)) Eq := by
  intro v v' similar
  obtain ⟨holds, slots⟩ := similar.slotsAlike
  refine t.rel_of_agree (t.agree_table v v') ⟨holds, fun {place name} found => ?_⟩
  have alike := slots found
  rw [flat] at alike
  generalize v.slot? place name = w? at alike ⊢
  generalize v'.slot? place name = w?' at alike ⊢
  cases alike with
  | none => exact .none
  | some same => exact .some same.eq_of_asIs

/-- A structure is read alike from similar values, if its fields are. -/
theorem readsAlike_of_agree {t : StructType} {same : t.Value → t.Value → Prop}
    (agree : ∀ v v', Agree (fun name => Similar (t.form name)) same (t.table v) (t.table v')) :
    t.codec.ReadsAlike (Similar (.struct t)) same :=
  fun v v' similar => t.rel_of_agree (agree v v') similar.slotsAlike

theorem readsAlike_cardItem : CardItem.codec.ReadsAlike (Similar (.struct cardItem)) Eq := by
  have action : ActionData.codec.ReadsAlike (Similar (.struct actionData)) Eq :=
    readsAlike_of_flat fun _ => rfl
  refine readsAlike_of_agree fun v v' => ?_
  apply_rules [Agree.lift_eq, Agree.build, Agree.required, Agree.withDefault, Agree.optional,
    Similar.tellsNull, readsAlike_asIs, action]

theorem readsAlike_fieldData : FieldData.codec.ReadsAlike (Similar (.struct fieldData)) Eq := by
  have validation : ValidationConfig.codec.ReadsAlike (Similar (.struct validationConfig)) Eq :=
    readsAlike_of_flat fun _ => rfl
  have link : LinkData.codec.ReadsAlike (Similar (.struct linkData)) Eq :=
    readsAlike_of_flat fun _ => rfl
  refine readsAlike_of_agree fun v v' => ?_
  apply_rules [Agree.lift_eq, Agree.build, Agree.required, Agree.withDefault, Agree.optional,
    Similar.tellsNull, readsAlike_asIs, validation, link]

/-- A component may hold two others, which are smaller. -/
theorem rel_component (v v' : Json) (similar : Similar (.struct componentData) v v') :
    Option.Rel Eq (ComponentData.fromJson v).toOption (ComponentData.fromJson v').toOption := by
  have status : StatusStyle.codec.ReadsAlike (Similar (.struct statusStyle)) Eq :=
    readsAlike_of_flat fun _ => rfl
  have inner : ∀ w w' : Json, sizeOf w < sizeOf v → sizeOf w' < sizeOf v' →
      Similar (.struct componentData) w w' →
      Option.Rel Eq (ComponentData.fromJson w).toOption (ComponentData.fromJson w').toOption :=
    fun w w' _h _ => rel_component w w'
  refine componentData.rel_of_agree ?_ similar.slotsAlike
  unfold table ComponentData.record
  refine .nested (.lift_eq (.nested (.lift_eq ?_) (Similar.tellsNull _) inner))
    (Similar.tellsNull _) inner
  apply_rules [Agree.lift_eq, Agree.build, Agree.required, Agree.optional, Similar.tellsNull,
    readsAlike_asIs, readsAlike_list, readsAlike_dictionary, readsAlike_cardItem, status]
termination_by sizeOf v

theorem readsAlike_screenData : ScreenData.codec.ReadsAlike (Similar (.struct screenData)) Eq := by
  have button : ButtonData.codec.ReadsAlike (Similar (.struct buttonData)) Eq :=
    readsAlike_of_flat fun _ => rfl
  have component : ComponentData.codec.ReadsAlike (Similar (.struct componentData)) Eq :=
    rel_component
  refine readsAlike_of_agree fun v v' => ?_
  apply_rules [Agree.lift_eq, Agree.build, Agree.optional, Similar.tellsNull, readsAlike_asIs,
    readsAlike_list, readsAlike_fieldData, button, component]

theorem readsAlike_stateModel : StateModel.codec.ReadsAlike (Similar (.struct stateModel)) Eq := by
  have transition : Transition.codec.ReadsAlike (Similar (.struct transition)) Eq :=
    readsAlike_of_flat fun _ => rfl
  have expression : Expression.codec.ReadsAlike (Similar (.struct expression)) Eq :=
    readsAlike_of_flat fun _ => rfl
  have integration : IntegrationConfig.codec.ReadsAlike (Similar (.struct integrationConfig)) Eq :=
    readsAlike_of_flat fun _ => rfl
  refine readsAlike_of_agree fun v v' => ?_
  apply_rules [Agree.lift_eq, Agree.build, Agree.required, Agree.withDefault, Agree.optional,
    Similar.tellsNull, readsAlike_asIs, readsAlike_list, transition, expression, integration]

theorem readsAlike_stateSet : StateSet.codec.ReadsAlike (Similar (.struct stateSet)) Eq := by
  refine readsAlike_of_agree fun v v' => ?_
  apply_rules [Agree.lift_eq, Agree.build, Agree.required, readsAlike_list, readsAlike_stateModel]

theorem readsAlike_saveRequest :
    SaveRequest.codec.ReadsAlike (Similar (.struct saveRequest)) Eq := by
  refine readsAlike_of_agree fun v v' => ?_
  apply_rules [Agree.lift_eq, Agree.build, Agree.required, Agree.withDefault, readsAlike_asIs,
    readsAlike_stateSet]

theorem readsAlike_executionResponse :
    ExecutionResponse.codec.ReadsAlike (Similar (.struct executionResponse)) Eq := by
  refine readsAlike_of_agree fun v v' => ?_
  apply_rules [Agree.lift_eq, Agree.build, Agree.required, Agree.withDefault, Agree.optional,
    Similar.tellsNull, readsAlike_asIs, readsAlike_screenData]

end StructType

/-! ### Nodes -/

/-- Two nodes that differ only in fallback nodes, in them or below them: each stands for a value
that is similar to the other's, and keeps that value and what is wrong with it. -/
inductive Node.Alike : Node → Node → Prop where
  | own {node node' : Node} (children : List.Forall₂ Alike node.children node'.children)
      (others : { node with children := node'.children } = node') : Alike node node'
  | fallback {raw raw' : Json} (similar : Similar (.struct .node) raw raw')
      (reason reason' : String) : Alike (Node.fallback raw reason) (Node.fallback raw' reason')

/-- Sections that hold nodes that are alike. -/
structure Sections.Alike (s s' : Sections) : Prop where
  topBar : Option.Rel Node.Alike s.topBar s'.topBar
  body : Option.Rel Node.Alike s.body s'.body
  bottomBar : Option.Rel Node.Alike s.bottomBar s'.bottomBar

/-- Screens that differ in their sections only. -/
structure ScreenDefinition.Alike (s s' : ScreenDefinition) : Prop where
  sections : s.sections.Alike s'.sections
  others : { s with sections := s'.sections } = s'

/-- Screens of the same document. -/
structure ScreenSchema.Alike (s s' : ScreenSchema) : Prop where
  document : s.document = s'.document
  screen : s.screen.Alike s'.screen

namespace Node

theorem alike_decode {v v' : Json} (similar : Similar (.struct .node) v v')
    (read : Option.Rel Alike (fromJson v).toOption (fromJson v').toOption) :
    Alike (decode v) (decode v') := by
  unfold decode
  cases result : fromJson v with
  | error e =>
      cases result' : fromJson v' with
      | error e' => exact .fallback similar _ _
      | ok node' =>
          rw [result, result'] at read
          cases read
  | ok node =>
      cases result' : fromJson v' with
      | error e' =>
          rw [result, result'] at read
          cases read
      | ok node' =>
          rw [result, result'] at read
          cases read with
          | some alike => exact alike

/-- Lists of children that are similar are lists of nodes that are alike, if their items are. -/
theorem rel_childrenOf {w w' : Json} (similar : Similar (.list (.struct .node)) w w')
    (each : ∀ u u', sizeOf u < sizeOf w → Similar (.struct .node) u u' →
      Alike (decode u) (decode u')) :
    Option.Rel (List.Forall₂ Alike) (childrenOf w fun u _ => decode u).toOption
      (childrenOf w' fun u _ => decode u).toOption := by
  rw [toOption_childrenOf, toOption_childrenOf]
  rcases similar.list_cases with ⟨items, items', rfl, rfl, all⟩ | ⟨rfl, other⟩
  · have small : ∀ u ∈ items, sizeOf u < sizeOf (Json.array items) := by
      intro u mem
      have := List.sizeOf_lt_of_mem mem
      simp only [Json.array.sizeOf_spec]
      omega
    have both := (List.forall₂_and_left _ _).mpr ⟨small, all⟩
    refine .some (List.forall₂_map_left_iff.mpr (List.forall₂_map_right_iff.mpr ?_))
    exact both.imp fun u u' h => each u u' h.1 h.2
  · cases w with
    | array items => exact absurd rfl (other items)
    | null => exact .some .nil
    | _ => exact .none

/-- A node is read alike from similar values, since its children are smaller. -/
theorem rel_fromJson (v v' : Json) (similar : Similar (.struct .node) v v') :
    Option.Rel Alike (fromJson v).toOption (fromJson v').toOption := by
  have inner : ∀ u u', sizeOf u < sizeOf v → Similar (.struct .node) u u' →
      Alike (decode u) (decode u') :=
    fun u u' _h similar => alike_decode similar (rel_fromJson u u' similar)
  have position : Position.codec.ReadsAlike (Similar (.struct .position)) Eq :=
    StructType.readsAlike_of_flat fun _ => rfl
  have children : ∀ {fromWritten toItems}, Field.AgreesWith
      (childrenField (fun w (_ : sizeOf w < sizeOf v) => childrenOf w fun u _ => decode u)
        fromWritten toItems)
      (childrenField (fun w (_ : sizeOf w < sizeOf v') => childrenOf w fun u _ => decode u)
        fromWritten toItems)
      (Similar (.list (.struct .node))) (List.Forall₂ Alike) := by
    intro fromWritten toItems
    refine ⟨rfl, .some .nil, ?_⟩
    intro w w' h h' similar
    exact rel_childrenOf similar fun u u' less => inner u u' (Nat.lt_trans less h)
  refine StructType.node.rel_of_agree ?_ similar.slotsAlike
  unfold StructType.table record
  apply_rules [Agree.optional, Similar.tellsNull, readsAlike_asIs, readsAlike_list, position]
  refine .field ?_ children
  apply_rules [Agree.build, Agree.required, Agree.withDefault, Agree.optional, Similar.tellsNull,
    readsAlike_asIs]
  rintro id _ rfl kind _ rfl name _ rfl properties _ rfl style _ rfl nodes nodes' each
    position _ rfl data _ rfl dataSource _ rfl content _ rfl items _ rfl action _ rfl
  exact .own each rfl
termination_by sizeOf v

theorem readsAlike : codec.ReadsAlike (Similar (.struct .node)) Alike := rel_fromJson

end Node

/-- A section is a node unless it is missing or null. -/
theorem Sections.agreesWith_sectionField {whole whole' : Json} (name : String)
    (project : Sections → Option Node) :
    Field.AgreesWith (sectionField name project : Field whole Sections (Option Node))
      (sectionField name project : Field whole' Sections (Option Node)) (Similar (.struct .node))
      (Option.Rel Node.Alike) := by
  refine ⟨rfl, .some .none, ?_⟩
  intro w w' _ _ similar
  have nodes := Node.alike_decode similar (Node.rel_fromJson w w' similar)
  have nulls := Similar.tellsNull _ w w' similar
  change Option.Rel _ (Node.sectionOf w).toOption (Node.sectionOf w').toOption
  by_cases null : w = .null
  · rw [nulls.mp null, null]
    exact .some .none
  · have present : ∀ {v : Json}, v ≠ .null → Node.sectionOf v = .ok (some (Node.decode v)) := by
      intro v other
      cases v with
      | null => exact absurd rfl other
      | _ => rfl
    rw [present null, present (mt nulls.mpr null)]
    exact .some (.some nodes)

theorem Sections.readsAlike : codec.ReadsAlike (Similar (.struct .sections)) Alike := by
  refine StructType.readsAlike_of_agree fun v v' => ?_
  refine .field (.field (.field (.build ?_) (agreesWith_sectionField _ _))
    (agreesWith_sectionField _ _)) (agreesWith_sectionField _ _)
  exact fun _ _ topBar _ _ body _ _ bottomBar => ⟨topBar, body, bottomBar⟩

theorem ScreenDefinition.readsAlike :
    codec.ReadsAlike (Similar (.struct .screenDefinition)) Alike := by
  refine StructType.readsAlike_of_agree fun v v' => ?_
  have none : Sections.Alike {} {} := ⟨.none, .none, .none⟩
  apply_rules [Agree.build, Agree.required, Agree.withDefault, Agree.optional, Similar.tellsNull,
    readsAlike_asIs, Sections.readsAlike, none]
  rintro id _ rfl kind _ rfl name _ rfl style _ rfl sections sections' alike references _ rfl
  exact ⟨alike, rfl⟩

theorem ScreenSchema.readsAlike : codec.ReadsAlike (Similar (.struct .screenSchema)) Alike := by
  have document : DocumentMeta.codec.ReadsAlike (Similar (.struct .documentMeta)) Eq :=
    StructType.readsAlike_of_flat fun _ => rfl
  refine StructType.readsAlike_of_agree fun v v' => ?_
  refine .required (.required (.build ?_) document) ScreenDefinition.readsAlike
  exact fun _ _ document _ _ screen => ⟨document, screen⟩

namespace StructType

/-- Two structures are alike if they are equal, but for fallback nodes. -/
def Alike : (t : StructType) → t.Value → t.Value → Prop
  | node => Node.Alike
  | sections => Sections.Alike
  | screenDefinition => ScreenDefinition.Alike
  | screenSchema => ScreenSchema.Alike
  | _ => Eq

/-- Every structure is read alike from similar values. -/
theorem readsAlike (t : StructType) : t.codec.ReadsAlike (Similar (.struct t)) t.Alike := by
  cases t with
  | screenSchema => exact ScreenSchema.readsAlike
  | screenDefinition => exact ScreenDefinition.readsAlike
  | sections => exact Sections.readsAlike
  | node => exact Node.readsAlike
  | stateSet => exact readsAlike_stateSet
  | stateModel => exact readsAlike_stateModel
  | screenData => exact readsAlike_screenData
  | fieldData => exact readsAlike_fieldData
  | componentData => exact rel_component
  | cardItem => exact readsAlike_cardItem
  | saveRequest => exact readsAlike_saveRequest
  | executionResponse => exact readsAlike_executionResponse
  | _ => exact readsAlike_of_flat fun _ => rfl

end StructType

/-- The order of the members of an object does not matter, nor what else is in it.

A structure of any type is read equally from objects that hold the same under the names of its
fields.  The same goes for the structures inside it, at any depth: where values differ only in what
no field is named for, and in the order of members, the results are equal, but for fallback nodes,
which keep the values that they stand for.  Objects of any form are kept with their members in
order. -/
theorem member_order_is_immaterial :
    (∀ (t : StructType) (members members' : List (String × Json)),
      (∀ name ∈ t.names, Entries.get? members name = Entries.get? members' name) →
      (t.codec.fromJson (.object members)).toOption =
        (t.codec.fromJson (.object members')).toOption) ∧
    (∀ (t : StructType) (v v' : Json), Similar (.struct t) v v' →
      Option.Rel t.Alike (t.codec.fromJson v).toOption (t.codec.fromJson v').toOption) ∧
    ∀ members : List (String × Json),
      (∀ request, ExecutionRequest.codec.fromJson (.object members) = .ok request →
        KeptUnder members "context" request.context) ∧
      (∀ response, ExecutionResponse.codec.fromJson (.object members) = .ok response →
        KeptUnder members "context" response.context) ∧
      (∀ request, SaveRequest.codec.fromJson (.object members) = .ok request →
        KeptUnder members "predefined_context" request.predefinedContext) ∧
      (∀ action, ActionData.codec.fromJson (.object members) = .ok action →
        KeptUnder members "params" action.params) ∧
      (∀ screen, ScreenDefinition.codec.fromJson (.object members) = .ok screen →
        KeptUnder members "style" screen.style ∧
          KeptUnder members "references" screen.references) ∧
      ∀ node, Node.codec.fromJson (.object members) = .ok node →
        KeptUnder members "properties" node.properties ∧ KeptUnder members "style" node.style ∧
          node.action.map Json.object = (Entries.get? members "action").filter (· ≠ .null) := by
  refine ⟨fun t members members' same => ?_, StructType.readsAlike, fun members => ?_⟩
  · refine t.toOption_eq_of_slots ⟨rfl, fun {place name} found => ?_⟩
    change Option.Rel Eq (Entries.get? members name) (Entries.get? members' name)
    rw [same name (List.mem_of_getElem? found)]
    exact rel_eq_refl _
  · exact ⟨ExecutionRequest.keeps_context members, ExecutionResponse.keeps_context members,
      SaveRequest.keeps_context members, ActionData.keeps_params members,
      ScreenDefinition.keeps_objects members, Node.keeps_objects members⟩

/-- An answer with a screen, and the same with its members in another order and with others between
them. -/
theorem reordered_answer_is_read_alike :
    let screen : Json := .object [("title", .string "Sign in"), ("description", .null)]
    let screen' : Json := .object
      [("theme", .string "dark"), ("description", .null), ("title", .string "Sign in")]
    let context : List (String × Json) := [("email", .string "a@b.c"), ("age", .null)]
    let members : List (String × Json) :=
      [("session_id", .string "s"), ("context", .object context),
        ("current_state", .string "login"), ("state_type", .string "screen"), ("screen", screen)]
    let members' : List (String × Json) :=
      [("screen", screen'), ("trace", .array []), ("state_type", .string "screen"),
        ("current_state", .string "login"), ("context", .object context),
        ("session_id", .string "s")]
    let health : List (String × Json) := [("status", .string "ok")]
    let health' : List (String × Json) := [("uptime", .null), ("status", .string "ok")]
    (HealthResponse.codec.fromJson (.object health)).toOption =
        (HealthResponse.codec.fromJson (.object health')).toOption ∧
      (ExecutionResponse.codec.fromJson (.object members)).toOption =
        (ExecutionResponse.codec.fromJson (.object members')).toOption ∧
      ∃ response, ExecutionResponse.codec.fromJson (.object members') = .ok response ∧
        response.context = context := by
  intro screen screen' context members members' health health'
  obtain ⟨flat, deep, kept⟩ := member_order_is_immaterial
  have screens : Similar (.struct .screenData) screen screen' := by
    refine .object fun name mem => ?_
    change name ∈ ["title", "description", "fields", "buttons", "components"] at mem
    simp only [List.mem_cons, List.not_mem_nil, or_false] at mem
    rcases mem with rfl | rfl | rfl | rfl | rfl
    · exact .inr ⟨_, _, rfl, rfl, .refl _ _⟩
    · exact .inr ⟨_, _, rfl, rfl, .refl _ _⟩
    · exact .inl ⟨rfl, rfl⟩
    · exact .inl ⟨rfl, rfl⟩
    · exact .inl ⟨rfl, rfl⟩
  have answers : Similar (.struct .executionResponse) (.object members) (.object members') := by
    refine .object fun name mem => ?_
    change name ∈ ["session_id", "context", "current_state", "state_type", "screen"] at mem
    simp only [List.mem_cons, List.not_mem_nil, or_false] at mem
    rcases mem with rfl | rfl | rfl | rfl | rfl
    · exact .inr ⟨_, _, rfl, rfl, .refl _ _⟩
    · exact .inr ⟨_, _, rfl, rfl, .refl _ _⟩
    · exact .inr ⟨_, _, rfl, rfl, .refl _ _⟩
    · exact .inr ⟨_, _, rfl, rfl, .refl _ _⟩
    · exact .inr ⟨_, _, rfl, rfl, screens⟩
  have sameHealth : ∀ name ∈ StructType.healthResponse.names,
      Entries.get? health name = Entries.get? health' name := by
    intro name mem
    rw [List.mem_singleton.mp mem]
    rfl
  have read : ∃ response, ExecutionResponse.codec.fromJson (.object members') = .ok response :=
    ⟨_, rfl⟩
  obtain ⟨response, done⟩ := read
  refine ⟨flat .healthResponse health health' sameHealth,
    eq_of_rel_eq (deep .executionResponse _ _ answers), response, done, ?_⟩
  · rcases (kept members').2.1 response done with found | ⟨none, -⟩
    · exact (Json.object.inj (Option.some.inj found)).symm
    · cases none

end ServerDriven
