/-
Module: ServerDriven.Proofs.Codec.Structures
Purpose: The structures that are read from JSON objects, with the tables by which they are read.
Main exports:
  StructType, StructType.codec, StructType.table, StructType.names, StructType.fromJson_eq,
  StructType.agree_table, StructType.rel_of_agree
-/
import ServerDriven.Proofs.Codec.AlikeValues
import ServerDriven.Schema.Codec
import ServerDriven.Workflow.Message

namespace ServerDriven

open Record (Agree)

/-- The structures that are read from JSON objects. -/
inductive StructType where
  | screenSchema | documentMeta | screenDefinition | sections | node | position
  | stateSet | stateModel | transition | expression | integrationConfig
  | screenData | fieldData | validationConfig | linkData | buttonData | componentData | cardItem
  | actionData | statusStyle
  | saveRequest | saveResponse | executionRequest | executionResponse | healthResponse
deriving DecidableEq

namespace StructType

/-- What is read. -/
def Value : StructType → Type
  | screenSchema => ScreenSchema
  | documentMeta => DocumentMeta
  | screenDefinition => ScreenDefinition
  | sections => Sections
  | node => Node
  | position => Position
  | stateSet => StateSet
  | stateModel => StateModel
  | transition => Transition
  | expression => Expression
  | integrationConfig => IntegrationConfig
  | screenData => ScreenData
  | fieldData => FieldData
  | validationConfig => ValidationConfig
  | linkData => LinkData
  | buttonData => ButtonData
  | componentData => ComponentData
  | cardItem => CardItem
  | actionData => ActionData
  | statusStyle => StatusStyle
  | saveRequest => SaveRequest
  | saveResponse => SaveResponse
  | executionRequest => ExecutionRequest
  | executionResponse => ExecutionResponse
  | healthResponse => HealthResponse

/-- How it is read. -/
def codec : (t : StructType) → Codec t.Value
  | screenSchema => ScreenSchema.codec
  | documentMeta => DocumentMeta.codec
  | screenDefinition => ScreenDefinition.codec
  | sections => Sections.codec
  | node => Node.codec
  | position => Position.codec
  | stateSet => StateSet.codec
  | stateModel => StateModel.codec
  | transition => Transition.codec
  | expression => Expression.codec
  | integrationConfig => IntegrationConfig.codec
  | screenData => ScreenData.codec
  | fieldData => FieldData.codec
  | validationConfig => ValidationConfig.codec
  | linkData => LinkData.codec
  | buttonData => ButtonData.codec
  | componentData => ComponentData.codec
  | cardItem => CardItem.codec
  | actionData => ActionData.codec
  | statusStyle => StatusStyle.codec
  | saveRequest => SaveRequest.codec
  | saveResponse => SaveResponse.codec
  | executionRequest => ExecutionRequest.codec
  | executionResponse => ExecutionResponse.codec
  | healthResponse => HealthResponse.codec

/-- The table with which it is read. -/
def table : (t : StructType) → (whole : Json) → Record whole t.Value t.Value
  | screenSchema => ScreenSchema.record
  | documentMeta => DocumentMeta.record
  | screenDefinition => ScreenDefinition.record
  | sections => Sections.record
  | node => fun whole =>
    Node.record whole (Node.childrenField
      (fun w _ => Node.childrenOf w fun u _ => Node.orFallback u (Node.fromJson u))
      (fun _ _ => .error .unreadable) (fun _ => []))
  | position => Position.record
  | stateSet => StateSet.record
  | stateModel => StateModel.record
  | transition => Transition.record
  | expression => Expression.record
  | integrationConfig => IntegrationConfig.record
  | screenData => ScreenData.record
  | fieldData => FieldData.record
  | validationConfig => ValidationConfig.record
  | linkData => LinkData.record
  | buttonData => ButtonData.record
  | componentData => fun whole =>
    ComponentData.record whole (fun w _ => ComponentData.fromJson w) (fun _ => .error .unreadable)
      (fun _ => none) (fun _ => none)
  | cardItem => CardItem.record
  | actionData => ActionData.record
  | statusStyle => StatusStyle.record
  | saveRequest => SaveRequest.record
  | saveResponse => SaveResponse.record
  | executionRequest => ExecutionRequest.record
  | executionResponse => ExecutionResponse.record
  | healthResponse => HealthResponse.record

theorem fromJson_eq (t : StructType) (v : Json) :
    ∃ name, t.codec.fromJson v = (t.table v).fromJson name v (Nat.le_refl _) := by
  cases t with
  | node =>
      exact ⟨_, Node.fromJson.eq_1 v⟩
  | componentData =>
      exact ⟨_, ComponentData.fromJson.eq_1 v⟩
  | _ =>
      exact ⟨_, rfl⟩

/-- The names of its fields. -/
def names (t : StructType) : List String := (t.table .null).names

example : executionRequest.names =
    ["client_session_id", "client_workflow_id", "context", "event_name"] := rfl

/-- Every table reads its fields one by one, whatever the whole is that they are read from. -/
theorem agree_table (t : StructType) (whole whole' : Json) :
    Agree (fun _ => Eq) Eq (t.table whole) (t.table whole') := by
  have nulls : Codec.TellsNull Eq := by
    rintro v _ rfl
    exact Iff.rfl
  cases t with
  | sections =>
      apply_rules [Agree.lift_eq, Agree.build, Agree.field]
      all_goals
        exact Field.agreesWith_of_plain Node.sectionOf (fun _ _ => rfl) (fun _ _ => rfl) rfl rfl
  | node =>
      unfold table Node.record
      apply_rules [Agree.lift_eq, Agree.optional, nulls, Codec.readsAlike_eq]
      refine .field (.lift_eq ?_) ?_
      · apply_rules [Agree.lift_eq, Agree.build, Agree.required, Agree.withDefault,
          Agree.optional, nulls, Codec.readsAlike_eq]
      · exact Field.agreesWith_of_plain (fun w => Node.childrenOf w fun u _ => Node.decode u)
          (fun _ _ => rfl) (fun _ _ => rfl) rfl rfl
  | componentData =>
      have inner : ∀ w w' : Json, sizeOf w < sizeOf whole → sizeOf w' < sizeOf whole' → w = w' →
          Option.Rel Eq (ComponentData.fromJson w).toOption
            (ComponentData.fromJson w').toOption := by
        rintro w _ - - rfl
        exact rel_eq_refl _
      unfold table ComponentData.record
      apply_rules [Agree.lift_eq, Agree.build, Agree.required, Agree.optional, Agree.nested, nulls,
        Codec.readsAlike_eq, inner]
  | _ =>
      apply_rules [Agree.lift_eq, Agree.build, Agree.required, Agree.withDefault, Agree.optional,
        nulls, Codec.readsAlike_eq]

theorem names_table (t : StructType) (whole : Json) : (t.table whole).names = t.names :=
  (t.agree_table whole .null).names_eq

/-- A structure is read alike from values that hold its fields alike, if the tables agree. -/
theorem rel_of_agree (t : StructType) {alike : String → Json → Json → Prop}
    {same : t.Value → t.Value → Prop} {v v' : Json}
    (agree : Agree alike same (t.table v) (t.table v'))
    (slots : Json.SlotsAlike alike t.names v v') :
    Option.Rel same (t.codec.fromJson v).toOption (t.codec.fromJson v').toOption := by
  obtain ⟨name, read⟩ := t.fromJson_eq v
  obtain ⟨name', read'⟩ := t.fromJson_eq v'
  rw [read, read']
  rw [← t.names_table v] at slots
  exact agree.fromJson (Nat.le_refl _) (Nat.le_refl _) slots name name'

/-- Values that hold the same fields are read as the same structure, or both as none. -/
theorem toOption_eq_of_slots (t : StructType) {v v' : Json}
    (slots : Json.SlotsAlike (fun _ => Eq) t.names v v') :
    (t.codec.fromJson v).toOption = (t.codec.fromJson v').toOption :=
  eq_of_rel_eq (t.rel_of_agree (t.agree_table v v') slots)

end StructType

end ServerDriven
