/-
Module: ServerDriven.Proofs.Workflow.WireForm
Purpose: Workflows, the content of screens, requests and answers survive their JSON form.
Main exports:
  StateModel.keeps, ComponentData.keeps_of_parts, ComponentData.keeps, ScreenData.keeps,
  wire_types_are_faithful
-/
import ServerDriven.Proofs.Codec.Restored
import ServerDriven.Workflow.Message

namespace ServerDriven

open Codec
open Record.Restores (build required withDefault optional nested)

/-!
The table of each type is gone through field by field.  What remains is that the types of its fields
keep their values.
-/

/-! ### Workflows -/

@[simp] theorem StateType.keeps (stateType : StateType) : codec.Keeps stateType := by
  cases stateType with
  | technical => exact ⟨rfl, nofun⟩
  | integration => exact ⟨rfl, nofun⟩
  | screen => exact ⟨rfl, nofun⟩
  | service => exact ⟨rfl, nofun⟩

@[simp] theorem Transition.keeps (transition : Transition) : codec.Keeps transition := by
  apply Record.keeps_codec
  · intro whole
    apply_rules [build, required, withDefault, optional]
    all_goals simp
  · decide
  · rfl

@[simp] theorem Expression.keeps (expression : Expression) : codec.Keeps expression := by
  apply Record.keeps_codec
  · intro whole
    apply_rules [build, required, withDefault, optional]
    all_goals simp
  · decide
  · rfl

@[simp] theorem IntegrationConfig.keeps (config : IntegrationConfig) : codec.Keeps config := by
  apply Record.keeps_codec
  · intro whole
    apply_rules [build, required, withDefault, optional]
    all_goals simp
  · decide
  · rfl

@[simp] theorem StateModel.keeps (state : StateModel) : codec.Keeps state := by
  apply Record.keeps_codec
  · intro whole
    apply_rules [build, required, withDefault, optional]
    all_goals simp
  · decide
  · rfl

@[simp] theorem StateSet.keeps (states : StateSet) : codec.Keeps states := by
  apply Record.keeps_codec
  · intro whole
    apply_rules [build, required, withDefault, optional]
    all_goals simp
  · decide
  · rfl

/-! ### Screens -/

@[simp] theorem ValidationConfig.keeps (validation : ValidationConfig) :
    codec.Keeps validation := by
  apply Record.keeps_codec
  · intro whole
    apply_rules [build, required, withDefault, optional]
    all_goals simp
  · decide
  · rfl

@[simp] theorem LinkData.keeps (link : LinkData) : codec.Keeps link := by
  apply Record.keeps_codec
  · intro whole
    apply_rules [build, required, withDefault, optional]
  · decide
  · rfl

@[simp] theorem FieldData.keeps (field : FieldData) : codec.Keeps field := by
  apply Record.keeps_codec
  · intro whole
    apply_rules [build, required, withDefault, optional]
    all_goals simp
  · decide
  · rfl

@[simp] theorem ButtonData.keeps (button : ButtonData) : codec.Keeps button := by
  apply Record.keeps_codec
  · intro whole
    apply_rules [build, required, withDefault, optional]
    all_goals simp
  · decide
  · rfl

@[simp] theorem ActionData.keeps (action : ActionData) : codec.Keeps action := by
  apply Record.keeps_codec
  · intro whole
    apply_rules [build, required, withDefault, optional]
  · decide
  · rfl

@[simp] theorem CardItem.keeps (card : CardItem) : codec.Keeps card := by
  apply Record.keeps_codec
  · intro whole
    apply_rules [build, required, withDefault, optional]
    all_goals simp
  · decide
  · rfl

@[simp] theorem StatusStyle.keeps (style : StatusStyle) : codec.Keeps style := by
  apply Record.keeps_codec
  · intro whole
    apply_rules [build, required, withDefault, optional]
  · decide
  · rfl

namespace ComponentData

theorem optionToJson?_eq (component? : Option ComponentData) :
    optionToJson? component? = component?.map toJson := by
  cases component? with
  | none => rfl
  | some component => rfl

/-- The table with which a component is written. -/
def writer (component : ComponentData) : Record .null ComponentData ComponentData :=
  record .null (fun _ _ => .error .unreadable) (fun _ => .error .unreadable)
    (fun _ => optionToJson? component.ifTrue) (fun _ => optionToJson? component.ifFalse)

theorem toJson_eq (component : ComponentData) :
    toJson component = .object (Record.toMembers component component.writer) := by
  cases component
  rw [toJson]
  rfl

/-- A component is kept if those in it are. -/
theorem keeps_of_parts {component : ComponentData}
    (ifTrue : ∀ part, component.ifTrue = some part → codec.Keeps part)
    (ifFalse : ∀ part, component.ifFalse = some part → codec.Keeps part) :
    codec.Keeps component := by
  -- The parts are read with one table and written with another.
  have fields : ∀ whole, Record.Restores component
      (record whole (fun w _ => fromJson w) (fun _ => .error .unreadable) (fun _ => none)
        (fun _ => none)) component.writer := by
    intro whole
    refine nested (nested ?_ toJson ?_ ?_) toJson ?_ ?_
    · apply_rules [build, required, withDefault, optional]
      all_goals simp
    · exact optionToJson?_eq component.ifTrue
    · intro part holds
      exact ⟨(ifTrue part holds).present, fun _ => (ifTrue part holds).restored⟩
    · exact optionToJson?_eq component.ifFalse
    · intro part holds
      exact ⟨(ifFalse part holds).present, fun _ => (ifFalse part holds).restored⟩
  have distinct : component.writer.names.Nodup := by
    change (record .null (fun _ _ => .error .unreadable) (fun _ => .error .unreadable)
      (fun _ => none) (fun _ => none)).names.Nodup
    decide
  have rebuilt : component.writer.rebuild component = component := by
    cases component
    rfl
  apply Record.keeps_of_tables fields distinct rebuilt (toJson_eq component)
  intro v
  change fromJson v = _
  rw [fromJson]

theorem sizeOf_part_lt {component part : ComponentData}
    (inside : component.ifTrue = some part ∨ component.ifFalse = some part) :
    sizeOf part < sizeOf component := by
  cases component
  rcases inside with rfl | rfl
  · simp
    omega
  · simp
    omega

/-- The induction is on the size of a component, since its parts are in options. -/
@[simp] theorem keeps (component : ComponentData) : codec.Keeps component := by
  apply keeps_of_parts
  · intro part holds
    have smaller : sizeOf part < sizeOf component := sizeOf_part_lt (.inl holds)
    exact keeps part
  · intro part holds
    have smaller : sizeOf part < sizeOf component := sizeOf_part_lt (.inr holds)
    exact keeps part
termination_by sizeOf component

end ComponentData

@[simp] theorem ScreenData.keeps (screen : ScreenData) : codec.Keeps screen := by
  apply Record.keeps_codec
  · intro whole
    apply_rules [build, required, withDefault, optional]
    all_goals simp
  · decide
  · rfl

/-! ### Requests and answers -/

@[simp] theorem SaveRequest.keeps (request : SaveRequest) : codec.Keeps request := by
  apply Record.keeps_codec
  · intro whole
    apply_rules [build, required, withDefault, optional]
    all_goals simp
  · decide
  · rfl

@[simp] theorem SaveResponse.keeps (response : SaveResponse) : codec.Keeps response := by
  apply Record.keeps_codec
  · intro whole
    apply_rules [build, required, withDefault, optional]
  · decide
  · rfl

@[simp] theorem ExecutionRequest.keeps (request : ExecutionRequest) : codec.Keeps request := by
  apply Record.keeps_codec
  · intro whole
    apply_rules [build, required, withDefault, optional]
    all_goals simp
  · decide
  · rfl

@[simp] theorem ExecutionResponse.keeps (response : ExecutionResponse) :
    codec.Keeps response := by
  apply Record.keeps_codec
  · intro whole
    apply_rules [build, required, withDefault, optional]
    all_goals simp
  · decide
  · rfl

@[simp] theorem HealthResponse.keeps (response : HealthResponse) : codec.Keeps response := by
  apply Record.keeps_codec
  · intro whole
    apply_rules [build, required, withDefault, optional]
  · decide
  · rfl

/-- Every workflow, every content of a screen, every request and every answer is read from its JSON
form as it was written: whichever of its optional parts are there, however deep its components are
nested, and whatever texts, numbers, dictionaries and JSON values are in it. -/
theorem wire_types_are_faithful :
    (StateSet.codec.IsFaithful ∧ StateModel.codec.IsFaithful ∧ Transition.codec.IsFaithful ∧
      Expression.codec.IsFaithful ∧ IntegrationConfig.codec.IsFaithful) ∧
    (ScreenData.codec.IsFaithful ∧ FieldData.codec.IsFaithful ∧
      ValidationConfig.codec.IsFaithful ∧ LinkData.codec.IsFaithful ∧
      ButtonData.codec.IsFaithful ∧ ComponentData.codec.IsFaithful ∧ CardItem.codec.IsFaithful ∧
      ActionData.codec.IsFaithful ∧ StatusStyle.codec.IsFaithful) ∧
    (SaveRequest.codec.IsFaithful ∧ SaveResponse.codec.IsFaithful ∧
      ExecutionRequest.codec.IsFaithful ∧ ExecutionResponse.codec.IsFaithful ∧
      HealthResponse.codec.IsFaithful) := by
  have definitions : StateSet.codec.IsFaithful ∧ StateModel.codec.IsFaithful ∧
      Transition.codec.IsFaithful ∧ Expression.codec.IsFaithful ∧
      IntegrationConfig.codec.IsFaithful := by
    refine ⟨?_, ?_, ?_, ?_, ?_⟩ <;> intro x <;> simp
  have screens : ScreenData.codec.IsFaithful ∧ FieldData.codec.IsFaithful ∧
      ValidationConfig.codec.IsFaithful ∧ LinkData.codec.IsFaithful ∧
      ButtonData.codec.IsFaithful ∧ ComponentData.codec.IsFaithful ∧ CardItem.codec.IsFaithful ∧
      ActionData.codec.IsFaithful ∧ StatusStyle.codec.IsFaithful := by
    refine ⟨?_, ?_, ?_, ?_, ?_, ?_, ?_, ?_, ?_⟩ <;> intro x <;> simp
  have messages : SaveRequest.codec.IsFaithful ∧ SaveResponse.codec.IsFaithful ∧
      ExecutionRequest.codec.IsFaithful ∧ ExecutionResponse.codec.IsFaithful ∧
      HealthResponse.codec.IsFaithful := by
    refine ⟨?_, ?_, ?_, ?_, ?_⟩ <;> intro x <;> simp
  exact ⟨definitions, screens, messages⟩

end ServerDriven
