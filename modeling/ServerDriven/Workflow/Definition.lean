/-
Module: ServerDriven.Workflow.Definition
Purpose: Workflows as sets of states, as they are saved on the server.
Main exports:
  StateType, Transition, Expression, IntegrationConfig, StateModel, StateSet
-/
import ServerDriven.Codec.Record

namespace ServerDriven

/-- What kind of work a state does. -/
inductive StateType where
  /-- The server evaluates expressions and moves on. -/
  | technical
  /-- The server calls another service and moves on. -/
  | integration
  /-- The server waits for an event from the user. -/
  | screen
  /-- The beginning, the end, or an error. -/
  | service
deriving Repr, DecidableEq, Inhabited

namespace StateType

def table : List (String × StateType) :=
  [("technical", .technical), ("integration", .integration), ("screen", .screen),
    ("service", .service)]

def codec : Codec StateType := Codec.names table

def text : StateType → String
  | .technical => "technical"
  | .integration => "integration"
  | .screen => "screen"
  | .service => "service"

/-- The server leaves such a state by itself. -/
def isTransient : StateType → Bool
  | .technical | .integration => true
  | .screen | .service => false

/-- The user acts in such a state. -/
def isInteractive : StateType → Bool
  | .screen => true
  | _ => false

end StateType

/-- A way from one state to another. -/
structure Transition where
  target : String
  condition : Option String := none
  event : Option String := none
deriving Repr, DecidableEq, Inhabited

namespace Transition

/-- Taken by itself. -/
def unprompted (target : String) : Transition := { target }

/-- Taken when the client sends an event. -/
def onEvent (event target : String) : Transition := { target, event := some event }

/-- Taken only under a condition. -/
def when (transition : Transition) (condition : String) : Transition :=
  { transition with condition := some condition }

def record (whole : Json) : Record whole Transition Transition :=
  Record.build Transition.mk
    |>.required "target_state" Codec.string (·.target)
    |>.optional "condition" Codec.string (·.condition)
    |>.optional "event_name" Codec.string (·.event)

def codec : Codec Transition := Record.codec "Transition" record

end Transition

/-- An assignment of an expression to a variable. -/
structure Expression where
  variableName : String
  dependentVariables : List String
  expression : String
deriving Repr, DecidableEq, Inhabited

namespace Expression

def record (whole : Json) : Record whole Expression Expression :=
  Record.build Expression.mk
    |>.required "variable" Codec.string (·.variableName)
    |>.withDefault "dependent_variables" (Codec.list Codec.string) [] (·.dependentVariables)
    |>.required "expression" Codec.string (·.expression)

def codec : Codec Expression := Record.codec "Expression" record

end Expression

/-- A call of another service, whose answer goes into a variable. -/
structure IntegrationConfig where
  variableName : String
  url : String
  params : Dictionary String
  method : String
deriving Repr, DecidableEq, Inhabited

namespace IntegrationConfig

def record (whole : Json) : Record whole IntegrationConfig IntegrationConfig :=
  Record.build IntegrationConfig.mk
    |>.required "variable" Codec.string (·.variableName)
    |>.required "url" Codec.string (·.url)
    |>.withDefault "params" (Codec.dictionary Codec.string) Dictionary.empty (·.params)
    |>.withDefault "method" Codec.string "get" (·.method)

def codec : Codec IntegrationConfig := Record.codec "IntegrationConfig" record

end IntegrationConfig

/-- A state with what happens in it and the ways out of it. -/
structure StateModel where
  stateType : StateType
  name : String
  transitions : List Transition := []
  expressions : List Expression := []
  integration : Option IntegrationConfig := none
  isInitial : Bool := false
  isFinal : Bool := false
deriving Repr, DecidableEq, Inhabited

namespace StateModel

/-- A state without transitions, expressions or integration. -/
def ofName (name : String) (stateType : StateType) : StateModel := { stateType, name }

def addTransition (s : StateModel) (t : Transition) : StateModel :=
  { s with transitions := s.transitions ++ [t] }

def addExpression (s : StateModel) (e : Expression) : StateModel :=
  { s with expressions := s.expressions ++ [e] }

def withIntegration (s : StateModel) (config : IntegrationConfig) : StateModel :=
  { s with integration := some config }

def initial (s : StateModel) : StateModel := { s with isInitial := true }

def terminal (s : StateModel) : StateModel := { s with isFinal := true }

def record (whole : Json) : Record whole StateModel StateModel :=
  Record.build StateModel.mk
    |>.required "state_type" StateType.codec (·.stateType)
    |>.required "name" Codec.string (·.name)
    |>.withDefault "transitions" (Codec.list Transition.codec) [] (·.transitions)
    |>.withDefault "expressions" (Codec.list Expression.codec) [] (·.expressions)
    |>.optional "integration_config" IntegrationConfig.codec (·.integration)
    |>.withDefault "initial_state" Codec.bool false (·.isInitial)
    |>.withDefault "final_state" Codec.bool false (·.isFinal)

def codec : Codec StateModel := Record.codec "StateModel" record

end StateModel

/-- A workflow: its states. -/
structure StateSet where
  states : List StateModel
deriving Repr, DecidableEq, Inhabited

namespace StateSet

def record (whole : Json) : Record whole StateSet StateSet :=
  Record.build StateSet.mk
    |>.required "states" (Codec.list StateModel.codec) (·.states)

def codec : Codec StateSet := Record.codec "StateSet" record

end StateSet

end ServerDriven
