/-
Module: ServerDriven.Workflow.Message
Purpose: The requests that a client sends to the workflow server, and the answers.
Main exports:
  SaveRequest, SaveResponse, ExecutionRequest, ExecutionResponse, HealthResponse
-/
import ServerDriven.Workflow.Definition
import ServerDriven.Workflow.ScreenData

namespace ServerDriven

/-- Asks the server to keep a workflow. -/
structure SaveRequest where
  states : StateSet
  predefinedContext : List (String × Json)
deriving Repr, DecidableEq, Inhabited

namespace SaveRequest

def record (whole : Json) : Record whole SaveRequest SaveRequest :=
  Record.build SaveRequest.mk
    |>.required "states" StateSet.codec (·.states)
    |>.withDefault "predefined_context" Codec.object [] (·.predefinedContext)

def codec : Codec SaveRequest := Record.codec "SaveWorkflowRequest" record

end SaveRequest

/-- The ids under which the server keeps a workflow. -/
structure SaveResponse where
  status : String
  workflowId : String
  contextId : String
deriving Repr, DecidableEq, Inhabited

namespace SaveResponse

def record (whole : Json) : Record whole SaveResponse SaveResponse :=
  Record.build SaveResponse.mk
    |>.required "status" Codec.string (·.status)
    |>.required "wf_description_id" Codec.string (·.workflowId)
    |>.required "wf_context_id" Codec.string (·.contextId)

def codec : Codec SaveResponse := Record.codec "SaveWorkflowResponse" record

end SaveResponse

/-- Asks the server to start or resume a session, or with an event to advance it. -/
structure ExecutionRequest where
  sessionId : String
  workflowId : Option String := none
  context : List (String × Json) := []
  event : Option String := none
deriving Repr, DecidableEq, Inhabited

namespace ExecutionRequest

/-- Whether the request fires an event. -/
def isEvent (request : ExecutionRequest) : Bool := request.event.isSome

def record (whole : Json) : Record whole ExecutionRequest ExecutionRequest :=
  Record.build ExecutionRequest.mk
    |>.required "client_session_id" Codec.string (·.sessionId)
    |>.optional "client_workflow_id" Codec.string (·.workflowId)
    |>.withDefault "context" Codec.object [] (·.context)
    |>.optional "event_name" Codec.string (·.event)

def codec : Codec ExecutionRequest := Record.codec "WorkflowExecutionRequest" record

end ExecutionRequest

/-- Where a session stands after a request. -/
structure ExecutionResponse where
  sessionId : String
  context : List (String × Json)
  currentState : String
  stateType : StateType
  screen : Option ScreenData
deriving Repr, Inhabited, BEq

namespace ExecutionResponse

def record (whole : Json) : Record whole ExecutionResponse ExecutionResponse :=
  Record.build ExecutionResponse.mk
    |>.required "session_id" Codec.string (·.sessionId)
    |>.withDefault "context" Codec.object [] (·.context)
    |>.required "current_state" Codec.string (·.currentState)
    |>.required "state_type" StateType.codec (·.stateType)
    |>.optional "screen" ScreenData.codec (·.screen)

def codec : Codec ExecutionResponse := Record.codec "WorkflowExecutionResponse" record

end ExecutionResponse

/-- How the server is doing. -/
structure HealthResponse where
  status : String
deriving Repr, DecidableEq, Inhabited

namespace HealthResponse

def record (whole : Json) : Record whole HealthResponse HealthResponse :=
  Record.build HealthResponse.mk
    |>.required "status" Codec.string (·.status)

def codec : Codec HealthResponse := Record.codec "HealthCheckResponse" record

end HealthResponse

end ServerDriven
