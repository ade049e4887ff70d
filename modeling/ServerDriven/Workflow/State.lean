/-
Module: ServerDriven.Workflow.State
Purpose: Where one session of a workflow stands after a call.
Main exports:
  WorkflowState, WorkflowState.arrive, WorkflowState.ofResponse, WorkflowState.isCompleted
-/
import ServerDriven.Context.Basic
import ServerDriven.Workflow.Message

namespace ServerDriven

/-- Where a session stands.  The screen is kept only in a state that shows one. -/
structure WorkflowState where
  sessionId : String
  /-- Empty if the server did not name the workflow. -/
  workflowId : String
  currentState : String
  stateType : StateType
  context : Context
  screen : Option ScreenData
  createdAt : Option String
  isError : Bool
deriving Repr, Inhabited, BEq

namespace WorkflowState

/-- The reserved key under which the server names the workflow. -/
def workflowIdKey : String := "__workflow_id"

/-- The reserved key under which the server says when the session began. -/
def createdAtKey : String := "__created_at"

/-- The name of the state into which a failing workflow goes. -/
def errorState : String := "__error__"

/-- A session that has arrived in a state. -/
def arrive (sessionId currentState : String) (stateType : StateType) (context : Context)
    (screen : Option ScreenData) : WorkflowState where
  sessionId
  workflowId := (context.text? workflowIdKey).getD ""
  currentState
  stateType
  context
  screen := if stateType = .screen then screen else none
  createdAt := context.text? createdAtKey
  isError := currentState = errorState

/-- The state that an answer of the server tells of. -/
def ofResponse (response : ExecutionResponse) : WorkflowState :=
  arrive response.sessionId response.currentState response.stateType
    (ContextValue.ofMembers response.context) response.screen

/-- Whether the session has reached the state of that name.  The error state completes nothing. -/
def isCompleted (state : WorkflowState) (completion : String) : Bool :=
  !state.isError && state.currentState = completion

end WorkflowState

end ServerDriven
