/-
Module: ServerDriven.Workflow.View
Purpose: What a user sees of a session.
Main exports:
  WorkflowView, WorkflowView.begin, WorkflowView.arrive, WorkflowView.fail, WorkflowView.finish,
  WorkflowView.clearError, WorkflowView.isBusy
-/
import ServerDriven.Workflow.Error
import ServerDriven.Workflow.State

namespace ServerDriven

/-- What a user sees of a session. -/
structure WorkflowView where
  isLoading : Bool := false
  currentState : Option String := none
  stateType : Option StateType := none
  screen : Option ScreenData := none
  context : Context := []
  /-- What of the context the user may see. -/
  visibleContext : Context := []
  /-- What the user reads about a call that did not go well. -/
  error? : Option String := none
  errorCategory? : Option ErrorCategory := none
  sessionId : Option String := none
  workflowId : Option String := none
deriving Repr, Inhabited, BEq

namespace WorkflowView

/-- What a user reads when the workflow itself has gone into its error state. -/
def errorStateMessage : String := "Workflow error state"

/-- Nothing can be done while a call is under way, or in a state that the server leaves by itself.
-/
def isBusy (view : WorkflowView) : Bool :=
  view.isLoading || view.stateType.any StateType.isTransient

def clearError (view : WorkflowView) : WorkflowView :=
  { view with error? := none, errorCategory? := none }

/-- A call is under way. -/
def begin (view : WorkflowView) : WorkflowView := { view.clearError with isLoading := true }

/-- A call has led to a state.  An empty id of the workflow says nothing. -/
def arrive (view : WorkflowView) (state : WorkflowState) : WorkflowView where
  isLoading := false
  currentState := some state.currentState
  stateType := some state.stateType
  screen := state.screen
  context := state.context
  visibleContext := state.context.visible
  error? := if state.isError then some errorStateMessage else none
  errorCategory? := none
  sessionId := some state.sessionId
  workflowId := if state.workflowId.isEmpty then view.workflowId else some state.workflowId

/-- A call has failed.  The user reads the message of the category, and nothing that the failure
itself says. -/
def fail (view : WorkflowView) (e : WorkflowError) : WorkflowView :=
  { view with
    isLoading := false
    error? := some e.category.userMessage
    errorCategory? := some e.category }

/-- A call has ended. -/
def finish (view : WorkflowView) : Except WorkflowError WorkflowState → WorkflowView
  | .ok state => view.arrive state
  | .error e => view.fail e

end WorkflowView

end ServerDriven
