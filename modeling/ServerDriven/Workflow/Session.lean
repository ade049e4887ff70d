/-
Module: ServerDriven.Workflow.Session
Purpose: One session of a workflow: its calls to the server, and the state that it is in.
Main exports:
  WorkflowSession, Call, Pending, WorkflowSession.issue, WorkflowSession.request,
  WorkflowSession.settle, WorkflowSession.call, WorkflowSession.restore, WorkflowSession.save,
  WorkflowSession.clear, readableSessionId
-/
import ServerDriven.Session.Store
import ServerDriven.Watched
import ServerDriven.Workflow.Api
import ServerDriven.Workflow.State

namespace ServerDriven

/-!
A call has three parts.  When it is issued, the id of its workflow is looked up; a call that lacks
one it cannot do without fails there.  When its turn has come, the id of the session is looked up,
or made, and the request goes out.  When the answer is there, the session and its state are brought
up to date.  The parts are separate because other calls may come between the first two, and a user
may end the session between any of them.
-/

/-- A session that is kept in a storage. -/
structure WorkflowSession (σ : Type) where
  store : σ
  /-- The state after the latest answer; none before the first and after the end of the session. -/
  state : Watched (Option WorkflowState)
  /-- How many ids have been made up so far. -/
  minted : Nat
deriving Repr, Inhabited

/-- What is asked of the workflow server. -/
inductive Call where
  /-- Begin, or go on with a session that exists. -/
  | start (workflowId : Option String) (context : Context)
  | event (name : String) (data : Context)
  | update (data : Context)
deriving Repr, Inhabited

/-- A call that has been issued. -/
structure Pending where
  workflowId : Option String
  context : Context
  event : Option String
  /-- Whether the id of the workflow is kept once the call has succeeded. -/
  keepsWorkflow : Bool
deriving Repr, Inhabited

namespace WorkflowSession

variable {σ : Type} [Storage σ]

/-- A session on a storage, before the first call. -/
def new (store : σ) : WorkflowSession σ := ⟨store, .start none, 0⟩

def id? (s : WorkflowSession σ) : Option String := Session.id? s.store

def workflowId? (s : WorkflowSession σ) : Option String := Session.workflowId? s.store

/-- The failure of a start that has neither a workflow nor a session to go on with. -/
def missingWorkflow : WorkflowError := .validation "workflow_id is required for new session"

/-- Issue a call.  The workflow is the one that is asked for, or else the one that is kept. -/
def issue (s : WorkflowSession σ) : Call → Except WorkflowError Pending
  | .start workflowId context =>
    let workflowId := workflowId.orElse fun _ => s.workflowId?
    if workflowId.isNone ∧ s.id?.isNone then .error missingWorkflow
    else .ok ⟨workflowId, context, none, true⟩
  | .event name data => .ok ⟨s.workflowId?, data, some name, false⟩
  | .update data => .ok ⟨s.workflowId?, data, none, false⟩

/-- The request of a call whose turn has come.  A session without an id gets a fresh one. -/
def request (fresh : Nat → String) (pending : Pending) (s : WorkflowSession σ) :
    ExecutionRequest × WorkflowSession σ :=
  let (id, store) := Session.obtainId s.store (fresh s.minted)
  ({ sessionId := id
     workflowId := pending.workflowId
     context := ContextValue.toMembers pending.context
     event := pending.event },
    { s with store, minted := if s.id?.isSome then s.minted else s.minted + 1 })

/-- Take in the answer to a call.  The server decides on the id of the session; a failure changes
nothing. -/
def settle (pending : Pending) (result : Except WorkflowError ExecutionResponse)
    (s : WorkflowSession σ) : Except WorkflowError WorkflowState × WorkflowSession σ :=
  match result with
  | .error e => (.error e, s)
  | .ok response =>
    let state := WorkflowState.ofResponse response
    let store := Session.setId s.store response.sessionId
    let store := match pending.keepsWorkflow, pending.workflowId with
      | true, some workflowId => Session.setWorkflowId store workflowId
      | _, _ => store
    (.ok state, { s with store, state := s.state.publish (some state) })

/-- Forget the session. -/
def clear (s : WorkflowSession σ) : WorkflowSession σ :=
  { s with store := Session.clear s.store, state := s.state.publish none }

section Calls

variable {m : Type → Type} [Monad m]

/-- Make a call while no other is under way. -/
def call (api : Api m) (fresh : Nat → String) (c : Call) :
    StateT (WorkflowSession σ) m (Except WorkflowError WorkflowState) := do
  match (← get).issue c with
  | .error e => return .error e
  | .ok pending =>
    let request ← modifyGet (WorkflowSession.request fresh pending)
    let result ← api.execute request
    modifyGet (WorkflowSession.settle pending result)

/-- Go on with the session that is kept; nothing happens if there is none.  An id that is passed
only says that there is one. -/
def restore (api : Api m) (fresh : Nat → String) (given : Option String) :
    StateT (WorkflowSession σ) m (Option (Except WorkflowError WorkflowState)) := do
  if given.isNone ∧ (← get).id?.isNone then return none
  return some (← call api fresh (.start none []))

/-- Have the server keep a workflow, and keep its id. -/
def save (api : Api m) (states : StateSet) (context : Context) :
    StateT (WorkflowSession σ) m (Except WorkflowError String) := do
  match ← api.save ⟨states, ContextValue.toMembers context⟩ with
  | .error e => return .error e
  | .ok response =>
    modify fun s => { s with store := Session.setWorkflowId s.store response.workflowId }
    return .ok response.workflowId

/-- How the server is doing. -/
def health (api : Api m) : StateT (WorkflowSession σ) m (Except WorkflowError String) := do
  return (← api.health).map HealthResponse.status

end Calls

end WorkflowSession

/-- An id for a session that says whose it is and when it was made. -/
def readableSessionId (user : Option String) (millis : Int) (suffix : String) : String :=
  "session_" ++ user.getD "anonymous" ++ "_" ++ toString millis ++ "_" ++ suffix

end ServerDriven
