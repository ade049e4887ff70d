/-
Module: ServerDriven.Session.Store
Purpose: The ids of the session and its workflow, as they are kept between runs.
Main exports:
  Session.id?, Session.isActive, Session.obtainId, Session.setId, Session.clear,
  Session.workflowId?, Session.setWorkflowId, Session.clearWorkflowId
-/
import ServerDriven.Storage.Basic

namespace ServerDriven.Session

variable {σ : Type} [Storage σ]

def idKey : String := "workflow_session_id"

def workflowIdKey : String := "workflow_workflow_id"

/-- What is kept under a key.  An empty text is as good as none. -/
def kept? (store : σ) (key : String) : Option String :=
  (Storage.get? store key).filter fun value => !value.isEmpty

/-- The id of the session. -/
def id? (store : σ) : Option String := kept? store idKey

def isActive (store : σ) : Bool := (id? store).isSome

def setId (store : σ) (id : String) : σ := Storage.put store idKey id

/-- Forget the session, but not its workflow. -/
def clear (store : σ) : σ := Storage.remove store idKey

/-- The id of the session; a fresh one is kept if there is none. -/
def obtainId (store : σ) (fresh : String) : String × σ :=
  match id? store with
  | some id => (id, store)
  | none => (fresh, setId store fresh)

/-- The id of the workflow. -/
def workflowId? (store : σ) : Option String := kept? store workflowIdKey

def setWorkflowId (store : σ) (id : String) : σ := Storage.put store workflowIdKey id

def clearWorkflowId (store : σ) : σ := Storage.remove store workflowIdKey

end ServerDriven.Session
