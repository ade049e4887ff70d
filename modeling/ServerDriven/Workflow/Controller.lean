/-
Module: ServerDriven.Workflow.Controller
Purpose: A session in the hands of a user.
Main exports:
  Intent, WorkflowController, WorkflowController.handle, WorkflowController.submit,
  WorkflowController.answer?
-/
import ServerDriven.Workflow.Line
import ServerDriven.Workflow.View

namespace ServerDriven

/-- What a user wants of a session. -/
inductive Intent where
  | start (workflowId : Option String)
  | event (name : String) (data : Context)
  | update (data : Context)
  | clearError
  | reset
deriving Repr, Inhabited

/-- The call that an intent asks for, if it asks for one. -/
def Intent.call? : Intent → Option Call
  | .start workflowId => some (.start workflowId [])
  | .event name data => some (.event name data)
  | .update data => some (.update data)
  | .clearError | .reset => none

/-- A session, its calls under way, and what the user sees. -/
structure WorkflowController (σ : Type) where
  line : CallLine σ
  view : Watched WorkflowView
deriving Repr, Inhabited

namespace WorkflowController

variable {σ : Type} [Storage σ]

/-- At first the user sees the ids that are kept. -/
def new (session : WorkflowSession σ) : WorkflowController σ :=
  ⟨.new session, .start { sessionId := session.id?, workflowId := session.workflowId? }⟩

/-- End the session and show nothing but the workflow that is kept. -/
def reset (c : WorkflowController σ) : WorkflowController σ :=
  let line := c.line.clear
  ⟨line, c.view.publish { workflowId := line.session.workflowId? }⟩

def clearError (c : WorkflowController σ) : WorkflowController σ :=
  { c with view := c.view.change WorkflowView.clearError }

def begin (c : WorkflowController σ) : WorkflowController σ :=
  { c with view := c.view.change WorkflowView.begin }

def finish (c : WorkflowController σ) (result : Except WorkflowError WorkflowState) :
    WorkflowController σ :=
  { c with view := c.view.change fun view => view.finish result }

/-! ### One intent after the other -/

section Handle

variable {m : Type → Type} [Monad m]

/-- Act on an intent while no call is under way. -/
def handle (api : Api m) (fresh : Nat → String) (intent : Intent) :
    StateT (WorkflowController σ) m Unit := do
  match intent.call? with
  | some call =>
    modify begin
    let c ← get
    let (result, session) ← (WorkflowSession.call api fresh call).run c.line.session
    set (finish { c with line := { c.line with session } } result)
  | none => modify fun c => match intent with
    | .reset => c.reset
    | _ => c.clearError

end Handle

/-! ### Intents that overlap -/

/-- Take an intent, under a number of its own.  A call goes in line, unless it fails at once. -/
def submit (c : WorkflowController σ) (number : Nat) (intent : Intent) : WorkflowController σ :=
  match intent with
  | .reset => c.reset
  | .clearError => c.clearError
  | _ =>
    match intent.call? with
    | none => c
    | some call =>
      let c := c.begin
      match c.line.issue number call with
      | .ok line => { c with line }
      | .error e => c.finish (.error e)

/-- Whether a call under that number is in the line. -/
def isUnderWay (c : WorkflowController σ) (number : Nat) : Bool :=
  c.line.calls.any (·.1 == number)

def begin? (policy : RetryPolicy) (fresh : Nat → String) (c : WorkflowController σ) :
    Option (ExecutionRequest × WorkflowController σ) :=
  (c.line.begin? policy fresh).map fun (request, line) => (request, { c with line })

def again? (c : WorkflowController σ) : Option (ExecutionRequest × WorkflowController σ) :=
  c.line.again?.map fun (request, line) => (request, { c with line })

/-- Take in an answer; the pause before the next attempt, if there is one, is given too. -/
def answer? (policy : RetryPolicy) (result : Except WorkflowError ExecutionResponse)
    (c : WorkflowController σ) : Option (Option Duration × WorkflowController σ) :=
  match c.line.answer? policy result with
  | some (.pause wait line) => some (some wait, { c with line })
  | some (.ended _ result line) => some (none, finish { c with line } result)
  | none => none

end WorkflowController

end ServerDriven
