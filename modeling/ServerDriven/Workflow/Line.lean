/-
Module: ServerDriven.Workflow.Line
Purpose: Calls of one session that overlap in time.
Main exports:
  Turn, CallLine, CallLine.issue, CallLine.begin?, CallLine.answer?, CallLine.again?,
  CallLine.clear, Progress
-/
import ServerDriven.Workflow.Session

namespace ServerDriven

/-!
Calls stand in line in the order in which they were issued, and only the first of them talks to the
server.  It keeps its turn through all its attempts and the pauses between them; the next call has
its turn when it has ended.  Each function here is one step that nothing interrupts.  Steps of
different kinds may follow each other in any order.
-/

/-- What the first call in the line is doing. -/
structure Turn where
  request : ExecutionRequest
  /-- What is left to try if the server fails. -/
  backoff : Backoff
  /-- Whether it waits for its next attempt, and not for an answer. -/
  isPausing : Bool
deriving Repr, Inhabited

/-- A session with its calls under way, each under a number of its own. -/
structure CallLine (σ : Type) where
  session : WorkflowSession σ
  calls : List (Nat × Pending)
  /-- None until the first call in the line has begun. -/
  turn : Option Turn
deriving Repr, Inhabited

/-- What comes of an answer. -/
inductive Progress (σ : Type) where
  /-- The call tries again after a pause. -/
  | pause (d : Duration) (line : CallLine σ)
  /-- The call is over. -/
  | ended (number : Nat) (result : Except WorkflowError WorkflowState) (line : CallLine σ)

namespace CallLine

variable {σ : Type} [Storage σ]

/-- A session without calls. -/
def new (session : WorkflowSession σ) : CallLine σ := ⟨session, [], none⟩

/-- Issue a call.  One that does not fail at once goes to the end of the line. -/
def issue (line : CallLine σ) (number : Nat) (c : Call) : Except WorkflowError (CallLine σ) :=
  (line.session.issue c).map fun pending =>
    { line with calls := line.calls ++ [(number, pending)] }

/-- Begin the first call in the line, if it has not begun: send its request.  An event has one
attempt, all else as many as the policy allows. -/
def begin? (policy : RetryPolicy) (fresh : Nat → String) (line : CallLine σ) :
    Option (ExecutionRequest × CallLine σ) :=
  match line.turn, line.calls with
  | none, (_, pending) :: _ =>
    let (request, session) := line.session.request fresh pending
    let backoff := Backoff.start (if request.isEvent then RetryPolicy.once else policy)
    some (request, { line with session, turn := some ⟨request, backoff, false⟩ })
  | _, _ => none

/-- Take in an answer.  A failure that may pass is followed by a pause while attempts are left. -/
def answer? (policy : RetryPolicy) (result : Except WorkflowError ExecutionResponse)
    (line : CallLine σ) : Option (Progress σ) :=
  match line.turn, line.calls with
  | some ⟨request, backoff, false⟩, (number, pending) :: rest =>
    match backoff.next? policy WorkflowError.isRetryable result with
    | some (wait, backoff) =>
      some (.pause wait { line with turn := some ⟨request, backoff, true⟩ })
    | none =>
      let (result, session) := line.session.settle pending result
      some (.ended number result ⟨session, rest, none⟩)
  | _, _ => none

/-- Send the same request again, when the pause is over. -/
def again? (line : CallLine σ) : Option (ExecutionRequest × CallLine σ) :=
  match line.turn with
  | some ⟨request, backoff, true⟩ =>
    some (request, { line with turn := some ⟨request, backoff, false⟩ })
  | _ => none

/-- End the session.  This does not wait for its turn. -/
def clear (line : CallLine σ) : CallLine σ := { line with session := line.session.clear }

/-- Keep the workflow that the server has taken over.  This does not wait for its turn. -/
def keepWorkflow (line : CallLine σ) (workflowId : String) : CallLine σ :=
  { line with session :=
    { line.session with store := Session.setWorkflowId line.session.store workflowId } }

end CallLine

end ServerDriven
