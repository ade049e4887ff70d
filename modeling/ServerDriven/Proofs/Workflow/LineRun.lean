/-
Module: ServerDriven.Proofs.Workflow.LineRun
Purpose: The steps that calls take on a session when they overlap, in any order, and those that a
  user takes meanwhile.
Main exports:
  CallEvent, LineEvent, CallLine.callStep, CallLine.step, CallLine.begin?_cases,
  CallLine.answer?_cases, CallLine.again?_cases, IntentEvent, WorkflowController.step,
  WorkflowController.line_step
-/
import ServerDriven.Proofs.Run
import ServerDriven.Workflow.Controller

namespace ServerDriven

open Run

/-! ### Calls in line -/

/-- What can happen to calls that overlap. -/
inductive CallEvent where
  | issue (number : Nat) (c : Call)
  | begin
  /-- The server answers the call whose turn it is, or cannot be reached. -/
  | answer (result : Except WorkflowError ExecutionResponse)
  /-- A pause is over. -/
  | again

/-- What can happen to a session with calls under way. -/
inductive LineEvent where
  | call (event : CallEvent)
  | clear
  | keepWorkflow (id : String)

namespace CallLine

variable {σ : Type} [Storage σ] (policy : RetryPolicy) (fresh : Nat → String) (line : CallLine σ)

/-- What becomes of a line.  An event that cannot happen changes nothing. -/
def callStep : CallEvent → CallLine σ
  | .issue number c => (line.issue number c).toOption.getD line
  | .begin => ((line.begin? policy fresh).map Prod.snd).getD line
  | .answer result =>
    match line.answer? policy result with
    | some (.pause _ next) | some (.ended _ _ next) => next
    | none => line
  | .again => (line.again?.map Prod.snd).getD line

def step : LineEvent → CallLine σ
  | .call event => line.callStep policy fresh event
  | .clear => line.clear
  | .keepWorkflow id => line.keepWorkflow id

/-! ### What each event can do -/

/-- Only the first call in a line without a turn begins. -/
theorem begin?_cases :
    line.begin? policy fresh = none ∨
      ∃ number pending rest backoff, line.turn = none ∧ line.calls = (number, pending) :: rest ∧
        line.begin? policy fresh =
          some ((line.session.request fresh pending).1,
            { line with
              session := (line.session.request fresh pending).2
              turn := some ⟨(line.session.request fresh pending).1, backoff, false⟩ }) := by
  obtain ⟨session, calls, turn⟩ := line
  cases turn with
  | some turn =>
      exact .inl rfl
  | none =>
      rcases calls with _ | ⟨⟨number, pending⟩, rest⟩
      · exact .inl rfl
      · exact .inr ⟨number, pending, rest, _, rfl, rfl, rfl⟩

/-- The call that waits for an answer pauses if it may try again, or it ends. -/
theorem answer?_of_turn {line : CallLine σ} {request : ExecutionRequest} {backoff : Backoff}
    {number : Nat} {pending : Pending} {rest : List (Nat × Pending)}
    (has : line.turn = some ⟨request, backoff, false⟩)
    (calls : line.calls = (number, pending) :: rest)
    (result : Except WorkflowError ExecutionResponse) :
    (∃ wait left, backoff.next? policy WorkflowError.isRetryable result = some (wait, left) ∧
        line.answer? policy result =
          some (.pause wait { line with turn := some ⟨request, left, true⟩ })) ∨
      backoff.next? policy WorkflowError.isRetryable result = none ∧
        line.answer? policy result =
          some (.ended number (line.session.settle pending result).1
            ⟨(line.session.settle pending result).2, rest, none⟩) := by
  obtain ⟨session, calls', turn⟩ := line
  subst has calls
  unfold answer?
  dsimp only
  split
  · rename_i wait left next
    exact .inl ⟨wait, left, next, rfl⟩
  · rename_i none
    exact .inr ⟨none, rfl⟩

/-- Only a call that waits for an answer takes one. -/
theorem answer?_cases (result : Except WorkflowError ExecutionResponse) :
    line.answer? policy result = none ∨
      ∃ number pending rest request backoff,
        line.turn = some ⟨request, backoff, false⟩ ∧ line.calls = (number, pending) :: rest ∧
        ((∃ wait left, backoff.next? policy WorkflowError.isRetryable result = some (wait, left) ∧
            line.answer? policy result =
              some (.pause wait { line with turn := some ⟨request, left, true⟩ })) ∨
          backoff.next? policy WorkflowError.isRetryable result = none ∧
            line.answer? policy result =
              some (.ended number (line.session.settle pending result).1
                ⟨(line.session.settle pending result).2, rest, none⟩)) := by
  obtain ⟨session, calls, turn⟩ := line
  rcases turn with _ | ⟨request, backoff, _ | _⟩
  · exact .inl rfl
  · rcases calls with _ | ⟨⟨number, pending⟩, rest⟩
    · exact .inl rfl
    · exact .inr ⟨number, pending, rest, request, backoff, rfl, rfl,
        answer?_of_turn policy rfl rfl result⟩
  · exact .inl rfl

omit [Storage σ] in
/-- Only a call that pauses tries again, with the request that it has sent before. -/
theorem again?_cases :
    line.again? = none ∨
      ∃ request backoff, line.turn = some ⟨request, backoff, true⟩ ∧
        line.again? = some (request, { line with turn := some ⟨request, backoff, false⟩ }) := by
  obtain ⟨session, calls, turn⟩ := line
  rcases turn with _ | ⟨request, backoff, _ | _⟩
  · exact .inl rfl
  · exact .inl rfl
  · exact .inr ⟨request, backoff, rfl, rfl⟩

/-- A call fails at once, or it goes to the end of the line. -/
theorem issue_cases (number : Nat) (c : Call) :
    (∃ e, line.session.issue c = .error e ∧ line.issue number c = .error e) ∨
      ∃ pending, line.session.issue c = .ok pending ∧
        line.issue number c = .ok { line with calls := line.calls ++ [(number, pending)] } := by
  unfold issue
  cases line.session.issue c with
  | error e =>
      exact .inl ⟨e, rfl, rfl⟩
  | ok pending =>
      exact .inr ⟨pending, rfl, rfl⟩

end CallLine

/-! ### A user with calls under way -/

/-- What can happen to a session in the hands of a user. -/
inductive IntentEvent where
  | submit (number : Nat) (intent : Intent)
  | begin
  | answer (result : Except WorkflowError ExecutionResponse)
  | again

/-- What an event means to the line of calls. -/
def IntentEvent.lineEvent? : IntentEvent → Option LineEvent
  | .submit _ .reset => some .clear
  | .submit number intent => intent.call?.map fun c => .call (.issue number c)
  | .begin => some (.call .begin)
  | .answer result => some (.call (.answer result))
  | .again => some (.call .again)

namespace WorkflowController

variable {σ : Type} [Storage σ] (policy : RetryPolicy) (fresh : Nat → String)
  (c : WorkflowController σ)

/-- What becomes of a controller.  An event that cannot happen changes nothing. -/
def step : IntentEvent → WorkflowController σ
  | .submit number intent => c.submit number intent
  | .begin => ((c.begin? policy fresh).map Prod.snd).getD c
  | .answer result => ((c.answer? policy result).map Prod.snd).getD c
  | .again => (c.again?.map Prod.snd).getD c

/-- An intent that asks for a call shows that one is under way, and that it has failed if it does so
at once. -/
theorem submit_call {intent : Intent} (call : Call) (asks : intent.call? = some call)
    (number : Nat) :
    c.submit number intent =
      match c.line.issue number call with
      | .ok line => { c.begin with line }
      | .error e => c.begin.finish (.error e) := by
  cases intent with
  | start workflowId =>
      cases asks
      rfl
  | event name data =>
      cases asks
      rfl
  | update data =>
      cases asks
      rfl
  | clearError =>
      cases asks
  | reset =>
      cases asks

theorem line_submit_call {intent : Intent} (call : Call) (asks : intent.call? = some call)
    (number : Nat) :
    (c.submit number intent).line = (c.line.issue number call).toOption.getD c.line := by
  rw [c.submit_call call asks]
  cases c.line.issue number call <;> rfl

/-- The line of a controller is a machine of its own. -/
theorem line_step (event : IntentEvent) :
    (c.step policy fresh event).line =
      event.lineEvent?.elim c.line (c.line.step policy fresh) := by
  cases event with
  | submit number intent =>
      cases intent with
      | start workflowId =>
          exact c.line_submit_call (.start workflowId []) rfl number
      | event name data =>
          exact c.line_submit_call (.event name data) rfl number
      | update data =>
          exact c.line_submit_call (.update data) rfl number
      | clearError =>
          rfl
      | reset =>
          rfl
  | begin =>
      change (((c.line.begin? policy fresh).map _).map Prod.snd |>.getD c).line =
        ((c.line.begin? policy fresh).map Prod.snd).getD c.line
      cases c.line.begin? policy fresh <;> rfl
  | answer result =>
      change (((c.answer? policy result).map Prod.snd).getD c).line =
        match c.line.answer? policy result with
        | some (.pause _ next) | some (.ended _ _ next) => next
        | none => c.line
      unfold answer?
      cases c.line.answer? policy result with
      | none =>
          rfl
      | some progress =>
          cases progress <;> rfl
  | again =>
      change ((c.line.again?.map _).map Prod.snd |>.getD c).line =
        (c.line.again?.map Prod.snd).getD c.line
      cases c.line.again? <;> rfl

end WorkflowController

end ServerDriven
