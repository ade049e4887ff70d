/-
Module: ServerDriven.Proofs.Workflow.EndedSession
Purpose: When a session that a user has ended comes back through calls that are under way.
Main exports:
  CallLine.IsEnded, CallLine.revives, CallLine.isEnded_step, WorkflowController.IsEnded,
  WorkflowController.revives, stays_ended_iff_nothing_revives, late_answer_revives_session
-/
import ServerDriven.Proofs.Session.Kept
import ServerDriven.Proofs.Workflow.LineRun
import ServerDriven.Storage.File

namespace ServerDriven

open Run

/-!
Ending a session does not wait for the calls in line, and does not take them out of it.  A call that
has its turn afterwards makes up an id for a new session, and an answer that arrives afterwards
brings the old one back.  These two are all that does.
-/

/-! ### Calls in line -/

namespace CallLine

variable {σ : Type} [Storage σ] (policy : RetryPolicy) (fresh : Nat → String) (line : CallLine σ)

/-- There is no session: no id of one is kept, and there is no state. -/
def IsEnded : Prop := line.session.id? = none ∧ line.session.state.value = none

/-- A call has its turn, or takes a good answer. -/
def revives : LineEvent → Bool
  | .call .begin => (line.begin? policy fresh).isSome
  | .call (.answer (.ok response)) => (line.answer? policy (.ok response)).isSome
  | _ => false

theorem state_settle_ok (session : WorkflowSession σ) (pending : Pending)
    (response : ExecutionResponse) :
    (session.settle pending (.ok response)).2.state =
      session.state.publish (some (.ofResponse response)) := rfl

/-- Whether an answer is good decides what it does to a session that was ended. -/
theorem isEnded_answer (ended : line.IsEnded) (result : Except WorkflowError ExecutionResponse) :
    (line.callStep policy fresh (.answer result)).IsEnded ↔
      line.revives policy fresh (.call (.answer result)) = false := by
  unfold callStep
  rcases line.answer?_cases policy result with
    h | ⟨number, pending, rest, request, backoff, -, -, ⟨wait, left, tries, h⟩ | ⟨-, h⟩⟩
  · cases result <;> simp [h, revives, ended]
  · obtain ⟨⟨e, rfl, -⟩, -⟩ := Backoff.next?_eq_some_iff.mp tries
    simp only [h, revives, iff_true]
    exact ended
  · cases result with
    | error e =>
        simp only [h, revives, iff_true]
        exact ended
    | ok response =>
        simp [h, revives, IsEnded, state_settle_ok]

variable [LawfulStorage σ]

/-- A call that has its turn obtains an id for its session. -/
theorem id?_request {fresh : Nat → String} (named : ∀ n, fresh n ≠ "") (session : WorkflowSession σ)
    (pending : Pending) :
    (session.request fresh pending).2.id? = some (session.request fresh pending).1.sessionId :=
  Session.id?_obtainId session.store (named session.minted)

variable {fresh}

theorem isEnded_callStep (named : ∀ n, fresh n ≠ "") (event : CallEvent) (ended : line.IsEnded) :
    (line.callStep policy fresh event).IsEnded ↔ line.revives policy fresh (.call event) = false := by
  cases event with
  | issue number c =>
      simp only [callStep, revives, iff_true]
      rcases line.issue_cases number c with ⟨e, -, h⟩ | ⟨pending, -, h⟩
      · rw [h]
        exact ended
      · rw [h]
        exact ended
  | begin =>
      simp only [callStep, revives]
      rcases line.begin?_cases policy fresh with h | ⟨number, pending, rest, backoff, -, -, h⟩
      · simp [h, ended]
      · simp [h, IsEnded, id?_request named]
  | answer result =>
      exact line.isEnded_answer policy fresh ended result
  | again =>
      simp only [callStep, revives, iff_true]
      rcases line.again?_cases with h | ⟨request, backoff, -, h⟩
      · rw [h]
        exact ended
      · rw [h]
        exact ended

theorem isEnded_clear : line.clear.IsEnded :=
  ⟨Session.id?_clear line.session.store, rfl⟩

/-- What puts an end to there being no session. -/
theorem isEnded_step (named : ∀ n, fresh n ≠ "") (event : LineEvent) (ended : line.IsEnded) :
    (line.step policy fresh event).IsEnded ↔ line.revives policy fresh event = false := by
  cases event with
  | call event =>
      exact line.isEnded_callStep policy named event ended
  | clear =>
      simp only [step, revives, iff_true]
      exact line.isEnded_clear
  | keepWorkflow id =>
      simp only [step, revives, iff_true]
      exact ⟨(Session.id?_setWorkflowId line.session.store id).trans ended.1, ended.2⟩

end CallLine

/-! ### A user with calls under way -/

/-- The user sees no session. -/
def WorkflowView.ShowsNone (view : WorkflowView) : Prop :=
  view.currentState = none ∧ view.sessionId = none

namespace WorkflowController

variable {σ : Type} [Storage σ] (policy : RetryPolicy) (fresh : Nat → String)
  (c : WorkflowController σ)

/-- There is no session, and the user sees none. -/
def IsEnded : Prop := c.line.IsEnded ∧ c.view.value.ShowsNone

def revives (event : IntentEvent) : Bool := event.lineEvent?.any (c.line.revives policy fresh)

theorem showsNone_submit_call {intent : Intent} (call : Call) (asks : intent.call? = some call)
    (number : Nat) (none : c.view.value.ShowsNone) :
    (c.submit number intent).view.value.ShowsNone := by
  rw [c.submit_call call asks]
  cases c.line.issue number call with
  | ok line =>
      exact none
  | error e =>
      exact none

/-- Without a good answer the user sees no session that was not seen before. -/
theorem showsNone_step {event : IntentEvent} (quiet : c.revives policy fresh event = false)
    (none : c.view.value.ShowsNone) : (c.step policy fresh event).view.value.ShowsNone := by
  cases event with
  | submit number intent =>
      cases intent with
      | start workflowId =>
          exact c.showsNone_submit_call (.start workflowId []) rfl number none
      | event name data =>
          exact c.showsNone_submit_call (.event name data) rfl number none
      | update data =>
          exact c.showsNone_submit_call (.update data) rfl number none
      | clearError =>
          exact none
      | reset =>
          exact ⟨rfl, rfl⟩
  | begin =>
      unfold step begin?
      cases c.line.begin? policy fresh with
      | none =>
          exact none
      | some begun =>
          exact none
  | answer result =>
      unfold step answer?
      dsimp only
      rcases c.line.answer?_cases policy result with
        h | ⟨number, pending, rest, request, backoff, -, -, ⟨wait, left, -, h⟩ | ⟨-, h⟩⟩
      · rw [h]
        exact none
      · rw [h]
        exact none
      · cases result with
        | error e =>
            rw [h]
            exact none
        | ok response =>
            simp [revives, IntentEvent.lineEvent?, CallLine.revives, h] at quiet
  | again =>
      unfold step again?
      cases c.line.again? with
      | none =>
          exact none
      | some again =>
          exact none

variable [LawfulStorage σ] {fresh}

theorem isEnded_reset : c.reset.IsEnded := ⟨c.line.isEnded_clear, rfl, rfl⟩

theorem isEnded_step (named : ∀ n, fresh n ≠ "") (event : IntentEvent) (ended : c.IsEnded) :
    (c.step policy fresh event).IsEnded ↔ c.revives policy fresh event = false := by
  have line : (c.step policy fresh event).line.IsEnded ↔ c.revives policy fresh event = false := by
    rw [line_step, revives]
    cases event.lineEvent? with
    | none =>
        simp [ended.1]
    | some event =>
        exact c.line.isEnded_step policy named event ended.1
  constructor
  · intro after
    exact line.mp after.1
  · intro quiet
    exact ⟨line.mpr quiet, c.showsNone_step policy fresh quiet ended.2⟩

end WorkflowController

/-- When the end of a session is final.  Whatever calls are in line when a user ends a session, and
whatever happens afterwards, there is no session as long as no call has its turn and none takes a
good answer, and there is one again as soon as a call does; a user sees the same. -/
theorem stays_ended_iff_nothing_revives {σ : Type} [Storage σ] [LawfulStorage σ]
    (policy : RetryPolicy) (fresh : Nat → String) (named : ∀ n, fresh n ≠ "") :
    (∀ (line : CallLine σ) (later : List LineEvent),
      Always (CallLine.step policy fresh) CallLine.IsEnded line.clear later ↔
        hits (CallLine.step policy fresh) (CallLine.revives policy fresh) line.clear later = []) ∧
    ∀ (c : WorkflowController σ) (later : List IntentEvent),
      Always (WorkflowController.step policy fresh) WorkflowController.IsEnded c.reset later ↔
        hits (WorkflowController.step policy fresh) (WorkflowController.revives policy fresh)
          c.reset later = [] := by
  constructor
  · intro line later
    exact always_iff (fun line event => line.isEnded_step policy named event) line.isEnded_clear
      later
  · intro c later
    exact always_iff (fun c event => c.isEnded_step policy named event) c.isEnded_reset later

/-- A user starts a workflow, and ends the session before there is an answer. -/
def endedEarly : WorkflowController Memory :=
  (after (WorkflowController.step .once fun _ => "0") (.new (.new Dictionary.empty))
    [.submit 1 (.start (some "w")), .begin]).reset

theorem ended_early_stays_ended_iff :
    (∀ n, (fun _ : Nat => "0") n ≠ "") ∧
      Always (WorkflowController.step .once fun _ => "0") WorkflowController.IsEnded endedEarly
        [.answer (.error (.network "")), .again] ∧
      ¬ Always (WorkflowController.step .once fun _ => "0") WorkflowController.IsEnded endedEarly
        [.answer (.ok ⟨"1", [], "late", .screen, none⟩)] := by
  have named : ∀ n, (fun _ : Nat => "0") n ≠ "" := fun _ => by simp
  refine ⟨named, ?_, fun always => ?_⟩
  · exact ((stays_ended_iff_nothing_revives .once _ named).2 _ _).mpr rfl
  · have none := ((stays_ended_iff_nothing_revives .once _ named).2 _ _).mp always
    cases none

/-- The end of a session is not final: an answer to a call from before brings the session back,
though nothing was asked for after its end. -/
theorem late_answer_revives_session :
    let late : IntentEvent := .answer (.ok ⟨"1", [], "late", .screen, none⟩)
    let c := after (WorkflowController.step .once fun _ => "0") endedEarly [late]
    endedEarly.IsEnded ∧ c.line.session.id? = some "1" ∧
      c.line.session.state.value.map (·.currentState) = some "late" ∧
      c.view.value.currentState = some "late" ∧ c.view.value.sessionId = some "1" := by
  refine ⟨endedEarly.isEnded_reset, ?_, ?_, ?_, ?_⟩
  · decide
  · decide
  · decide
  · decide

end ServerDriven
