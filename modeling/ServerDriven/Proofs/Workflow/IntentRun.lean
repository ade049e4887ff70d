/-
Module: ServerDriven.Proofs.Workflow.IntentRun
Purpose: What a user wants of a session, one thing after the other, and what each leads to when the
  server may answer anything.
Main exports:
  Called.state_cases, Handled, Conversation.events, Handled.events, IntentRun, IntentRun.step,
  IntentRun.called?, IntentRun.published, IntentRun.handled_step
-/
import ServerDriven.Proofs.Workflow.CommandRun
import ServerDriven.Proofs.Workflow.Turns

namespace ServerDriven

open Run

/-! ### What an intent does -/

section Handled

variable {σ : Type} [Storage σ] (policy : RetryPolicy) (fresh : Nat → String)

/-- An intent that is handled while no other is: what passes between the session and the server,
what comes of the call that the intent asks for, if it asks for one, and the controller afterwards.
-/
inductive Handled (c : WorkflowController σ) :
    Intent → List Exchange → Option CallResult → WorkflowController σ → Prop where
  | call {intent : Intent} {asked : Call} {made : List Exchange} {result : CallResult}
      {session : WorkflowSession σ} (asks : intent.call? = some asked)
      (called : Called policy fresh c.line.session asked made result session) :
      Handled c intent made (some result)
        (WorkflowController.finish { c.begin with line := { c.line with session } } result)
  | clearError : Handled c .clearError [] none c.clearError
  | reset : Handled c .reset [] none c.reset

end Handled

section Called

variable {σ : Type} [Storage σ] {policy : RetryPolicy} {fresh : Nat → String}
  {s s' : WorkflowSession σ} {c : Call} {made : List Exchange} {result : CallResult}

/-- A call that fails leaves the state alone; any other publishes the state that it leads to. -/
theorem Called.state_cases (called : Called policy fresh s c made result s') :
    (∃ e, result = .error e ∧ s'.state = s.state) ∨
      ∃ state, result = .ok state ∧ s'.state = s.state.publish (some state) := by
  cases called with
  | refused issued =>
      exact .inl ⟨_, rfl, rfl⟩
  | @answered pending talk issued request allowed =>
      unfold Conversation.result
      cases talk.answer with
      | error e =>
          exact .inl ⟨e, rfl, rfl⟩
      | ok response =>
          exact .inr ⟨.ofResponse response, rfl, rfl⟩

end Called

/-! ### Step by step

An intent that is handled while no other is comes to the same as the steps of its turn, one after
the other.
-/

namespace Conversation

/-- What a policy allows uses no more attempts than it leaves, and fewer only where trying again is
of no use. -/
theorem Allowed.allowance {policy : RetryPolicy} {talk : Conversation}
    (allowed : talk.Allowed policy) :
    talk.failures.length + 1 ≤ policy.allowance talk.request ∧
      ∀ e, talk.answer = .error e → e.MayPass →
        talk.failures.length + 1 = policy.allowance talk.request := by
  rw [← length_attempts]
  unfold RetryPolicy.allowance
  by_cases event : talk.request.isEvent = true
  · rw [if_pos event, allowed.once event]
    exact ⟨Nat.le_refl 1, fun _ _ _ => rfl⟩
  · rw [if_neg event]
    exact ⟨allowed.bounded.2, allowed.persistent (by simpa using event)⟩

/-- What happens to a session in the hands of a user while a call has its turn. -/
def events (talk : Conversation) : List IntentEvent :=
  .begin :: (talk.failures.flatMap fun e => [.answer (.error e), .again]) ++ [.answer talk.answer]

end Conversation

namespace WorkflowController

variable {σ : Type} [Storage σ] {policy : RetryPolicy} {fresh : Nat → String}

/-- A call that is not refused goes to the end of the line. -/
theorem step_submit (policy : RetryPolicy) (fresh : Nat → String) (c : WorkflowController σ)
    {intent : Intent} {asked : Call} {pending : Pending} (asks : intent.call? = some asked)
    (issued : c.line.session.issue asked = .ok pending) (number : Nat) :
    c.step policy fresh (.submit number intent) = { c.begin with line :=
      { c.line with calls := c.line.calls ++ [(number, pending)] } } := by
  change c.submit number intent = _
  rw [c.submit_call asked asks]
  unfold CallLine.issue
  rw [issued]
  rfl

/-- A call that waits has its turn, and its request goes out. -/
theorem step_begin (policy : RetryPolicy) (fresh : Nat → String) (c : WorkflowController σ)
    {number : Nat} {pending : Pending} {rest : List (Nat × Pending)} (idle : c.line.turn = none)
    (calls : c.line.calls = (number, pending) :: rest) :
    ∃ backoff, backoff.left + 1 = policy.allowance (c.line.session.request fresh pending).1 ∧
      c.step policy fresh .begin = { c with line :=
        { c.line with
          session := (c.line.session.request fresh pending).2
          turn := some ⟨(c.line.session.request fresh pending).1, backoff, false⟩ } } := by
  obtain ⟨backoff, left, begins⟩ := CallLine.begin?_eq policy fresh idle calls
  refine ⟨backoff, left, ?_⟩
  change ((c.begin? policy fresh).map Prod.snd).getD c = _
  unfold begin?
  rw [begins]
  rfl

/-- The answers to the only call in line, of which the last ends it. -/
theorem after_answers {number : Nat} {pending : Pending} {request : ExecutionRequest}
    {answer : ServerAnswer} {failures : List WorkflowError} (mayPass : ∀ e ∈ failures, e.MayPass)
    (c : WorkflowController σ) {backoff : Backoff}
    (has : c.line.turn = some ⟨request, backoff, false⟩)
    (calls : c.line.calls = [(number, pending)]) (within : failures.length ≤ backoff.left)
    (exhausted : ∀ e, answer = .error e → e.MayPass → failures.length = backoff.left) :
    after (step policy fresh) c
        ((failures.flatMap fun e => [.answer (.error e), .again]) ++ [.answer answer]) =
      WorkflowController.finish
        { c with line := ⟨(c.line.session.settle pending answer).2, [], none⟩ }
        (c.line.session.settle pending answer).1 := by
  induction failures generalizing c backoff with
  | nil =>
      rcases CallLine.answer?_of_turn policy has calls answer with
        ⟨wait, left, tries, -⟩ | ⟨-, takes⟩
      · obtain ⟨⟨e, failed, retry⟩, less, -⟩ := Backoff.next?_eq_some_iff.mp tries
        have none : 0 = backoff.left := exhausted e failed (e.isRetryable_iff.mp retry)
        omega
      · change ((c.answer? policy answer).map Prod.snd).getD c = _
        unfold answer?
        rw [takes]
        rfl
  | cons e failures ih =>
      obtain ⟨passes, others⟩ := List.forall_mem_cons.mp mayPass
      rw [List.length_cons] at within
      rcases CallLine.answer?_of_turn policy has calls (.error e) with
        ⟨wait, left, tries, takes⟩ | ⟨last, -⟩
      · have less := (Backoff.next?_eq_some_iff.mp tries).2.1
        have paused : c.step policy fresh (.answer (.error e)) =
            { c with line := { c.line with turn := some ⟨request, left, true⟩ } } := by
          change ((c.answer? policy (.error e)).map Prod.snd).getD c = _
          unfold answer?
          rw [takes]
          rfl
        rw [List.flatMap_cons, List.append_assoc, List.cons_append, after_cons, paused]
        exact ih others { c with line := { c.line with turn := some ⟨request, left, false⟩ } } rfl
          calls (by omega) fun e failed passes => by
            have all := exhausted e failed passes
            rw [List.length_cons] at all
            omega
      · -- Another answer follows, so that an attempt is left.
        have none : backoff.left = 0 :=
          Backoff.next?_eq_none_iff.mp last e rfl (e.isRetryable_iff.mpr passes)
        omega

/-- A call that is not refused, in a line without others, has its turn at once. -/
theorem after_turn (c : WorkflowController σ) {intent : Intent} {asked : Call} {pending : Pending}
    {talk : Conversation} (asks : intent.call? = some asked)
    (issued : c.line.session.issue asked = .ok pending)
    (request : talk.request = (c.line.session.request fresh pending).1)
    (allowed : talk.Allowed policy) (calls : c.line.calls = []) (turn : c.line.turn = none)
    (number : Nat) :
    after (step policy fresh) c (.submit number intent :: talk.events) =
      WorkflowController.finish
        { c.begin with line :=
          ⟨((c.line.session.request fresh pending).2.settle pending talk.answer).2, [], none⟩ }
        talk.result := by
  obtain ⟨bounded, exhausted⟩ := allowed.allowance
  rw [request] at bounded exhausted
  let waiting : WorkflowController σ :=
    { c.begin with line := { c.line with calls := [(number, pending)] } }
  have admitted : c.step policy fresh (.submit number intent) = waiting := by
    rw [c.step_submit policy fresh asks issued, calls]
    rfl
  obtain ⟨backoff, left, begun⟩ := waiting.step_begin policy fresh turn rfl
  change _ = policy.allowance (c.line.session.request fresh pending).1 at left
  rw [after_cons, admitted, Conversation.events, List.cons_append, after_cons, begun,
    after_answers allowed.mayPass _ rfl rfl]
  · rw [WorkflowSession.fst_settle]
    rfl
  · omega
  · intro e failed passes
    have all := exhausted e failed passes
    omega

end WorkflowController

section Events

variable {σ : Type} [Storage σ] {policy : RetryPolicy} {fresh : Nat → String}
  {c c' : WorkflowController σ} {intent : Intent} {made : List Exchange}
  {result? : Option CallResult}

/-- Whoever takes in an intent while no other is under way, and then the events of its turn, comes
to where handling the intent leads. -/
theorem Handled.events (handled : Handled policy fresh c intent made result? c')
    (calls : c.line.calls = []) (turn : c.line.turn = none) (number : Nat) :
    ∃ talk? : Option Conversation,
      made = talk?.elim [] Conversation.exchanges ∧
        c' = after (WorkflowController.step policy fresh) c
          (.submit number intent :: talk?.elim [] Conversation.events) := by
  cases handled with
  | @call _ asked _ _ _ asks called =>
      cases called with
      | refused issued =>
          refine ⟨none, rfl, ?_⟩
          change _ = c.submit number intent
          rw [c.submit_call asked asks]
          unfold CallLine.issue
          rw [issued]
          rfl
      | @answered pending talk issued request allowed =>
          refine ⟨some talk, rfl, ?_⟩
          have ended : ∀ session, ({ c.line with session } : CallLine σ) = ⟨session, [], none⟩ := by
            intro session
            rw [← calls, ← turn]
          rw [ended]
          exact (c.after_turn asks issued request allowed calls turn number).symm
  | clearError =>
      exact ⟨none, rfl, rfl⟩
  | reset =>
      exact ⟨none, rfl, rfl⟩

end Events

/-! ### One intent after the other -/

/-- A session in the hands of a user, and all that has passed between it and the server. -/
structure IntentRun (σ : Type) where
  controller : WorkflowController σ
  log : List Exchange

namespace IntentRun

variable {σ : Type} [Storage σ] (policy : RetryPolicy) (fresh : Nat → String)
  (server : Respondent)

def session (run : IntentRun σ) : WorkflowSession σ := run.controller.line.session

def view (run : IntentRun σ) : WorkflowView := run.controller.view.value

/-- An intent is handled: the controller afterwards, and what passes between its session and the
server meanwhile. -/
def handle (run : IntentRun σ) (intent : Intent) :
    (Unit × WorkflowController σ) × List Exchange :=
  let api := server.client policy run.log
  ((WorkflowController.handle api fresh intent).run run.controller).run []

def step (run : IntentRun σ) (intent : Intent) : IntentRun σ :=
  let ((_, controller), made) := run.handle policy fresh server intent
  ⟨controller, run.log ++ made⟩

/-- The call that an intent asks for: what comes of it, the session afterwards, and what passes
between this and the server. -/
def call (run : IntentRun σ) (asked : Call) : (CallResult × WorkflowSession σ) × List Exchange :=
  SessionRun.talk (WorkflowSession.call (server.client policy run.log) fresh asked) run.session []

/-- What comes of the call that an intent asks for, if it asks for one. -/
def called? (run : IntentRun σ) (intent : Intent) : Option CallResult :=
  intent.call?.map fun asked => (run.call policy fresh server asked).1.1

/-- The states that are published while an intent is handled. -/
def published (run : IntentRun σ) (intent : Intent) : List WorkflowState :=
  (run.session.state.since (run.step policy fresh server intent).session.state).filterMap id

/-- Handling an intent that asks for a call is making the call. -/
theorem handle_of_call (run : IntentRun σ) {intent : Intent} {asked : Call}
    (asks : intent.call? = some asked) :
    run.handle policy fresh server intent =
      let ((result, session), made) := run.call policy fresh server asked
      (((), WorkflowController.finish
        { run.controller.begin with line := { run.controller.line with session } } result),
          made) := by
  cases intent with
  | start workflowId =>
      cases asks
      rfl
  | event name data =>
      cases asks
      rfl
  | update data =>
      cases asks
      rfl
  | clearError =>
      cases asks
  | reset =>
      cases asks

theorem handled_of_call (run : IntentRun σ) {intent : Intent} {asked : Call}
    (asks : intent.call? = some asked) :
    Handled policy fresh run.controller intent (run.handle policy fresh server intent).2
      (run.called? policy fresh server intent) (run.handle policy fresh server intent).1.2 := by
  obtain ⟨made, result, session, called, talked⟩ :=
    SessionRun.talk_call policy fresh server run.log run.session asked
  have same : run.call policy fresh server asked = ((result, session), made) := talked
  rw [run.handle_of_call policy fresh server asks, called?, asks, Option.map_some, same]
  exact .call asks called

/-- All that an intent can do. -/
theorem handled (run : IntentRun σ) (intent : Intent) :
    Handled policy fresh run.controller intent (run.handle policy fresh server intent).2
      (run.called? policy fresh server intent)
      (run.step policy fresh server intent).controller := by
  cases intent with
  | start workflowId =>
      exact run.handled_of_call policy fresh server rfl
  | event name data =>
      exact run.handled_of_call policy fresh server rfl
  | update data =>
      exact run.handled_of_call policy fresh server rfl
  | clearError =>
      exact .clearError
  | reset =>
      exact .reset

end IntentRun

end ServerDriven
