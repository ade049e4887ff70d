/-
Module: ServerDriven.Proofs.Workflow.Conversation
Purpose: What passes between one call and the server: a request, sent again after failures that may
  pass, and the answer that ends it.
Main exports:
  Call.event?, ExecutionRequest.AsksFor, WorkflowError.MayPass, Conversation, Conversation.Allowed,
  Exchange, Respondent, Respondent.client, Respondent.execute_client, Respondent.save_client,
  Respondent.health_client
-/
import ServerDriven.Proofs.Workflow.Service

namespace ServerDriven

/-! ### What a call asks for -/

namespace Call

/-- The event that a call fires. -/
def event? : Call → Option String
  | .event name _ => some name
  | .start .. | .update _ => none

/-- The context that a call hands over. -/
def context : Call → Context
  | .start _ context => context
  | .event _ data | .update data => data

end Call

/-- A request fires the event of a call and hands over its context. -/
structure ExecutionRequest.AsksFor (request : ExecutionRequest) (c : Call) : Prop where
  event : request.event = c.event?
  context : request.context = ContextValue.toMembers c.context

namespace WorkflowSession

variable {σ : Type} [Storage σ]

/-- Whatever has become of the session since a call was issued, the request is about the call. -/
theorem asksFor_of_issue {s : WorkflowSession σ} {c : Call} {pending : Pending}
    (issued : s.issue c = .ok pending) (fresh : Nat → String) (later : WorkflowSession σ) :
    (later.request fresh pending).1.AsksFor c := by
  cases c with
  | start workflowId context =>
      unfold issue at issued
      dsimp only at issued
      split at issued
      · cases issued
      · cases issued
        exact ⟨rfl, rfl⟩
  | event name data =>
      cases issued
      exact ⟨rfl, rfl⟩
  | update data =>
      cases issued
      exact ⟨rfl, rfl⟩

/-- A start without a workflow needs one that is kept, or a session that is kept. -/
theorem issue_start_none (s : WorkflowSession σ) (context : Context) :
    s.issue (.start none context) =
      if s.workflowId? = none ∧ s.id? = none then .error missingWorkflow
      else .ok ⟨s.workflowId?, context, none, true⟩ := by
  simp only [← Option.isNone_iff_eq_none]
  rfl

/-- No other call is refused. -/
theorem issue_eq_error_iff {s : WorkflowSession σ} {c : Call} {e : WorkflowError} :
    s.issue c = .error e ↔ (∃ context, c = .start none context) ∧ s.workflowId? = none ∧
      s.id? = none ∧ e = missingWorkflow := by
  cases c with
  | start workflowId context =>
      cases workflowId with
      | some id =>
          have issued : s.issue (.start (some id) context) = .ok ⟨some id, context, none, true⟩ :=
            rfl
          simp [issued]
      | none =>
          rw [issue_start_none]
          split
          · rename_i neither
            simp [neither, eq_comm]
          · rename_i either
            refine ⟨nofun, fun refused => ?_⟩
            exact absurd ⟨refused.2.1, refused.2.2.1⟩ either
  | event name data =>
      simp [issue]
  | update data =>
      simp [issue]

/-- What comes of a call is what its answer says. -/
theorem fst_settle (s : WorkflowSession σ) (pending : Pending) (answer : ServerAnswer) :
    (s.settle pending answer).1 = answer.map WorkflowState.ofResponse := by
  cases answer with
  | error e =>
      rfl
  | ok response =>
      rfl

end WorkflowSession

/-! ### Attempts -/

/-- The server could not be reached, or it failed itself. -/
def WorkflowError.MayPass (e : WorkflowError) : Prop :=
  (∃ detail, e = .network detail) ∨ ∃ code detail, e = .server code detail ∧ 500 ≤ code

theorem WorkflowError.isRetryable_iff (e : WorkflowError) : e.isRetryable = true ↔ e.MayPass := by
  cases e with
  | server code detail =>
      simp [isRetryable, MayPass]
  | _ =>
      simp [isRetryable, MayPass]

/-- The attempts that a policy leaves to a request. -/
def RetryPolicy.allowance (policy : RetryPolicy) (request : ExecutionRequest) : Nat :=
  if request.isEvent then 1 else policy.attempts

/-- What passes between a call and the server, when it is over. -/
structure Conversation where
  request : ExecutionRequest
  /-- The failures after each of which the request was sent again. -/
  failures : List WorkflowError
  /-- The answer that ends it. -/
  answer : ServerAnswer

namespace Conversation

/-- All attempts: what was sent in each, and the answer to it. -/
def attempts (c : Conversation) : List (ExecutionRequest × ServerAnswer) :=
  c.failures.map (fun e => (c.request, .error e)) ++ [(c.request, c.answer)]

/-- What comes of the call. -/
def result (c : Conversation) : CallResult := c.answer.map WorkflowState.ofResponse

@[simp] theorem length_attempts (c : Conversation) : c.attempts.length = c.failures.length + 1 := by
  simp [attempts]

theorem request_of_mem_attempts {c : Conversation} {attempt : ExecutionRequest × ServerAnswer}
    (mem : attempt ∈ c.attempts) : attempt.1 = c.request := by
  rcases List.mem_append.mp mem with mem | mem
  · obtain ⟨e, -, rfl⟩ := List.mem_map.mp mem
    rfl
  · rw [List.mem_singleton.mp mem]

/-- What a policy makes of a request: an event is sent once, and all else again after failures that
may pass, until there is an answer of another kind or no attempt is left. -/
structure Allowed (policy : RetryPolicy) (c : Conversation) : Prop where
  mayPass : ∀ e ∈ c.failures, e.MayPass
  once : c.request.isEvent = true → c.attempts = [(c.request, c.answer)]
  bounded : 1 ≤ c.attempts.length ∧ c.attempts.length ≤ max policy.times 1
  persistent : c.request.isEvent = false → ∀ e, c.answer = .error e → e.MayPass →
    c.attempts.length = max policy.times 1

/-- The policy is kept if the attempts do not exceed what it leaves, and if they fall short of that
only where trying again is of no use. -/
theorem allowed_of_allowance {policy : RetryPolicy} {c : Conversation}
    (mayPass : ∀ e ∈ c.failures, e.MayPass)
    (within : c.attempts.length ≤ policy.allowance c.request)
    (exhausted : ∀ e, c.answer = .error e → e.MayPass →
      c.attempts.length = policy.allowance c.request) : c.Allowed policy where
  mayPass := mayPass
  once event := by
    rw [RetryPolicy.allowance, if_pos event, length_attempts] at within
    have none : c.failures = [] := List.eq_nil_of_length_eq_zero (by omega)
    rw [attempts, none]
    rfl
  bounded := by
    refine ⟨by simp, Nat.le_trans within ?_⟩
    unfold RetryPolicy.allowance
    split
    · exact Nat.le_max_right policy.times 1
    · exact Nat.le_refl _
  persistent noEvent e failed passes := by
    have all := exhausted e failed passes
    rw [RetryPolicy.allowance, if_neg (by simp [noEvent])] at all
    exact all

end Conversation

/-! ### A server that may answer anything -/

/-- A request that the server has received, and its answer. -/
inductive Exchange where
  | execute (request : ExecutionRequest) (answer : ServerAnswer)
  | save (request : SaveRequest) (answer : Except WorkflowError SaveResponse)
  | health (answer : Except WorkflowError HealthResponse)

/-- The exchanges of a conversation. -/
def Conversation.exchanges (c : Conversation) : List Exchange :=
  c.attempts.map fun attempt => .execute attempt.1 attempt.2

/-- A server.  Each answer may depend on all that has passed before. -/
structure Respondent where
  execute : List Exchange → ExecutionRequest → ServerAnswer
  save : List Exchange → SaveRequest → Except WorkflowError SaveResponse
  health : List Exchange → Except WorkflowError HealthResponse

namespace Respondent

/-- Ask a server that has an answer to each course of events, and write down what passes. -/
def ask {α : Type} (answer : List Exchange → α) (exchange : α → Exchange) :
    StateM (List Exchange) α :=
  fun made => (answer made, made ++ [exchange (answer made)])

variable (server : Respondent) (policy : RetryPolicy) (past : List Exchange)

/-- The server, when so much has passed already. -/
def api : Api (StateM (List Exchange)) where
  save request := ask (fun made => server.save (past ++ made) request) (.save request)
  execute request := ask (fun made => server.execute (past ++ made) request) (.execute request)
  health := ask (fun made => server.health (past ++ made)) .health

/-- The server as a session sees it, which asks again as a policy allows. -/
def client : Api (StateM (List Exchange)) := (server.api past).retrying policy fun _ => pure ()

section Retried

variable {α : Type} (answer : List Exchange → Except WorkflowError α)
  (exchange : Except WorkflowError α → Exchange)

/-- Asking so many times more. -/
def asking (left : Nat) (delay : Duration) : StateM (List Exchange) (Except WorkflowError α) :=
  policy.runFrom WorkflowError.isRetryable (fun _ => pure ()) (ask answer exchange) left delay

theorem run_asking_succ (left : Nat) (delay : Duration) (made : List Exchange) :
    (asking policy answer exchange (left + 1) delay).run made =
      match Backoff.next? policy WorkflowError.isRetryable ⟨left + 1, delay⟩ (answer made) with
      | some (_, backoff) =>
        (asking policy answer exchange left backoff.delay).run (made ++ [exchange (answer made)])
      | none => (answer made, made ++ [exchange (answer made)]) := by
  have first : (ask answer exchange).run made = (answer made, made ++ [exchange (answer made)]) :=
    rfl
  rw [asking, RetryPolicy.runFrom, StateT.run_bind, first]
  dsimp only [Id.run, bind]
  cases Backoff.next? policy WorkflowError.isRetryable ⟨left + 1, delay⟩ (answer made) with
  | none => rfl
  | some more => rfl

/-- Asking again and again: only failures that may pass are followed by another attempt, and the
last answer is what comes of it. -/
theorem run_asking (left : Nat) (delay : Duration) (made : List Exchange) :
    ∃ (failures : List WorkflowError) (last : Except WorkflowError α),
      (asking policy answer exchange left delay).run made =
        (last, made ++ (failures.map (fun e => exchange (.error e)) ++ [exchange last])) ∧
      (∀ e ∈ failures, e.MayPass) ∧ failures.length ≤ left ∧
      ∀ e, last = .error e → e.MayPass → failures.length = left := by
  induction left generalizing delay made with
  | zero =>
      exact ⟨[], answer made, rfl, nofun, Nat.le_refl 0, fun _ _ _ => rfl⟩
  | succ left ih =>
      rw [run_asking_succ]
      split
      · rename_i wait backoff more
        obtain ⟨⟨e, failed, retry⟩, -⟩ := Backoff.next?_eq_some_iff.mp more
        obtain ⟨failures, last, ends, mayPass, bounded, exhausted⟩ :=
          ih backoff.delay (made ++ [exchange (answer made)])
        rw [ends]
        refine ⟨e :: failures, last, ?_, ?_, Nat.succ_le_succ bounded, ?_⟩
        · simp [failed]
        · exact List.forall_mem_cons.mpr ⟨e.isRetryable_iff.mp retry, mayPass⟩
        · exact fun e' failed' passes => congrArg (· + 1) (exhausted e' failed' passes)
      · rename_i none
        refine ⟨[], answer made, rfl, nofun, Nat.zero_le _, fun e failed passes => ?_⟩
        cases Backoff.next?_eq_none_iff.mp none e failed (e.isRetryable_iff.mpr passes)

end Retried

/-- A request to execute something is a conversation that the policy allows. -/
theorem execute_client (request : ExecutionRequest) (made : List Exchange) :
    ∃ c : Conversation, c.request = request ∧ c.Allowed policy ∧
      ((server.client policy past).execute request).run made = (c.answer, made ++ c.exchanges) := by
  by_cases event : request.isEvent = true
  · refine ⟨⟨request, [], server.execute (past ++ made) request⟩, rfl, ?_, ?_⟩
    · refine Conversation.allowed_of_allowance nofun ?_ fun _ _ _ => ?_
      · simp [RetryPolicy.allowance, event]
      · simp [RetryPolicy.allowance, event]
    · change StateT.run (if request.isEvent then (server.api past).execute request else _) made = _
      rw [if_pos event]
      rfl
  · obtain ⟨failures, last, ends, mayPass, bounded, exhausted⟩ :=
      run_asking policy (fun made => server.execute (past ++ made) request) (.execute request)
        (Backoff.start policy).left (Backoff.start policy).delay made
    have one := Backoff.left_start policy
    refine ⟨⟨request, failures, last⟩, rfl, ?_, ?_⟩
    · refine Conversation.allowed_of_allowance mayPass ?_ fun e failed passes => ?_
      · simp only [Conversation.length_attempts, RetryPolicy.allowance, if_neg event]
        omega
      · have all := exhausted e failed passes
        simp only [Conversation.length_attempts, RetryPolicy.allowance, if_neg event]
        omega
    · change StateT.run (if request.isEvent then _ else asking policy _ _ _ _) made = _
      rw [if_neg event, ends]
      simp [Conversation.exchanges, Conversation.attempts, Function.comp_def]

/-- Keeping a workflow executes nothing. -/
theorem save_client (request : SaveRequest) (made : List Exchange) :
    ∃ (failures : List WorkflowError) (answer : Except WorkflowError SaveResponse),
      ((server.client policy past).save request).run made =
        (answer, made ++ (failures.map (fun e => .save request (.error e)) ++
          [.save request answer])) := by
  obtain ⟨failures, last, ends, -⟩ :=
    run_asking policy (fun made => server.save (past ++ made) request) (.save request)
      (Backoff.start policy).left (Backoff.start policy).delay made
  exact ⟨failures, last, ends⟩

/-- Asking how the server is doing executes nothing. -/
theorem health_client (made : List Exchange) :
    ∃ (failures : List WorkflowError) (answer : Except WorkflowError HealthResponse),
      ((server.client policy past).health).run made =
        (answer, made ++ (failures.map (fun e => .health (.error e)) ++ [.health answer])) := by
  obtain ⟨failures, last, ends, -⟩ :=
    run_asking policy (fun made => server.health (past ++ made)) .health
      (Backoff.start policy).left (Backoff.start policy).delay made
  exact ⟨failures, last, ends⟩

end Respondent

end ServerDriven
