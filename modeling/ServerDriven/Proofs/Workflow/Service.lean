/-
Module: ServerDriven.Proofs.Workflow.Service
Purpose: Calls that are served one after the other, once looked up when they were issued and once
  when their turn has come.
Main exports:
  Service, WorkflowSession.serve, WorkflowSession.served, WorkflowSession.requests,
  WorkflowSession.callAll, WorkflowSession.LookupsAgree, WorkflowSession.callAll_eq_served,
  WorkflowSession.lookupsAgree_of_requests
-/
import ServerDriven.Proofs.Run
import ServerDriven.Workflow.Session

namespace ServerDriven

open Run

/-- What the server answers to a request in the end. -/
abbrev ServerAnswer := Except WorkflowError ExecutionResponse

abbrev CallResult := Except WorkflowError WorkflowState

/-- A call that was issued under a number and has been answered. -/
structure Service where
  number : Nat
  call : Call
  /-- What became of the call when it was issued. -/
  pending : Pending
  answer : ServerAnswer

namespace WorkflowSession

variable {σ : Type} [Storage σ] (fresh : Nat → String)

/-! ### Calls that were looked up when they were issued -/

/-- The request of a call that has its turn. -/
def requestOf (s : WorkflowSession σ) (service : Service) : ExecutionRequest :=
  (s.request fresh service.pending).1

/-- A call has its turn, from its request to what its answer does. -/
def serve (s : WorkflowSession σ) (service : Service) : WorkflowSession σ :=
  ((s.request fresh service.pending).2.settle service.pending service.answer).2

/-- What comes of a call that has its turn. -/
def resultOf (s : WorkflowSession σ) (service : Service) : CallResult :=
  ((s.request fresh service.pending).2.settle service.pending service.answer).1

/-- The session after some calls, one after the other. -/
def served (s : WorkflowSession σ) (services : List Service) : WorkflowSession σ :=
  after (serve fresh) s services

/-- The requests of some calls, one after the other. -/
def requests (s : WorkflowSession σ) (services : List Service) : List ExecutionRequest :=
  noted (serve fresh) (fun s service => [s.requestOf fresh service]) s services

/-- What comes of some calls, one after the other. -/
def results (s : WorkflowSession σ) (services : List Service) : List CallResult :=
  noted (serve fresh) (fun s service => [s.resultOf fresh service]) s services

theorem length_requests (s : WorkflowSession σ) (services : List Service) :
    (s.requests fresh services).length = services.length := by
  induction services generalizing s with
  | nil =>
      rfl
  | cons service services ih =>
      exact congrArg (· + 1) (ih (s.serve fresh service))

/-! ### Calls that are looked up when their turn has come -/

/-- A server with one answer to all calls.  It keeps the requests that it gets. -/
def recorder (answer : ServerAnswer) : Api (StateM (List ExecutionRequest)) where
  save _ := pure (.error .sessionExpired)
  execute request := do
    modify (· ++ [request])
    return answer
  health := pure (.error .sessionExpired)

/-- Make calls one after the other, each with the answer that the server gives to it. -/
def callAll : List (Call × ServerAnswer) →
    StateT (WorkflowSession σ) (StateM (List ExecutionRequest)) (List CallResult)
  | [] => return []
  | (c, answer) :: rest => do
    let result ← call (recorder answer) fresh c
    let results ← callAll rest
    return result :: results

/-- What a program leads to from a session, when so much has been asked of the server already. -/
def record {α : Type} (program : StateT (WorkflowSession σ) (StateM (List ExecutionRequest)) α)
    (s : WorkflowSession σ) (asked : List ExecutionRequest) :
    (α × WorkflowSession σ) × List ExecutionRequest :=
  (program.run s).run asked

/-- The calls of some services, with the answers to them. -/
def plain (services : List Service) : List (Call × ServerAnswer) :=
  services.map fun service => (service.call, service.answer)

/-- Each call, if it were issued when the calls before it have been served, would become what it
became when it was issued. -/
def LookupsAgree : WorkflowSession σ → List Service → Prop
  | _, [] => True
  | s, service :: rest =>
    s.issue service.call = .ok service.pending ∧ LookupsAgree (s.serve fresh service) rest

section Record

variable (s : WorkflowSession σ) (asked : List ExecutionRequest)

theorem record_call_error {c : Call} {e : WorkflowError} (refused : s.issue c = .error e)
    (answer : ServerAnswer) :
    record (call (recorder answer) fresh c) s asked = ((.error e, s), asked) := by
  simp only [record, call, StateT.run_bind, StateT.run_get, pure_bind, refused]
  rfl

theorem record_call_ok (service : Service) (looksUp : s.issue service.call = .ok service.pending) :
    record (call (recorder service.answer) fresh service.call) s asked =
      ((s.resultOf fresh service, s.serve fresh service), asked ++ [s.requestOf fresh service]) := by
  simp only [record, call, StateT.run_bind, StateT.run_get, pure_bind, looksUp]
  rfl

theorem record_callAll_cons (c : Call) (answer : ServerAnswer)
    (rest : List (Call × ServerAnswer)) :
    record (callAll fresh ((c, answer) :: rest)) s asked =
      let first := record (call (recorder answer) fresh c) s asked
      let others := record (callAll fresh rest) first.1.2 first.2
      ((first.1.1 :: others.1.1, others.1.2), others.2) := rfl

theorem record_callAll_error {c : Call} {e : WorkflowError} (refused : s.issue c = .error e)
    (answer : ServerAnswer) (rest : List (Call × ServerAnswer)) :
    (record (callAll fresh ((c, answer) :: rest)) s asked).2 =
      (record (callAll fresh rest) s asked).2 := by
  rw [record_callAll_cons, record_call_error fresh s asked refused]

theorem record_callAll_ok (service : Service)
    (looksUp : s.issue service.call = .ok service.pending) (rest : List (Call × ServerAnswer)) :
    (record (callAll fresh ((service.call, service.answer) :: rest)) s asked).2 =
      (record (callAll fresh rest) (s.serve fresh service)
        (asked ++ [s.requestOf fresh service])).2 := by
  rw [record_callAll_cons, record_call_ok fresh s asked service looksUp]

/-- Each call sends at most one request. -/
theorem length_record_callAll (calls : List (Call × ServerAnswer)) :
    ∃ sent, (record (callAll fresh calls) s asked).2 = asked ++ sent ∧
      sent.length ≤ calls.length := by
  induction calls generalizing s asked with
  | nil =>
      exact ⟨[], (List.append_nil asked).symm, Nat.le_refl _⟩
  | cons head rest ih =>
      obtain ⟨c, answer⟩ := head
      cases issued : s.issue c with
      | error e =>
          obtain ⟨sent, all, short⟩ := ih s asked
          rw [record_callAll_error fresh s asked issued]
          exact ⟨sent, all, Nat.le_succ_of_le short⟩
      | ok pending =>
          let service : Service := ⟨0, c, pending, answer⟩
          obtain ⟨sent, all, short⟩ := ih (s.serve fresh service)
            (asked ++ [s.requestOf fresh service])
          refine ⟨s.requestOf fresh service :: sent, ?_, Nat.succ_le_succ short⟩
          rw [record_callAll_ok fresh s asked service issued, all, List.append_assoc]
          rfl

/-- Where look-ups agree, calls that overlap and calls that do not come to the same. -/
theorem callAll_eq_served (services : List Service) (agree : LookupsAgree fresh s services) :
    record (callAll fresh (plain services)) s asked =
      ((s.results fresh services, s.served fresh services),
        asked ++ s.requests fresh services) := by
  induction services generalizing s asked with
  | nil =>
      exact congrArg _ (List.append_nil asked).symm
  | cons service rest ih =>
      obtain ⟨looksUp, agree⟩ := agree
      have others := ih (s.serve fresh service) (asked ++ [s.requestOf fresh service]) agree
      rw [plain, List.map_cons, record_callAll_cons, record_call_ok fresh s asked service looksUp]
      dsimp only
      rw [← plain, others, List.append_assoc]
      rfl

end Record

/-- The call decides on all that was issued but the workflow. -/
theorem issue_injective {s s' : WorkflowSession σ} {c : Call} {pending pending' : Pending}
    (issued : s.issue c = .ok pending) (issued' : s'.issue c = .ok pending')
    (same : pending.workflowId = pending'.workflowId) : pending = pending' := by
  cases c with
  | start workflowId context =>
      unfold issue at issued issued'
      dsimp only at issued issued'
      split at issued
      · cases issued
      · split at issued'
        · cases issued'
        · cases issued
          cases issued'
          exact congrArg (Pending.mk · context none true) same
  | event name data =>
      cases issued
      cases issued'
      exact congrArg (Pending.mk · data (some name) false) same
  | update data =>
      cases issued
      cases issued'
      exact congrArg (Pending.mk · data none false) same

/-- Calls that do not overlap send the same requests only where look-ups agree. -/
theorem lookupsAgree_of_requests (s : WorkflowSession σ) (asked : List ExecutionRequest)
    (services : List Service)
    (issued : ∀ service ∈ services, ∃ s' : WorkflowSession σ,
      s'.issue service.call = .ok service.pending)
    (same : (record (callAll fresh (plain services)) s asked).2 =
      asked ++ s.requests fresh services) :
    LookupsAgree fresh s services := by
  induction services generalizing s asked with
  | nil =>
      trivial
  | cons service rest ih =>
      rw [plain, List.map_cons, ← plain] at same
      cases now : s.issue service.call with
      | error e =>
          -- A call that is refused sends nothing, so that there are too few requests.
          rw [record_callAll_error fresh s asked now] at same
          obtain ⟨sent, all, short⟩ := length_record_callAll fresh s asked (plain rest)
          have lengths := congrArg List.length (all.symm.trans same)
          rw [List.length_append, List.length_append, length_requests] at lengths
          rw [plain, List.length_map] at short
          rw [List.length_cons] at lengths
          omega
      | ok pending =>
          let found : Service := { service with pending }
          rw [record_callAll_ok fresh s asked found now] at same
          obtain ⟨sent, all, -⟩ := length_record_callAll fresh (s.serve fresh found)
            (asked ++ [s.requestOf fresh found]) (plain rest)
          have first : s.requestOf fresh found = s.requestOf fresh service := by
            have lists := all.symm.trans same
            rw [List.append_assoc] at lists
            exact (List.cons.inj (List.append_cancel_left lists)).1
          obtain ⟨before, looksUp⟩ := issued service List.mem_cons_self
          have samePending : pending = service.pending :=
            issue_injective now looksUp (congrArg ExecutionRequest.workflowId first)
          subst samePending
          refine ⟨now, ih _ (asked ++ [s.requestOf fresh service]) ?_ ?_⟩
          · exact fun other mem => issued other (List.mem_cons_of_mem _ mem)
          · rw [List.append_assoc]
            exact same

end WorkflowSession

end ServerDriven
