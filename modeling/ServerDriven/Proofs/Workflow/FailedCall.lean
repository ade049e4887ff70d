/-
Module: ServerDriven.Proofs.Workflow.FailedCall
Purpose: What a command that fails leaves of a session.
Main exports:
  Told.error?, WorkflowSession.snd_request_of_some, WorkflowSession.snd_request_of_none,
  Called.failed, SparedBy, failed_command_spares_session
-/
import ServerDriven.Proofs.Workflow.KnownSession

namespace ServerDriven

open Run

/-- The failure that a user is told of. -/
def Told.error? : Told → Option WorkflowError
  | .called (.error e) | .restored (some (.error e)) | .saved (.error e) | .health (.error e) =>
    some e
  | .called (.ok _) | .restored none | .restored (some (.ok _)) | .saved (.ok _)
  | .health (.ok _) | .cleared => none

/-! ### What a request does to a session -/

namespace WorkflowSession

variable {σ : Type} [Storage σ] {s : WorkflowSession σ}

/-- A session that has an id stays as it is. -/
theorem snd_request_of_some {id : String} (kept : s.id? = some id) (fresh : Nat → String)
    (pending : Pending) : (s.request fresh pending).2 = s := by
  unfold request Session.obtainId
  rw [kept]
  unfold id? at kept
  rw [kept]
  rfl

/-- A session without an id gets a fresh one, and nothing else. -/
theorem snd_request_of_none (absent : s.id? = none) (fresh : Nat → String) (pending : Pending) :
    (s.request fresh pending).2 =
      { s with store := Session.setId s.store (fresh s.minted), minted := s.minted + 1 } := by
  unfold request Session.obtainId
  rw [absent]
  unfold id? at absent
  rw [absent]
  rfl

/-- The storage under all other keys stays as it is. -/
theorem get?_request [LawfulStorage σ] (s : WorkflowSession σ) (fresh : Nat → String)
    (pending : Pending) {key : String} (other : key ≠ Session.idKey) :
    Storage.get? (s.request fresh pending).2.store key = Storage.get? s.store key := by
  cases kept : s.id? with
  | some id =>
      rw [snd_request_of_some kept]
  | none =>
      rw [snd_request_of_none kept]
      exact (LawfulStorage.get?_put s.store Session.idKey _ key).trans (if_neg other)

end WorkflowSession

/-! ### Failures -/

section Failures

variable {σ : Type} [Storage σ] {policy : RetryPolicy} {fresh : Nat → String}
  {s s' : WorkflowSession σ} {made : List Exchange} {e : WorkflowError}

/-- A call fails where it is issued, or with the last answer to its request. -/
theorem Called.failed {c : Call} {result : CallResult}
    (called : Called policy fresh s c made result s') (failed : result = .error e) :
    (s.issue c = .error e ∧ made = [] ∧ s' = s) ∨
      ∃ (pending : Pending) (talk : Conversation), s.issue c = .ok pending ∧
        talk.request = (s.request fresh pending).1 ∧ talk.Allowed policy ∧
        talk.answer = .error e ∧ made = talk.exchanges ∧ s' = (s.request fresh pending).2 := by
  cases called with
  | refused issued =>
      cases failed
      exact .inl ⟨issued, rfl, rfl⟩
  | @answered pending talk issued request allowed =>
      have last : talk.answer = .error e := by
        rw [Conversation.result] at failed
        cases answer : talk.answer with
        | ok response =>
            rw [answer] at failed
            cases failed
        | error e' =>
            rw [answer] at failed
            cases failed
            rfl
      refine .inr ⟨pending, talk, issued, request, allowed, last, rfl, ?_⟩
      rw [last]
      rfl

/-- What a failure leaves of a session.  Nothing is published and the workflow stays, as does all
that is kept besides the id of the session.  A session that has an id is left as it was, and so is
one whose command asks for nothing to be executed or is refused before anything is sent.  Else the
session has got an id, one that was made up for the request that failed. -/
structure SparedBy (policy : RetryPolicy) (fresh : Nat → String) (s : WorkflowSession σ)
    (command : Command) (made : List Exchange) (e : WorkflowError) (s' : WorkflowSession σ) :
    Prop where
  state : s'.state = s.state
  workflow : s'.workflowId? = s.workflowId?
  others : ∀ key, key ≠ Session.idKey → Storage.get? s'.store key = Storage.get? s.store key
  kept : s.id?.isSome = true → s' = s
  apart : command.call? = none → s' = s
  refused : ∀ c e', command.call? = some c → s.issue c = .error e' →
    e = WorkflowSession.missingWorkflow ∧ made = [] ∧ s' = s
  minted : s.id? = none → ∀ c pending, command.call? = some c → s.issue c = .ok pending →
    s'.id? = some (fresh s.minted) ∧ s'.minted = s.minted + 1 ∧
    ∃ talk : Conversation, talk.request.sessionId = fresh s.minted ∧ talk.Allowed policy ∧
      talk.answer = .error e ∧ made = talk.exchanges

/-- A command that asks for nothing to be executed, and fails. -/
theorem sparedBy_apart {command : Command} (apart : command.call? = none) :
    SparedBy policy fresh s command made e s where
  state := rfl
  workflow := rfl
  others _ _ := rfl
  kept _ := rfl
  apart _ := rfl
  refused c e' calls _ := by cases apart.symm.trans calls
  minted _ c pending calls _ := by cases apart.symm.trans calls

variable [LawfulStorage σ]

/-- A command that makes a call, and fails. -/
theorem sparedBy_called (named : ∀ n, fresh n ≠ "") {command : Command} {c : Call}
    (makes : command.call? = some c) {result : CallResult}
    (called : Called policy fresh s c made result s') (failed : result = .error e) :
    SparedBy policy fresh s command made e s' := by
  rcases called.failed failed with
    ⟨issued, rfl, rfl⟩ | ⟨pending, talk, issued, request, allowed, last, rfl, rfl⟩
  · obtain ⟨-, -, -, missing⟩ := WorkflowSession.issue_eq_error_iff.mp issued
    refine ⟨rfl, rfl, fun _ _ => rfl, fun _ => rfl, fun _ => rfl, fun _ _ _ _ => ⟨missing, rfl, rfl⟩,
      fun _ c' pending calls issued' => ?_⟩
    cases makes.symm.trans calls
    cases issued.symm.trans issued'
  · have others : ∀ key, key ≠ Session.idKey →
        Storage.get? (s.request fresh pending).2.store key = Storage.get? s.store key :=
      fun key other => s.get?_request fresh pending other
    refine ⟨rfl, ?_, others, fun kept => ?_, fun apart => ?_, fun c' e' calls refused => ?_,
      fun absent c' pending' calls issued' => ?_⟩
    · exact congrArg (Option.filter _) (others _ (Ne.symm Session.idKey_ne))
    · obtain ⟨id, kept⟩ := Option.isSome_iff_exists.mp kept
      exact WorkflowSession.snd_request_of_some kept fresh pending
    · cases makes.symm.trans apart
    · cases makes.symm.trans calls
      cases issued.symm.trans refused
    · have sent : talk.request.sessionId = fresh s.minted := by
        rw [request, WorkflowSession.sessionId_request, absent]
        rfl
      refine ⟨?_, ?_, talk, sent, allowed, last, rfl⟩
      · rw [← sent, request]
        exact Session.id?_obtainId s.store (named s.minted)
      · rw [WorkflowSession.snd_request_of_none absent]

end Failures

/-- A command that fails leaves the session as it was, in every state and whatever else the server
has been asked before: when it is refused, when the server cannot be reached or answers with a
failure, and after any number of attempts.  At most a session that had no id has got one. -/
theorem failed_command_spares_session {σ : Type} [Storage σ] [LawfulStorage σ]
    (policy : RetryPolicy) (fresh : Nat → String) (named : ∀ n, fresh n ≠ "") (server : Respondent)
    (s : SessionRun σ) (command : Command) (e : WorkflowError)
    (failed : (s.deal policy fresh server command).1.1.error? = some e) :
    SparedBy policy fresh s.session command (s.deal policy fresh server command).2 e
      (s.deal policy fresh server command).1.2 := by
  have dealt := s.dealt policy fresh server command
  generalize (s.deal policy fresh server command).1.1 = told at failed dealt
  generalize (s.deal policy fresh server command).1.2 = s' at dealt
  generalize (s.deal policy fresh server command).2 = made at dealt
  cases dealt with
  | @call c made result s' called =>
      cases result with
      | ok state =>
          cases failed
      | error e' =>
          cases failed
          exact sparedBy_called named rfl called rfl
  | nothingKept absent =>
      cases failed
  | @restore given made result s' kept called =>
      cases result with
      | ok state =>
          cases failed
      | error e' =>
          cases failed
          exact sparedBy_called named rfl called rfl
  | save request failures response =>
      cases failed
  | saveFailed request failures e' =>
      exact sparedBy_apart rfl
  | health failures answer =>
      exact sparedBy_apart rfl
  | clear =>
      cases failed

/-- A start that cannot reach the server, where nothing is kept. -/
theorem failed_start_spares_session :
    (∀ n : Nat, (fun n => "id" ++ toString n) n ≠ "") ∧
      let now : SessionRun Memory := ⟨.new Dictionary.empty, []⟩
      let next := now.deal .once (fun n => "id" ++ toString n) unreachable
        (.call (.start (some "w") []))
      next.1.1.error? = some (.network "down") ∧
        SparedBy .once (fun n => "id" ++ toString n) now.session (.call (.start (some "w") []))
          next.2 (.network "down") next.1.2 := by
  have named : ∀ n : Nat, (fun n => "id" ++ toString n) n ≠ "" := by
    intro n
    simp
  refine ⟨named, rfl, ?_⟩
  exact failed_command_spares_session .once _ named unreachable ⟨.new Dictionary.empty, []⟩
    (.call (.start (some "w") [])) (.network "down") rfl

end ServerDriven
