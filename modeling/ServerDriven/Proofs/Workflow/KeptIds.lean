/-
Module: ServerDriven.Proofs.Workflow.KeptIds
Purpose: The ids of the session and of its workflow after calls that succeed.
Main exports:
  WorkflowSession.Bears, WorkflowSession.bears_settle, Command.keeps?, Dealt.workflowId?,
  SessionEvent, SessionRun.pass, SessionRun.forgets, SessionRun.workflowId?_after,
  good_answers_keep_ids, empty_ids_are_none
-/
import ServerDriven.Proofs.Workflow.FailedCall
import ServerDriven.Proofs.Workflow.LineRun

namespace ServerDriven

open Run

/-!
An id that is kept as an empty text is as good as none.  Ids that are not empty are only ever
replaced by others, until the session or the workflow is forgotten.
-/

/-- An id that has been kept, as it is found again. -/
abbrev Session.found (id : String) : Option String := (some id).filter (!·.isEmpty)

theorem Session.found_of_ne {id : String} (named : id ≠ "") : found id = some id := by
  simp [found, named]

open Session (found found_of_ne)

/-- The workflow that a call asks for, if it is a start. -/
def Call.workflow? : Call → Option String
  | .start workflowId _ => workflowId
  | .event .. | .update _ => none

/-! ### One call -/

namespace WorkflowSession

variable {σ : Type} [Storage σ]

/-- What a session is after a good answer: it shows the state and is the session that the server has
named, unless that has no name. -/
structure Bears (s : WorkflowSession σ) (state : WorkflowState) : Prop where
  shown : s.state.value = some state
  named : state.sessionId ≠ "" → s.id? = some state.sessionId ∧ Session.isActive s.store = true
  unnamed : state.sessionId = "" → s.id? = none ∧ Session.isActive s.store = false

variable [LawfulStorage σ] (s : WorkflowSession σ) (pending : Pending)
  (response : ExecutionResponse)

theorem bears_settle :
    (s.settle pending (.ok response)).2.Bears (WorkflowState.ofResponse response) := by
  have kept : (s.settle pending (.ok response)).2.id? = found response.sessionId :=
    s.id?_settle_ok pending response
  have active : Session.isActive (s.settle pending (.ok response)).2.store =
      (found response.sessionId).isSome := congrArg Option.isSome kept
  refine ⟨rfl, ?_, ?_⟩
  · intro named
    have named : response.sessionId ≠ "" := named
    rw [kept, active, found_of_ne named]
    exact ⟨rfl, rfl⟩
  · intro unnamed
    have unnamed : response.sessionId = "" := unnamed
    rw [kept, active, unnamed]
    exact ⟨rfl, rfl⟩

/-- The workflow is left alone by a request. -/
theorem workflowId?_request (fresh : Nat → String) :
    (s.request fresh pending).2.workflowId? = s.workflowId? :=
  congrArg (Option.filter _) (s.get?_request fresh pending (Ne.symm Session.idKey_ne))

/-- The workflow after a good answer is that of the call, if it is to be kept. -/
theorem workflowId?_settle_ok :
    (s.settle pending (.ok response)).2.workflowId? =
      if pending.keepsWorkflow then pending.workflowId.elim s.workflowId? found
      else s.workflowId? := by
  -- The id of the session is written first, and under another key.
  have apart : Session.kept? (Session.setId s.store response.sessionId) Session.workflowIdKey =
      s.workflowId? :=
    (Session.kept?_put s.store _ _ _).trans (if_neg (Ne.symm Session.idKey_ne))
  have written : ∀ id, Session.kept?
      (Session.setWorkflowId (Session.setId s.store response.sessionId) id)
      Session.workflowIdKey = found id := by
    intro id
    exact (Session.kept?_put _ _ _ _).trans (if_pos rfl)
  obtain ⟨workflowId, context, event, keepsWorkflow⟩ := pending
  cases keepsWorkflow with
  | false =>
      exact apart
  | true =>
      cases workflowId with
      | none => exact apart
      | some id => exact written id

omit [LawfulStorage σ] in
/-- The workflow that is kept is found again if it is kept once more. -/
theorem elim_found (s : WorkflowSession σ) :
    s.workflowId?.elim s.workflowId? found = s.workflowId? := by
  cases kept : s.workflowId? with
  | none =>
      rfl
  | some id =>
      obtain ⟨-, named⟩ := Option.filter_eq_some_iff.mp kept
      simpa [found] using named

omit [LawfulStorage σ] in
/-- Only a start keeps a workflow, and if it asks for none then that is the one that was kept. -/
theorem kept_of_issue {s : WorkflowSession σ} {c : Call} {pending : Pending}
    (issued : s.issue c = .ok pending) :
    (if pending.keepsWorkflow then pending.workflowId.elim s.workflowId? found
      else s.workflowId?) = c.workflow?.elim s.workflowId? found := by
  cases c with
  | start workflowId context =>
      cases workflowId with
      | some id =>
          cases issued
          rfl
      | none =>
          rw [issue_start_none] at issued
          split at issued
          · cases issued
          · cases issued
            exact s.elim_found
  | event name data =>
      cases issued
      rfl
  | update data =>
      cases issued
      rfl

end WorkflowSession

/-! ### Commands -/

/-- The id of a workflow that is kept when a command has been dealt with: that of a start which has
succeeded, or that of a workflow which the server has taken over. -/
def Command.keeps? : Command → Told → Option String
  | .call c, .called (.ok _) => c.workflow?
  | .save .., .saved (.ok id) => some id
  | _, _ => none

section Steps

variable {σ : Type} [Storage σ] [LawfulStorage σ] {policy : RetryPolicy} {fresh : Nat → String}
  {s s' : WorkflowSession σ} {made : List Exchange}

/-- A call keeps the workflow that it asks for once it has succeeded. -/
theorem Called.workflowId? {c : Call} {result : CallResult}
    (called : Called policy fresh s c made result s') :
    s'.workflowId? = ((result.toOption.bind fun _ => c.workflow?).elim s.workflowId? found) := by
  cases called with
  | refused issued =>
      rfl
  | @answered pending talk issued request allowed =>
      cases answer : talk.answer with
      | error e =>
          rw [Conversation.result, answer]
          exact s.workflowId?_request pending fresh
      | ok response =>
          rw [Conversation.result, answer, WorkflowSession.workflowId?_settle_ok,
            s.workflowId?_request pending fresh]
          exact WorkflowSession.kept_of_issue issued

/-- Whatever a command does, the workflow is the one that it keeps, or the one that was kept. -/
theorem Dealt.workflowId? {command : Command} {told : Told}
    (dealt : Dealt policy fresh s command made told s') :
    s'.workflowId? = (command.keeps? told).elim s.workflowId? found := by
  cases dealt with
  | @call c made result s' called =>
      rw [called.workflowId?]
      cases result <;> rfl
  | nothingKept absent =>
      rfl
  | @restore given made result s' kept called =>
      rw [called.workflowId?]
      cases result <;> rfl
  | save request failures response =>
      exact (Session.kept?_put _ _ _ _).trans (if_pos rfl)
  | saveFailed request failures e =>
      rfl
  | health failures answer =>
      rfl
  | clear =>
      exact (Session.kept?_remove _ _ _).trans (if_neg (Ne.symm Session.idKey_ne))

/-- A call that has ended well leaves the session that the server has named. -/
theorem Called.bears {c : Call} {result : CallResult} {state : WorkflowState}
    (called : Called policy fresh s c made result s') (good : result = .ok state) :
    s'.Bears state := by
  cases called with
  | refused issued =>
      cases good
  | @answered pending talk issued request allowed =>
      cases answer : talk.answer with
      | error e =>
          rw [Conversation.result, answer] at good
          cases good
      | ok response =>
          rw [Conversation.result, answer] at good
          cases good
          exact WorkflowSession.bears_settle _ pending response

theorem Dealt.bears {command : Command} {told : Told} {state : WorkflowState}
    (dealt : Dealt policy fresh s command made told s') (good : told.result? = some (.ok state)) :
    s'.Bears state := by
  cases dealt with
  | call called => exact called.bears (Option.some.inj good)
  | nothingKept absent => cases good
  | restore kept called => exact called.bears (Option.some.inj good)
  | save request failures response => cases good
  | saveFailed request failures e => cases good
  | health failures answer => cases good
  | clear => cases good

end Steps

/-! ### Runs -/

/-- What can happen to a session, one thing after the other. -/
inductive SessionEvent where
  | command (c : Command)
  | forgetWorkflow

namespace SessionRun

variable {σ : Type} [Storage σ] (policy : RetryPolicy) (fresh : Nat → String)
  (server : Respondent)

/-- What becomes of a session. -/
def pass (s : SessionRun σ) : SessionEvent → SessionRun σ
  | .command c => s.step policy fresh server c
  | .forgetWorkflow =>
    { s with session := { s.session with store := Session.clearWorkflowId s.session.store } }

/-- The id of a workflow that an event has kept. -/
def writes (s : SessionRun σ) : SessionEvent → List String
  | .command c => (c.keeps? (s.deal policy fresh server c).1.1).toList
  | .forgetWorkflow => []

/-- The workflow is forgotten, or an empty id is kept. -/
def forgets (s : SessionRun σ) : SessionEvent → Bool
  | .command c => c.keeps? (s.deal policy fresh server c).1.1 = some ""
  | .forgetWorkflow => true

variable {policy fresh server} [LawfulStorage σ] {s : SessionRun σ}

theorem workflowId?_pass {event : SessionEvent}
    (keeps : s.forgets policy fresh server event = false) :
    (s.pass policy fresh server event).session.workflowId? =
      (s.writes policy fresh server event).getLast?.or s.session.workflowId? := by
  cases event with
  | forgetWorkflow =>
      cases keeps
  | command c =>
      have dealt := (s.dealt policy fresh server c).workflowId?
      change (s.deal policy fresh server c).1.2.workflowId? =
        (c.keeps? (s.deal policy fresh server c).1.1).toList.getLast?.or s.session.workflowId?
      rw [dealt]
      cases kept : c.keeps? (s.deal policy fresh server c).1.1 with
      | none =>
          rfl
      | some id =>
          have named : id ≠ "" := by
            rintro rfl
            simp [forgets, kept] at keeps
          exact found_of_ne named

/-- The workflow is the one that was kept last, as long as none is forgotten. -/
theorem workflowId?_after {events : List SessionEvent}
    (keeps : hits (pass policy fresh server) (forgets policy fresh server) s events = []) :
    (after (pass policy fresh server) s events).session.workflowId? =
      (noted (pass policy fresh server) (writes policy fresh server) s events).getLast?.or
        s.session.workflowId? := by
  induction events generalizing s with
  | nil =>
      rfl
  | cons event events ih =>
      obtain ⟨now, later⟩ := hits_cons_eq_nil.mp keeps
      rw [after_cons, ih later, workflowId?_pass now, noted_cons, List.getLast?_append,
        Option.or_assoc]

/-- A workflow that is kept is kept all along, as long as none is forgotten. -/
theorem always_workflow {events : List SessionEvent}
    (keeps : hits (pass policy fresh server) (forgets policy fresh server) s events = [])
    (kept : s.session.workflowId?.isSome = true) :
    Always (pass policy fresh server) (fun s => s.session.workflowId?.isSome = true) s events := by
  rintro earlier ⟨later, rfl⟩
  rw [hits_append] at keeps
  rw [workflowId?_after (List.append_eq_nil_iff.mp keeps).1, Option.isSome_or, kept, Bool.or_true]

end SessionRun

/-- A call that has succeeded leaves its session active under the id in the state that is published,
whatever has happened to the session meanwhile; an empty id counts as none.  In any run of commands,
one after the other, the workflow is the one that was kept last, so that one that is kept is only
ever replaced, as long as none is forgotten and no empty id is kept. -/
theorem good_answers_keep_ids {σ : Type} [Storage σ] [LawfulStorage σ] (policy : RetryPolicy)
    (fresh : Nat → String) :
    (∀ (line : CallLine σ) (response : ExecutionResponse) number state next,
      line.answer? policy (.ok response) = some (.ended number (.ok state) next) →
        state = WorkflowState.ofResponse response ∧ next.session.Bears state) ∧
    (∀ (server : Respondent) (s : SessionRun σ) (command : Command) (state : WorkflowState),
      (s.deal policy fresh server command).1.1.result? = some (.ok state) →
        (s.deal policy fresh server command).1.2.Bears state) ∧
    ∀ (server : Respondent) (s : SessionRun σ) (events : List SessionEvent),
      hits (SessionRun.pass policy fresh server) (SessionRun.forgets policy fresh server) s events =
          [] →
        (after (SessionRun.pass policy fresh server) s events).session.workflowId? =
            (noted (SessionRun.pass policy fresh server) (SessionRun.writes policy fresh server) s
              events).getLast?.or s.session.workflowId? ∧
          (s.session.workflowId?.isSome = true →
            Always (SessionRun.pass policy fresh server)
              (fun s => s.session.workflowId?.isSome = true) s events) := by
  refine ⟨?_, ?_, ?_⟩
  · intro line response number state next answered
    rcases line.answer?_cases policy (.ok response) with
      idle | ⟨number', pending, rest, request, backoff, -, -, ⟨wait, left, tries, -⟩ | ⟨-, ended⟩⟩
    · cases idle.symm.trans answered
    · obtain ⟨⟨e, failed, -⟩, -⟩ := Backoff.next?_eq_some_iff.mp tries
      cases failed
    · cases ended.symm.trans answered
      exact ⟨rfl, line.session.bears_settle pending response⟩
  · intro server s command state good
    exact (s.dealt policy fresh server command).bears good
  · intro server s events keeps
    exact ⟨SessionRun.workflowId?_after keeps, SessionRun.always_workflow keeps⟩

/-- A server that grants everything, and gives the ids that it is told to. -/
def granting (sessionId workflowId : String) : Respondent where
  execute _ _ := .ok ⟨sessionId, [], "login", .screen, none⟩
  save _ _ := .ok ⟨"saved", workflowId, "context"⟩
  health _ := .error (.network "down")

/-- A workflow is started, another one is saved, and the session is ended. -/
def startedAndSaved : List SessionEvent :=
  [.command (.call (.start (some "w") [])), .command (.save ⟨[]⟩ []), .command .clear]

theorem granted_ids_are_kept :
    let start : SessionRun Memory := ⟨.new Dictionary.empty, []⟩
    let line : CallLine Memory :=
      ⟨.new Dictionary.empty, [(7, ⟨some "w", [], none, true⟩)],
        some ⟨⟨"0", some "w", [], none⟩, .start .once, false⟩⟩
    (∃ next, line.answer? .once (.ok ⟨"s", [], "login", .screen, none⟩) =
      some (.ended 7 (.ok (.ofResponse ⟨"s", [], "login", .screen, none⟩)) next) ∧
        next.session.id? = some "s") ∧
    (start.deal .once (fun _ => "0") (granting "s" "v") (.call (.start (some "w") []))).1.2.id? =
      some "s" ∧
    hits (SessionRun.pass .once (fun _ => "0") (granting "s" "v"))
      (SessionRun.forgets .once (fun _ => "0") (granting "s" "v")) start startedAndSaved = [] ∧
    (after (SessionRun.pass .once (fun _ => "0") (granting "s" "v")) start
      startedAndSaved).session.workflowId? = some "v" := by
  obtain ⟨lines, deals, runs⟩ := good_answers_keep_ids (σ := Memory) .once fun _ => "0"
  intro start line
  have none : hits (SessionRun.pass .once (fun _ => "0") (granting "s" "v"))
      (SessionRun.forgets .once (fun _ => "0") (granting "s" "v")) start startedAndSaved = [] := rfl
  refine ⟨⟨_, rfl, ?_⟩, ?_, none, (runs _ _ _ none).1.trans rfl⟩
  · exact ((lines line _ 7 _ _ rfl).2.named (by decide)).1
  · exact ((deals (granting "s" "v") start (.call (.start (some "w") [])) _ rfl).named
      (by decide)).1

/-- A session that the server gives no name is not active, though the call has succeeded; and a
workflow without a name, when it is saved or started, takes the place of the one that was kept. -/
theorem empty_ids_are_none :
    let start : SessionRun Memory :=
      ⟨.new (Dictionary.ofList [(Session.idKey, "existing"), (Session.workflowIdKey, "w")]), []⟩
    let next := start.step .once (fun _ => "0") (granting "" "") (.call (.start none []))
    (∃ state,
      (start.deal .once (fun _ => "0") (granting "" "") (.call (.start none []))).1.1.result? =
        some (.ok state) ∧
      Session.isActive next.session.store = false ∧ next.session.id? ≠ some state.sessionId) ∧
    next.session.workflowId? = some "w" ∧
    (next.step .once (fun _ => "0") (granting "" "") (.save ⟨[]⟩ [])).session.workflowId? = none ∧
    (next.step .once (fun _ => "0") (granting "" "")
      (.call (.start (some "") []))).session.workflowId? = none := by
  refine ⟨⟨_, rfl, by decide, by decide⟩, by decide, by decide, by decide⟩

end ServerDriven
