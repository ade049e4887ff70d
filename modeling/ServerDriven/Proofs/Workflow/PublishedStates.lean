/-
Module: ServerDriven.Proofs.Workflow.PublishedStates
Purpose: The states that a session publishes while calls overlap: one for each good answer, in the
  order of the turns, and never parted from the id that is kept.
Main exports:
  WorkflowState.Tells, SessionMoves, CallLine.session_moves, WorkflowSession.InStep,
  SessionMoves.inStep, CallLine.publications, CallLine.publications_eq,
  published_states_follow_turns
-/
import Mathlib.Data.List.Forall2
import ServerDriven.Proofs.Session.Kept
import ServerDriven.Proofs.Workflow.Turns

namespace ServerDriven

open Run

/-!
An answer brings the id that is kept and the state up to date in one step, and the end of a session
removes both in one step.  Neither comes in between the two halves of the other.
-/

/-- A state says what an answer of the server says. -/
structure WorkflowState.Tells (state : WorkflowState) (response : ExecutionResponse) : Prop where
  sessionId : state.sessionId = response.sessionId
  currentState : state.currentState = response.currentState
  stateType : state.stateType = response.stateType
  context : state.context = ContextValue.ofMembers response.context
  screen : state.screen = if response.stateType = .screen then response.screen else none
  isError : state.isError = true ↔ response.currentState = "__error__"
  workflowId : state.workflowId =
    ((ContextValue.ofMembers response.context).text? "__workflow_id").getD ""
  createdAt : state.createdAt = (ContextValue.ofMembers response.context).text? "__created_at"

theorem WorkflowState.tells_ofResponse (response : ExecutionResponse) :
    (ofResponse response).Tells response where
  sessionId := rfl
  currentState := rfl
  stateType := rfl
  context := rfl
  screen := rfl
  isError := decide_eq_true_iff
  workflowId := rfl
  createdAt := rfl

/-- The good answer in which a turn ended, if it did. -/
def PastTurn.reply? (t : PastTurn) : Option ExecutionResponse := t.talk.answer.toOption

/-- If the server answers a call, it names the session. -/
def LineEvent.NamesSession (event : LineEvent) : Prop :=
  ∀ response, event = .call (.answer (.ok response)) → response.sessionId ≠ ""

/-! ### What an event does to the session -/

/-- What becomes of a session when something happens to it or to its calls, and what comes of a call
that is over then. -/
inductive SessionMoves {σ : Type} [Storage σ] (fresh : Nat → String) (s : WorkflowSession σ) :
    LineEvent → Option CallResult → WorkflowSession σ → Prop where
  | same (event : LineEvent) : SessionMoves fresh s event none s
  | asked (pending : Pending) :
      SessionMoves fresh s (.call .begin) none (s.request fresh pending).2
  | settled (pending : Pending) (answer : ServerAnswer) :
      SessionMoves fresh s (.call (.answer answer)) (some (s.settle pending answer).1)
        (s.settle pending answer).2
  | ended : SessionMoves fresh s .clear none s.clear
  | kept (id : String) :
      SessionMoves fresh s (.keepWorkflow id) none
        { s with store := Session.setWorkflowId s.store id }

/-- All that an event can do to the session of a line. -/
theorem CallLine.session_moves {σ : Type} [Storage σ] (policy : RetryPolicy) (fresh : Nat → String)
    (line : CallLine σ) (event : LineEvent) :
    SessionMoves fresh line.session event
      ((event.call?.bind (line.ending? policy)).map Ending.result)
      (line.step policy fresh event).session := by
  cases event with
  | clear =>
      exact .ended
  | keepWorkflow id =>
      exact .kept id
  | call event =>
      simp only [LineEvent.call?, Option.bind_some, step]
      cases event with
      | issue number c =>
          simp only [callStep, ending?]
          rcases line.issue_cases number c with ⟨e, -, admits⟩ | ⟨pending, -, admits⟩
          · rw [admits]
            exact .same _
          · rw [admits]
            exact .same _
      | begin =>
          simp only [callStep, ending?]
          rcases line.begin?_cases policy fresh with
            begins | ⟨number, pending, rest, backoff, -, -, begins⟩
          · rw [begins]
            exact .same _
          · rw [begins]
            exact .asked pending
      | answer answer =>
          simp only [callStep, ending?]
          rcases line.answer?_cases policy answer with
            takes | ⟨number, pending, rest, request, backoff, -, -,
              ⟨wait, left, -, takes⟩ | ⟨-, takes⟩⟩
          · rw [takes]
            exact .same _
          · rw [takes]
            exact .same _
          · rw [takes]
            exact .settled pending answer
      | again =>
          simp only [callStep, ending?]
          rcases line.again?_cases with tries | ⟨request, backoff, -, tries⟩
          · rw [tries]
            exact .same _
          · rw [tries]
            exact .same _

namespace SessionMoves

variable {σ : Type} [Storage σ] {fresh : Nat → String} {s s' : WorkflowSession σ}
  {event : LineEvent} {result : Option CallResult}

/-- The state to which a call comes is published, and besides that only the end of the session. -/
theorem state_cases (moves : SessionMoves fresh s event result s') :
    (s'.state = s.state ∧ result.bind Except.toOption = none) ∨
      ∃ value, s'.state = s.state.publish value ∧ result.bind Except.toOption = value := by
  cases moves with
  | same =>
      exact .inl ⟨rfl, rfl⟩
  | asked pending =>
      exact .inl ⟨rfl, rfl⟩
  | settled pending answer =>
      cases answer with
      | error e =>
          exact .inl ⟨rfl, rfl⟩
      | ok response =>
          exact .inr ⟨some (.ofResponse response), rfl, rfl⟩
  | ended =>
      exact .inr ⟨none, rfl, rfl⟩
  | kept id =>
      exact .inl ⟨rfl, rfl⟩

theorem state_follows (moves : SessionMoves fresh s event result s') :
    s.state.Follows s'.state := by
  rcases moves.state_cases with ⟨same, -⟩ | ⟨value, publishes, -⟩
  · exact .inl same
  · exact .inr ⟨value, publishes⟩

theorem since_state (moves : SessionMoves fresh s event result s') :
    (s.state.since s'.state).filterMap id = (result.bind Except.toOption).toList := by
  rcases moves.state_cases with ⟨same, arrives⟩ | ⟨value, publishes, arrives⟩
  · rw [same, arrives, Watched.since_self]
    rfl
  · rw [publishes, arrives, Watched.since_publish]
    cases value <;> rfl

end SessionMoves

/-! ### The id that is kept -/

/-- Where there is a state, the id of its session is kept. -/
def WorkflowSession.InStep {σ : Type} [Storage σ] (s : WorkflowSession σ) : Prop :=
  ∀ state, s.state.value = some state → s.id? = some state.sessionId

/-- Nothing parts the state from the id. -/
theorem SessionMoves.inStep {σ : Type} [Storage σ] [LawfulStorage σ] {fresh : Nat → String}
    {s s' : WorkflowSession σ} {event : LineEvent} {result : Option CallResult}
    (moves : SessionMoves fresh s event result s') (named : event.NamesSession)
    (h : s.InStep) : s'.InStep := by
  cases moves with
  | same =>
      exact h
  | asked pending =>
      exact fun state shown => WorkflowSession.id?_request_of_some fresh pending (h state shown)
  | settled pending answer =>
      cases answer with
      | error e =>
          exact h
      | ok response =>
          rintro state ⟨⟩
          refine (s.id?_settle_ok pending response).trans ?_
          simp [named response rfl, WorkflowState.ofResponse, WorkflowState.arrive]
  | ended =>
      exact fun _ shown => nomatch shown
  | kept id =>
      exact fun state shown => (Session.id?_setWorkflowId s.store id).trans (h state shown)

/-! ### Runs -/

namespace CallLine

variable {σ : Type} [Storage σ] (policy : RetryPolicy) (fresh : Nat → String)

/-- All that a session publishes, from what is there at the start. -/
abbrev publications (start : CallLine σ) (events : List LineEvent) : List (Option WorkflowState) :=
  published (step policy fresh) (fun line => line.session.state) start events

/-- The states that are published are those in which calls end, in the order in which they do. -/
theorem publications_eq (session : WorkflowSession σ) (unknown : session.state.value = none)
    (events : List LineEvent) :
    (publications policy fresh (.new session) events).filterMap id =
      (lineEndings policy fresh (.new session) events).filterMap fun ending =>
        ending.result.toOption := by
  have first : (CallLine.new session).session.state.value = none := unknown
  unfold publications published lineEndings
  rw [first, List.filterMap_cons_none rfl, filterMap_noted, filterMap_noted]
  congr 1
  funext line event
  rw [(line.session_moves policy fresh event).since_state]
  cases event.call?.bind (line.ending? policy) with
  | none =>
      rfl
  | some ending =>
      cases h : ending.result.toOption <;> simp [h]

end CallLine

/-- Calls that overlap have their turns one after the other, in the order in which they went in line,
and no call speaks to the server in the turn of another; when none is left in line, each has had its
turn.  The states that are published are those that the good answers tell of, in the order of the
turns, and no publication is missed.  While the server names its sessions, the id that is kept is
always that of the state that is shown.  All this holds whatever else happens to the session
meanwhile: it may be ended, and a workflow may be kept.

One step is all that is done between two waits.  An answer is taken in as one step with all that it
writes, the id that is kept, the workflow and the state; and the end of a session, which removes the
id and the state, is one step too.  So neither comes in between the two halves of the other. -/
theorem published_states_follow_turns {σ : Type} [Storage σ] [LawfulStorage σ]
    (policy : RetryPolicy) (fresh : Nat → String) (store : σ) (events : List LineEvent)
    (named : ∀ event ∈ events, event.NamesSession) :
    let start := CallLine.new (.new store)
    let admitted := CallLine.lineAdmissions policy fresh start events
    let contacts := CallLine.lineContacts policy fresh start events
    let ended := CallLine.lineEndings policy fresh start events
    let published := CallLine.publications policy fresh start events
    let line := after (CallLine.step policy fresh) start events
    (∃ (past : List PastTurn) (present : Option PresentTurn),
      past.map PastTurn.admission ++ present.toList.map PresentTurn.admission <+: admitted ∧
      (line.calls = [] → past.map PastTurn.admission = admitted) ∧
      contacts = past.flatMap PastTurn.contacts ++ present.toList.flatMap PresentTurn.contacts ∧
      ended = past.map PastTurn.ending ∧
      List.Forall₂ WorkflowState.Tells (published.filterMap id) (past.filterMap PastTurn.reply?)) ∧
    published.length = line.session.state.version + 1 ∧
    Always (CallLine.step policy fresh) (fun line => line.session.InStep) start events := by
  intro start admitted contacts ended published line
  obtain ⟨past, present, waiting, h⟩ := CallLine.turns policy fresh (.new store) events
  refine ⟨⟨past, present, ?_, fun silent => ?_, h.contacts_eq, h.ended_eq, ?_⟩, ?_, ?_⟩
  · exact ⟨waiting, (List.append_assoc _ _ _).trans h.admitted_eq.symm⟩
  · have others := List.map_eq_nil_iff.mp (h.calls_eq.symm.trans silent)
    have all := h.admitted_eq
    rw [others, List.append_nil] at all
    exact all.symm
  · have states : published.filterMap id =
        (past.filterMap PastTurn.reply?).map WorkflowState.ofResponse := by
      rw [CallLine.publications_eq policy fresh (.new store) rfl events, h.ended_eq,
        List.filterMap_map, List.map_filterMap]
      refine congrArg (fun f => past.filterMap f) (funext fun t => ?_)
      simp only [Function.comp, PastTurn.ending, PastTurn.reply?, Conversation.result]
      cases t.talk.answer <;> rfl
    rw [states, List.forall₂_map_left_iff]
    exact List.forall₂_same.mpr fun response _ => WorkflowState.tells_ofResponse response
  · exact length_published
      (fun line event => (line.session_moves policy fresh event).state_follows) rfl events
  · exact always_of_step (fun line event mem inStep =>
      (line.session_moves policy fresh event).inStep (named event mem) inStep)
      fun _ shown => by cases shown

/-- A workflow is started, at the second attempt, while an event waits for its turn.  The session is
ended before the event has it. -/
def endedBetween : List LineEvent :=
  [.call (.issue 1 (.start (some "w") [])), .call (.issue 2 (.event "e" [])), .call .begin,
    .call (.answer (.error (.network "down"))), .call .again,
    .call (.answer (.ok ⟨"1", [], "a", .screen, none⟩)), .keepWorkflow "v", .clear, .call .begin,
    .call (.answer (.ok ⟨"2", [], "b", .screen, none⟩))]

theorem ended_between_published_in_turn :
    (∀ event ∈ endedBetween, event.NamesSession) ∧
      (CallLine.publications { times := 2 } (fun _ => "0") (.new nothingKept) endedBetween).map
          (·.map (·.currentState)) = [none, some "a", none, some "b"] ∧
      Always (CallLine.step { times := 2 } fun _ => "0") (fun line => line.session.InStep)
        (.new nothingKept) endedBetween := by
  have named : ∀ event ∈ endedBetween, event.NamesSession := by
    simp [endedBetween, LineEvent.NamesSession]
  obtain ⟨-, -, inStep⟩ := published_states_follow_turns { times := 2 } (fun _ => "0")
    (Dictionary.empty : Memory) endedBetween named
  exact ⟨named, by decide, inStep⟩

end ServerDriven
