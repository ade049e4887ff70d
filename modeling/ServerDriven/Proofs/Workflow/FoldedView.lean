/-
Module: ServerDriven.Proofs.Workflow.FoldedView
Purpose: What a user sees is what the session has come to, when intents are handled one after the
  other.
Main exports:
  WorkflowView.Shows, WorkflowView.Reflects, WorkflowView.TellsOf, WorkflowController.Settled,
  Handled.settled, Handled.tellsOf, lastNamed, SinceReset, view_folds_session
-/
import ServerDriven.Proofs.Workflow.IntentRun
import ServerDriven.Proofs.Workflow.KnownSession

namespace ServerDriven

open Run

/-! ### Views of a state -/

namespace WorkflowView

/-- A view shows a state as it is, and of its context also what is not the server's own. -/
structure Shows (view : WorkflowView) (state : WorkflowState) : Prop where
  currentState : view.currentState = some state.currentState
  stateType : view.stateType = some state.stateType
  screen : view.screen = state.screen
  context : view.context = state.context
  visibleContext : view.visibleContext =
    state.context.filter fun entry => !(['_', '_'].isPrefixOf entry.1.toList)
  sessionId : view.sessionId = some state.sessionId

/-- A view shows no state. -/
structure IsBlank (view : WorkflowView) : Prop where
  currentState : view.currentState = none
  stateType : view.stateType = none
  screen : view.screen = none
  context : view.context = []
  visibleContext : view.visibleContext = []

/-- A view shows the state that there is. -/
def Reflects (view : WorkflowView) : Option WorkflowState → Prop
  | some state => view.Shows state
  | none => view.IsBlank

theorem shows_arrive (view : WorkflowView) (state : WorkflowState) :
    (view.arrive state).Shows state :=
  ⟨rfl, rfl, rfl, rfl, state.context.visible_eq, rfl⟩

/-- What a view shows of a state does not depend on whether something is under way, nor on errors.
-/
theorem Reflects.frame {view : WorkflowView} {state? : Option WorkflowState}
    (reflects : view.Reflects state?) (isLoading : Bool) (error? : Option String)
    (errorCategory? : Option ErrorCategory) :
    ({ view with isLoading, error?, errorCategory? } : WorkflowView).Reflects state? := by
  cases state? with
  | some state =>
      obtain ⟨currentState, stateType, screen, context, visibleContext, sessionId⟩ := reflects
      exact ⟨currentState, stateType, screen, context, visibleContext, sessionId⟩
  | none =>
      obtain ⟨currentState, stateType, screen, context, visibleContext⟩ := reflects
      exact ⟨currentState, stateType, screen, context, visibleContext⟩

end WorkflowView

/-! ### After each intent -/

/-- No call is under way, and what is shown is what the session has come to. -/
structure WorkflowController.Settled {σ : Type} (c : WorkflowController σ) : Prop where
  calls : c.line.calls = []
  turn : c.line.turn = none
  quiet : c.view.value.isLoading = false
  reflects : c.view.value.Reflects c.line.session.state.value

/-- What a view tells of the call that an intent asked for, or of none. -/
structure WorkflowView.TellsOf (view before : WorkflowView) (result? : Option CallResult) :
    Prop where
  error_isSome : view.error?.isSome = true ↔
    (∃ e, result? = some (.error e)) ∨ ∃ state, result? = some (.ok state) ∧ state.isError = true
  failed : ∀ e, result? = some (.error e) →
    view = { before with
      error? := some e.category.userMessage, errorCategory? := some e.category }
  succeeded : ∀ state, result? = some (.ok state) →
    view.error? = (if state.isError then some "Workflow error state" else none) ∧
      view.errorCategory? = none
  noCall : result? = none → view.error? = none ∧ view.errorCategory? = none

namespace WorkflowView

theorem tellsOf_fail {view : WorkflowView} (quiet : view.isLoading = false) (e : WorkflowError) :
    (view.begin.fail e).TellsOf view (some (.error e)) where
  error_isSome := iff_of_true rfl (.inl ⟨e, rfl⟩)
  failed := by
    rintro e' ⟨⟩
    rw [quiet]
    rfl
  succeeded := by rintro state ⟨⟩
  noCall := by rintro ⟨⟩

theorem tellsOf_arrive (view before : WorkflowView) (state : WorkflowState) :
    (view.arrive state).TellsOf before (some (.ok state)) where
  error_isSome := by
    unfold arrive
    cases troubled : state.isError with
    | false =>
        simp [troubled]
    | true =>
        simp [troubled]
  failed := by rintro e ⟨⟩
  succeeded := by
    rintro state' ⟨⟩
    exact ⟨rfl, rfl⟩
  noCall := by rintro ⟨⟩

theorem tellsOf_none {view : WorkflowView} (silent : view.error? = none)
    (plain : view.errorCategory? = none) (before : WorkflowView) : view.TellsOf before none where
  error_isSome := by simp [silent]
  failed := by rintro e ⟨⟩
  succeeded := by rintro state ⟨⟩
  noCall _ := ⟨silent, plain⟩

end WorkflowView

/-- The last workflow that some states name. -/
def lastNamed (states : List WorkflowState) : Option String :=
  ((states.map WorkflowState.workflowId).filter (· ≠ "")).getLast?

theorem lastNamed_append (states later : List WorkflowState) :
    lastNamed (states ++ later) = (lastNamed later).or (lastNamed states) := by
  unfold lastNamed
  rw [List.map_append, List.filter_append, List.getLast?_append]

theorem WorkflowView.workflowId_arrive (view : WorkflowView) (state : WorkflowState) :
    (view.arrive state).workflowId = (lastNamed [state]).or view.workflowId := by
  unfold arrive lastNamed
  by_cases unnamed : state.workflowId = ""
  · simp [unnamed]
  · simp [unnamed, String.isEmpty_iff]

namespace Handled

variable {σ : Type} [Storage σ] {policy : RetryPolicy} {fresh : Nat → String}
  {c c' : WorkflowController σ} {intent : Intent} {made : List Exchange}
  {result? : Option CallResult}

/-- Every intent leaves the two copies of the state equal. -/
theorem settled (handled : Handled policy fresh c intent made result? c') (h : c.Settled) :
    c'.Settled := by
  cases handled with
  | @call _ _ _ _ session asks called =>
      rcases called.state_cases with ⟨e, rfl, same⟩ | ⟨state, rfl, publishes⟩
      · refine ⟨h.calls, h.turn, rfl, ?_⟩
        have kept := h.reflects.frame false (some e.category.userMessage) (some e.category)
        rw [← same] at kept
        exact kept
      · refine ⟨h.calls, h.turn, rfl, ?_⟩
        change (c.view.value.begin.arrive state).Reflects session.state.value
        rw [publishes]
        exact WorkflowView.shows_arrive c.view.value.begin state
  | clearError =>
      exact ⟨h.calls, h.turn, h.quiet, h.reflects.frame _ none none⟩
  | reset =>
      exact ⟨h.calls, h.turn, rfl, rfl, rfl, rfl, rfl, rfl⟩

theorem tellsOf (handled : Handled policy fresh c intent made result? c') (h : c.Settled) :
    c'.view.value.TellsOf c.view.value result? := by
  cases handled with
  | @call _ _ _ result _ asks called =>
      cases result with
      | error e =>
          exact WorkflowView.tellsOf_fail h.quiet e
      | ok state =>
          exact WorkflowView.tellsOf_arrive _ _ state
  | clearError =>
      exact WorkflowView.tellsOf_none rfl rfl _
  | reset =>
      exact WorkflowView.tellsOf_none rfl rfl _

/-- A workflow that the server names is shown from then on. -/
theorem workflowId (handled : Handled policy fresh c intent made result? c')
    (goesOn : intent ≠ .reset) :
    c'.view.value.workflowId =
      (lastNamed ((c.line.session.state.since c'.line.session.state).filterMap id)).or
        c.view.value.workflowId := by
  cases handled with
  | @call _ _ _ _ session asks called =>
      rcases called.state_cases with ⟨e, rfl, same⟩ | ⟨state, rfl, publishes⟩
      · change c.view.value.workflowId =
          (lastNamed ((c.line.session.state.since session.state).filterMap id)).or
            c.view.value.workflowId
        rw [same, Watched.since_self]
        rfl
      · change (c.view.value.begin.arrive state).workflowId =
          (lastNamed ((c.line.session.state.since session.state).filterMap id)).or
            c.view.value.begin.workflowId
        rw [publishes, Watched.since_publish]
        exact WorkflowView.workflowId_arrive _ state
  | clearError =>
      change c.view.value.workflowId =
        (lastNamed ((c.line.session.state.since c.line.session.state).filterMap id)).or
          c.view.value.workflowId
      rw [Watched.since_self]
      rfl
  | reset =>
      exact absurd rfl goesOn

end Handled

/-! ### Runs -/

/-- What has happened since a session was last reset, or since it was given to the user if it never
was. -/
structure SinceReset (intents opened later : List Intent) : Prop where
  split : intents = opened ++ later
  opened : opened = [] ∨ ∃ earlier, opened = earlier ++ [.reset]
  later : .reset ∉ later

namespace IntentRun

variable {σ : Type} [Storage σ] (policy : RetryPolicy) (fresh : Nat → String)
  (server : Respondent)

/-- Whenever the user can act, what is shown is what the session has come to. -/
theorem settled_after (run : IntentRun σ) (settled : run.controller.Settled)
    (intents : List Intent) :
    (after (step policy fresh server) run intents).controller.Settled := by
  induction intents generalizing run with
  | nil =>
      exact settled
  | cons intent intents ih =>
      exact ih _ ((run.handled policy fresh server intent).settled settled)

/-- The workflow that is shown is the last that the server has named since the session was reset, or
else the one that was kept then. -/
theorem workflowId_after (run : IntentRun σ)
    (start : run.view.workflowId = run.session.workflowId?) (intents : List Intent) :
    ∃ opened later, SinceReset intents opened later ∧
      (after (step policy fresh server) run intents).view.workflowId =
        (lastNamed (noted (step policy fresh server) (published policy fresh server)
          (after (step policy fresh server) run opened) later)).or
          (after (step policy fresh server) run opened).session.workflowId? := by
  induction intents using List.reverseRecOn with
  | nil =>
      exact ⟨[], [], ⟨rfl, .inl rfl, List.not_mem_nil⟩, start⟩
  | append_singleton intents intent ih =>
      by_cases resets : intent = .reset
      · -- What is kept now is shown, and what was named before is forgotten.
        subst resets
        refine ⟨intents ++ [.reset], [], ⟨by simp, .inr ⟨intents, rfl⟩, List.not_mem_nil⟩, ?_⟩
        rw [after_concat]
        rfl
      · obtain ⟨opened, later, since, shown⟩ := ih
        refine ⟨opened, later ++ [intent], ⟨?_, since.opened, ?_⟩, ?_⟩
        · rw [since.split, List.append_assoc]
        · rw [List.mem_append, List.mem_singleton, not_or]
          exact ⟨since.later, Ne.symm resets⟩
        · have named := (((after (step policy fresh server) run intents)).handled policy fresh
            server intent).workflowId resets
          rw [after_concat, noted_concat, lastNamed_append, Option.or_assoc, ← shown,
            ← after_append, ← since.split]
          exact named

end IntentRun

/-- What a user sees is what the session has come to.

A session that has published no state is given to a user, who wants one thing after the other of it,
and the server may answer anything.  Then after each intent nothing is under way, and the view shows
the state that the session has, if it has one, and of its context also what the user may see.  It
shows the workflow that the server has named last since the session was last reset, or else the one
that was kept then.

An error is shown if and only if the last intent asked for a call that has failed, and then that is
all that has changed, or for one that has led into an error state.

Handling an intent comes to the same as the steps of its turn, one after the other. -/
theorem view_folds_session {σ : Type} [Storage σ] (policy : RetryPolicy) (fresh : Nat → String)
    (server : Respondent) (session : WorkflowSession σ) (unpublished : session.state.value = none)
    (log : List Exchange) (intents : List Intent) (intent : Intent) :
    let start : IntentRun σ := ⟨.new session, log⟩
    let run := after (IntentRun.step policy fresh server) start
    let before := run intents
    let now := run (intents ++ [intent])
    let result? := before.called? policy fresh server intent
    now.view.isLoading = false ∧
      now.view.Reflects now.session.state.value ∧
      (∃ opened later, SinceReset (intents ++ [intent]) opened later ∧
        now.view.workflowId =
          (lastNamed (noted (IntentRun.step policy fresh server)
            (IntentRun.published policy fresh server) (run opened) later)).or
            (run opened).session.workflowId?) ∧
      now.view.TellsOf before.view result? ∧
      ∀ number, ∃ talk? : Option Conversation,
        now.log = before.log ++ talk?.elim [] Conversation.exchanges ∧
          now.controller = after (WorkflowController.step policy fresh) before.controller
            (.submit number intent :: talk?.elim [] Conversation.events) := by
  intro start run before now result?
  have first : start.controller.Settled := by
    refine ⟨rfl, rfl, rfl, ?_⟩
    change WorkflowView.Reflects _ session.state.value
    rw [unpublished]
    exact ⟨rfl, rfl, rfl, rfl, rfl⟩
  have settled : before.controller.Settled := start.settled_after policy fresh server first intents
  have handled := before.handled policy fresh server intent
  have next : now = before.step policy fresh server intent := after_concat intents intent
  have ends := handled.settled settled
  refine ⟨?_, ?_, start.workflowId_after policy fresh server rfl _, ?_, fun number => ?_⟩
  · rw [next]
    exact ends.quiet
  · rw [next]
    exact ends.reflects
  · rw [next]
    exact handled.tellsOf settled
  · obtain ⟨talk?, made, steps⟩ := handled.events settled.calls settled.turn number
    refine ⟨talk?, ?_, ?_⟩
    · rw [next, ← made]
      rfl
    · rw [next, steps]

/-- A workflow is to be started on a server that cannot be reached. -/
theorem failed_start_shows_failure :
    (WorkflowSession.new (Dictionary.empty : Memory)).state.value = none ∧
      let start : IntentRun Memory := ⟨.new (.new Dictionary.empty), []⟩
      let now := after (IntentRun.step .once (fun _ => "0") unreachable) start
        [.start (some "w")]
      now.view = { start.view with
        error? := some "Connection problem. Check your internet connection and try again."
        errorCategory? := some .network } ∧
        now.view.isLoading = false ∧ now.view.Reflects none := by
  obtain ⟨quiet, reflects, -, tells, -⟩ := view_folds_session .once (fun _ => "0") unreachable
    (.new (Dictionary.empty : Memory)) rfl [] [] (.start (some "w"))
  refine ⟨rfl, ?_, quiet, reflects⟩
  exact tells.failed (.network "down") rfl

end ServerDriven
