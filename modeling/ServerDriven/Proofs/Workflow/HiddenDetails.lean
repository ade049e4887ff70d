/-
Module: ServerDriven.Proofs.Workflow.HiddenDetails
Purpose: What a failure says of the server and of the connection to it stays hidden from the user.
Main exports:
  WorkflowError.SameVariant, WorkflowError.sameVariant_iff, CallResult.Alike, IntentRun.outcomes,
  IntentRun.AlikeTo, IntentRun.alikeTo_after, failure_details_stay_hidden
-/
import ServerDriven.Proofs.Workflow.FoldedView
import ServerDriven.Proofs.Workflow.KeptIds

namespace ServerDriven

open Run

/-! ### Outcomes that differ in details -/

/-- Two failures of one variant.  The texts that they carry may differ, and so may the status codes.
-/
inductive WorkflowError.SameVariant : WorkflowError → WorkflowError → Prop where
  | network (detail detail' : String) : SameVariant (.network detail) (.network detail')
  | server (code code' : Nat) (detail detail' : String) :
      SameVariant (.server code detail) (.server code' detail')
  | validation (detail detail' : String) : SameVariant (.validation detail) (.validation detail')
  | sessionExpired : SameVariant .sessionExpired .sessionExpired
  | parse (detail detail' : String) : SameVariant (.parse detail) (.parse detail')
  | unknown (detail detail' : String) : SameVariant (.unknown detail) (.unknown detail')

/-- The variant of a failure is what its category tells, and no more. -/
theorem WorkflowError.sameVariant_iff {e e' : WorkflowError} :
    e.SameVariant e' ↔ e.category = e'.category := by
  constructor
  · intro same
    cases same <;> rfl
  · intro same
    cases e <;> cases e' <;> first | constructor | cases same

/-- Two outcomes of a call that are equal, but for the details of a failure. -/
inductive CallResult.Alike : CallResult → CallResult → Prop where
  | ok (state : WorkflowState) : Alike (.ok state) (.ok state)
  | error {e e' : WorkflowError} (same : e.SameVariant e') : Alike (.error e) (.error e')

namespace CallResult.Alike

variable {result result' : CallResult}

/-- Of a call that has ended a user sees its state, or the category of its failure. -/
theorem finish_eq (alike : Alike result result') (view : WorkflowView) :
    view.finish result = view.finish result' := by
  cases alike with
  | ok state =>
      rfl
  | @error e e' same =>
      change view.fail e = view.fail e'
      unfold WorkflowView.fail
      rw [WorkflowError.sameVariant_iff.mp same]

theorem toOption_eq (alike : Alike result result') : result.toOption = result'.toOption := by
  cases alike with
  | ok state => rfl
  | error same => rfl

end CallResult.Alike

/-! ### Two runs -/

section Handled

variable {σ : Type} [Storage σ]

/-- Nothing that the users have been shown tells two controllers apart, nor does the workflow, which
is what they are shown once the session has ended.  The sessions themselves may have different ids,
since one may have been made up for a request that failed. -/
structure WorkflowController.AlikeTo (c c' : WorkflowController σ) : Prop where
  view : c.view = c'.view
  workflow : c.line.session.workflowId? = c'.line.session.workflowId?

variable [LawfulStorage σ] {policy policy' : RetryPolicy} {fresh fresh' : Nat → String}
  {c c' d d' : WorkflowController σ} {intent : Intent} {made made' : List Exchange}
  {result? result?' : Option CallResult}

/-- Of all that a user can want, only a start that has succeeded keeps a workflow. -/
theorem Handled.workflowId?_session (handled : Handled policy fresh c intent made result? d) :
    d.line.session.workflowId? =
      ((result?.bind Except.toOption).bind fun _ => intent.call?.bind Call.workflow?).elim
        c.line.session.workflowId? Session.found := by
  cases handled with
  | call asks called =>
      rw [asks]
      exact called.workflowId?
  | clearError =>
      rfl
  | reset =>
      exact (Session.kept?_remove _ _ _).trans (if_neg (Ne.symm Session.idKey_ne))

/-- Handling an intent leaves controllers alike, if it has come to the same but for the details of a
failure.  The policies may differ, and what has passed between the sessions and their servers. -/
theorem Handled.alikeTo (handled : Handled policy fresh c intent made result? d)
    (handled' : Handled policy' fresh' c' intent made' result?' d')
    (outcome : Option.Rel CallResult.Alike result? result?') (alike : c.AlikeTo c') :
    d.AlikeTo d' := by
  obtain ⟨view, workflow⟩ := alike
  have kept : d.line.session.workflowId? = d'.line.session.workflowId? := by
    have succeeded : result?.bind Except.toOption = result?'.bind Except.toOption := by
      cases outcome with
      | none => rfl
      | some same => exact same.toOption_eq
    rw [handled.workflowId?_session, handled'.workflowId?_session, succeeded, workflow]
  refine ⟨?_, kept⟩
  cases handled with
  | call asks called =>
      cases outcome with
      | some same =>
          cases handled' with
          | call asks' called' =>
              unfold WorkflowController.finish WorkflowController.begin
              rw [view]
              exact congrArg (Watched.publish _) (same.finish_eq _)
  | clearError =>
      cases outcome with
      | none =>
          cases handled' with
          | clearError => exact congrArg (Watched.change · WorkflowView.clearError) view
  | reset =>
      cases outcome with
      | none =>
          cases handled' with
          | reset =>
              have shown : ({ workflowId := c.reset.line.session.workflowId? } : WorkflowView) =
                  { workflowId := c'.reset.line.session.workflowId? } := by rw [kept]
              exact congrArg₂ Watched.publish view shown

end Handled

namespace IntentRun

variable {σ : Type} [Storage σ]

/-- What has come of the calls that some intents asked for, with none for an intent without a call.
-/
def outcomes (policy : RetryPolicy) (fresh : Nat → String) (server : Respondent)
    (run : IntentRun σ) (intents : List Intent) : List (Option CallResult) :=
  noted (step policy fresh server) (fun run intent => [run.called? policy fresh server intent]) run
    intents

/-- Runs whose calls come to the same, but for the details of failures, stay alike. -/
theorem alikeTo_after [LawfulStorage σ] {policy policy' : RetryPolicy} {fresh fresh' : Nat → String}
    {server server' : Respondent} {run run' : IntentRun σ}
    (start : run.controller.AlikeTo run'.controller) {intents : List Intent}
    (same : List.Forall₂ (Option.Rel CallResult.Alike) (run.outcomes policy fresh server intents)
      (run'.outcomes policy' fresh' server' intents)) {earlier : List Intent}
    (initial : earlier <+: intents) :
    (after (step policy fresh server) run earlier).controller.AlikeTo
      (after (step policy' fresh' server') run' earlier).controller := by
  induction earlier generalizing run run' intents with
  | nil =>
      exact start
  | cons intent earlier ih =>
      obtain ⟨later, rfl⟩ := initial
      obtain ⟨now, rest⟩ := List.forall₂_cons.mp same
      exact ih ((run.handled policy fresh server intent).alikeTo
        (run'.handled policy' fresh' server' intent) now start) rest ⟨later, rfl⟩

end IntentRun

/-! ### What is told -/

/-- All that a view tells of an error, when calls have come to some results: that a state is the
error state, or the fixed message of the category of a failure. -/
inductive WorkflowView.TellsOnlyOf (came : CallResult → Prop) (view : WorkflowView) : Prop where
  | nothing (error : view.error? = none) (category : view.errorCategory? = none)
  | errorState (state : WorkflowState) (arrived : came (.ok state)) (isError : state.isError = true)
      (error : view.error? = some "Workflow error state") (category : view.errorCategory? = none)
  | failure (e : WorkflowError) (failed : came (.error e))
      (error : view.error? = some e.category.userMessage)
      (category : view.errorCategory? = some e.category)

namespace WorkflowView.TellsOnlyOf

variable {came came' : CallResult → Prop} {view view' : WorkflowView}

/-- Only the error and its category matter. -/
theorem frame (tells : view.TellsOnlyOf came) (error : view'.error? = view.error?)
    (category : view'.errorCategory? = view.errorCategory?)
    (more : ∀ result, came result → came' result) : view'.TellsOnlyOf came' := by
  cases tells with
  | nothing none silent =>
      exact .nothing (error.trans none) (category.trans silent)
  | errorState state arrived isError shown silent =>
      exact .errorState state (more _ arrived) isError (error.trans shown) (category.trans silent)
  | failure e failed shown told =>
      exact .failure e (more _ failed) (error.trans shown) (category.trans told)

/-- A call that has ended is all that is told of. -/
theorem finish {result : CallResult} (ended : came result) (view : WorkflowView) :
    (view.finish result).TellsOnlyOf came := by
  cases result with
  | error e =>
      exact .failure e ended rfl rfl
  | ok state =>
      have error : (view.finish (.ok state)).error? =
          if state.isError then some "Workflow error state" else none := rfl
      cases isError : state.isError with
      | true =>
          rw [isError] at error
          exact .errorState state ended isError error rfl
      | false =>
          rw [isError] at error
          exact .nothing error rfl

end WorkflowView.TellsOnlyOf

section Handled

variable {σ : Type} [Storage σ] {policy : RetryPolicy} {fresh : Nat → String}
  {c d : WorkflowController σ} {intent : Intent} {made : List Exchange}
  {result? : Option CallResult}

/-- An intent that is handled while no other is leaves only what it has come to itself to be told.
-/
theorem Handled.tellsOnlyOf (handled : Handled policy fresh c intent made result? d) :
    d.view.value.TellsOnlyOf fun result => result? = some result := by
  cases handled with
  | @call _ _ _ result _ asks called =>
      have ended : (fun result' => some result = some result') result := rfl
      exact .finish ended c.begin.view.value
  | clearError =>
      exact .nothing rfl rfl
  | reset =>
      exact .nothing rfl rfl

end Handled

theorem IntentRun.tellsOnlyOf_after {σ : Type} [Storage σ] (policy : RetryPolicy)
    (fresh : Nat → String) (server : Respondent) (session : WorkflowSession σ) (log : List Exchange)
    (intents : List Intent) :
    let start : IntentRun σ := ⟨.new session, log⟩
    (after (step policy fresh server) start intents).view.TellsOnlyOf fun result =>
      some result ∈ start.outcomes policy fresh server intents := by
  intro start
  induction intents using List.reverseRecOn with
  | nil =>
      exact .nothing rfl rfl
  | append_singleton intents intent _ =>
      rw [after_concat]
      refine ((after (step policy fresh server) start intents).handled policy fresh server
        intent).tellsOnlyOf.frame rfl rfl fun result came => ?_
      rw [outcomes, noted_concat, came]
      exact List.mem_append_right _ List.mem_cons_self

/-- What a call may come to in the course of some events: it is refused, or it is answered. -/
inductive IntentEvent.MayCome (events : List IntentEvent) : CallResult → Prop where
  | refused : MayCome events (.error WorkflowSession.missingWorkflow)
  | answered {answer : ServerAnswer} (mem : .answer answer ∈ events) :
      MayCome events (answer.map WorkflowState.ofResponse)

theorem IntentEvent.MayCome.mono {events later : List IntentEvent} {result : CallResult}
    (came : MayCome events result) : MayCome (events ++ later) result := by
  cases came with
  | refused => exact .refused
  | answered mem => exact .answered (List.mem_append_left later mem)

namespace WorkflowController

variable {σ : Type} [Storage σ] (policy : RetryPolicy) (fresh : Nat → String)

theorem tellsOnlyOf_submit_call (c : WorkflowController σ) {intent : Intent} (asked : Call)
    (asks : intent.call? = some asked) (number : Nat) (events : List IntentEvent) :
    (c.submit number intent).view.value.TellsOnlyOf (IntentEvent.MayCome events) := by
  rw [c.submit_call asked asks]
  rcases c.line.issue_cases number asked with ⟨e, issued, refused⟩ | ⟨pending, -, admitted⟩
  · obtain ⟨-, -, -, missing⟩ := WorkflowSession.issue_eq_error_iff.mp issued
    rw [refused]
    rw [missing]
    exact .finish IntentEvent.MayCome.refused c.begin.view.value
  · rw [admitted]
    exact .nothing rfl rfl

/-- Whatever happens, no more is told than what was told before or is told by it. -/
theorem tellsOnlyOf_step (c : WorkflowController σ) {events : List IntentEvent}
    (tells : c.view.value.TellsOnlyOf (IntentEvent.MayCome events)) (event : IntentEvent) :
    (c.step policy fresh event).view.value.TellsOnlyOf
      (IntentEvent.MayCome (events ++ [event])) := by
  have before : c.view.value.TellsOnlyOf (IntentEvent.MayCome (events ++ [event])) :=
    tells.frame rfl rfl fun _ => IntentEvent.MayCome.mono
  cases event with
  | submit number intent =>
      cases intent with
      | start workflowId =>
          exact c.tellsOnlyOf_submit_call (.start workflowId []) rfl number _
      | event name data =>
          exact c.tellsOnlyOf_submit_call (.event name data) rfl number _
      | update data =>
          exact c.tellsOnlyOf_submit_call (.update data) rfl number _
      | clearError =>
          exact .nothing rfl rfl
      | reset =>
          exact .nothing rfl rfl
  | begin =>
      unfold step begin?
      cases c.line.begin? policy fresh with
      | none => exact before
      | some begun => exact before
  | answer result =>
      unfold step answer?
      dsimp only
      rcases c.line.answer?_cases policy result with
        h | ⟨number, pending, rest, request, backoff, -, -, ⟨wait, left, -, h⟩ | ⟨-, h⟩⟩
      · rw [h]
        exact before
      · rw [h]
        exact before
      · rw [h]
        have mem : .answer result ∈ events ++ [.answer result] :=
          List.mem_append_right events List.mem_cons_self
        have came := IntentEvent.MayCome.answered mem
        rw [← c.line.session.fst_settle pending result] at came
        exact .finish came c.view.value
  | again =>
      unfold step again?
      cases c.line.again? with
      | none => exact before
      | some again => exact before

theorem tellsOnlyOf_after (session : WorkflowSession σ) (events : List IntentEvent) :
    (after (step policy fresh) (.new session) events).view.value.TellsOnlyOf
      (IntentEvent.MayCome events) := by
  induction events using List.reverseRecOn with
  | nil =>
      exact .nothing rfl rfl
  | append_singleton events event ih =>
      rw [after_concat]
      exact tellsOnlyOf_step policy fresh _ ih event

end WorkflowController

/-- What a failure says of the server and of the connection to it stays hidden from the user.

Two sessions over the same storage are given to users, who want the same things of them, one after
the other.  The servers may answer anything, and what is tried again and which ids are made up may
differ too.  As long as the calls come to the same, but for the texts and status codes of failures
of one variant, the users are shown the same: after each intent the views are equal, and so is the
number of views that have been published.

Of an error a user is told the fixed message of its category, which is shown too, or that the state
is the error state, for which no category is shown.  That is so after each of several intents, and
at any time when intents overlap. -/
theorem failure_details_stay_hidden {σ : Type} [Storage σ] [LawfulStorage σ]
    (policy policy' : RetryPolicy) (fresh fresh' : Nat → String) (server server' : Respondent)
    (session : WorkflowSession σ) (log : List Exchange) :
    let start : IntentRun σ := ⟨.new session, log⟩
    (∀ (session' : WorkflowSession σ) (log' : List Exchange) (intents : List Intent),
      session'.store = session.store →
      let start' : IntentRun σ := ⟨.new session', log'⟩
      List.Forall₂ (Option.Rel CallResult.Alike) (start.outcomes policy fresh server intents)
        (start'.outcomes policy' fresh' server' intents) →
      ∀ earlier, earlier <+: intents →
        (after (IntentRun.step policy fresh server) start earlier).controller.view =
          (after (IntentRun.step policy' fresh' server') start' earlier).controller.view) ∧
    (∀ intents : List Intent,
      (after (IntentRun.step policy fresh server) start intents).view.TellsOnlyOf fun result =>
        some result ∈ start.outcomes policy fresh server intents) ∧
    ∀ events : List IntentEvent,
      (after (WorkflowController.step policy fresh) start.controller events).view.value.TellsOnlyOf
        (IntentEvent.MayCome events) := by
  intro start
  refine ⟨?_, IntentRun.tellsOnlyOf_after policy fresh server session log,
    WorkflowController.tellsOnlyOf_after policy fresh session⟩
  intro session' log' intents stored start' same earlier initial
  have alike : start.controller.AlikeTo start'.controller := by
    refine ⟨?_, (congrArg Session.workflowId? stored).symm⟩
    change Watched.start _ = Watched.start _
    unfold WorkflowSession.id? WorkflowSession.workflowId?
    rw [stored]
  exact (IntentRun.alikeTo_after alike same initial).view

/-- A server that only says in its own words why it fails. -/
def failing (e : WorkflowError) : Respondent where
  execute _ _ := .error e
  save _ _ := .error e
  health _ := .error e

/-- A server that is out of order says more or less of it, and is asked once or twice. -/
theorem broken_server_is_shown_as_such :
    let session : WorkflowSession Memory := .new Dictionary.empty
    let start : IntentRun Memory := ⟨.new session, []⟩
    let intents : List Intent := [.start (some "w"), .clearError, .event "next" [], .reset]
    let curt := failing (.server 400 "")
    let wordy := failing (.server 503 "stack trace: token=1234")
    session.store = session.store ∧
      List.Forall₂ (Option.Rel CallResult.Alike) (start.outcomes .once (fun _ => "0") curt intents)
        (start.outcomes { times := 2 } (fun _ => "1") wordy intents) ∧
      (after (IntentRun.step .once (fun _ => "0") curt) start [.start (some "w")]).controller.view =
        (after (IntentRun.step { times := 2 } (fun _ => "1") wordy) start
          [.start (some "w")]).controller.view := by
  intro session start intents curt wordy
  have failed : Option.Rel CallResult.Alike (some (.error (.server 400 "")))
      (some (.error (.server 503 "stack trace: token=1234"))) :=
    .some (.error (.server _ _ _ _))
  have same : List.Forall₂ (Option.Rel CallResult.Alike)
      (start.outcomes .once (fun _ => "0") curt intents)
      (start.outcomes { times := 2 } (fun _ => "1") wordy intents) :=
    .cons failed (.cons .none (.cons failed (.cons .none .nil)))
  obtain ⟨shown, -, -⟩ := failure_details_stay_hidden .once { times := 2 } (fun _ => "0")
    (fun _ => "1") curt wordy session []
  exact ⟨rfl, same, shown session [] intents rfl same _ ⟨_, rfl⟩⟩

end ServerDriven
