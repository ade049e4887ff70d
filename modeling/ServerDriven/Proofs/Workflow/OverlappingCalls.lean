/-
Module: ServerDriven.Proofs.Workflow.OverlappingCalls
Purpose: Calls that overlap are served as if one came after the other, with what was looked up when
  they were issued.
Main exports:
  CallLine.admission?, CallLine.sent?, CallLine.ending?, CallLine.Serves, CallLine.Serves.step,
  CallLine.serves, overlapping_calls_are_served_in_turn, fired_early_lacks_workflow
-/
import ServerDriven.Proofs.Workflow.LineRun
import ServerDriven.Proofs.Workflow.Service
import ServerDriven.Storage.Basic

namespace ServerDriven

open Run

/-- A call that has gone to the end of the line under a number. -/
structure Admission where
  number : Nat
  call : Call
  pending : Pending

/-- A call that is over: its number, the answer that it took and what came of it. -/
structure Ending where
  number : Nat
  answer : ServerAnswer
  result : CallResult

def Service.admission (service : Service) : Admission :=
  ⟨service.number, service.call, service.pending⟩

/-- A call in line is answered. -/
def Admission.service (a : Admission) (answer : ServerAnswer) : Service :=
  ⟨a.number, a.call, a.pending, answer⟩

namespace CallLine

variable {σ : Type} [Storage σ] (policy : RetryPolicy) (fresh : Nat → String)

/-! ### What there is to see of a run -/

/-- The call that goes to the end of the line. -/
def admission? (line : CallLine σ) : CallEvent → Option Admission
  | .issue number c =>
    match line.session.issue c with
    | .ok pending => some ⟨number, c, pending⟩
    | .error _ => none
  | .begin | .answer _ | .again => none

/-- The request of the call that begins.  When it tries again it has the same request. -/
def sent? (line : CallLine σ) : CallEvent → Option ExecutionRequest
  | .begin => (line.begin? policy fresh).map Prod.fst
  | .issue .. | .answer _ | .again => none

/-- The call that an answer brings to an end. -/
def ending? (line : CallLine σ) : CallEvent → Option Ending
  | .answer result =>
    match line.answer? policy result with
    | some (.ended number ended _) => some ⟨number, result, ended⟩
    | _ => none
  | .issue .. | .begin | .again => none

section Observe

variable (session : WorkflowSession σ) (events : List CallEvent)

/-- The line after some events, when it was empty at first. -/
def afterCalls : CallLine σ := after (callStep policy fresh) (.new session) events

def admissions : List Admission :=
  noted (callStep policy fresh) (fun line event => (line.admission? event).toList) (.new session)
    events

def sentRequests : List ExecutionRequest :=
  noted (callStep policy fresh) (fun line event => (line.sent? policy fresh event).toList)
    (.new session) events

def endings : List Ending :=
  noted (callStep policy fresh) (fun line event => (line.ending? policy event).toList)
    (.new session) events

end Observe

/-! ### The calls of a line in turn -/

/-- The endings of some calls, one after the other. -/
def endingsOf (session : WorkflowSession σ) (services : List Service) : List Ending :=
  noted (WorkflowSession.serve fresh)
    (fun s service => [⟨service.number, service.answer, s.resultOf fresh service⟩]) session services

/-- The calls that were admitted have been served in turn or still wait in line.  The session is
where the calls that were served have brought it; while the first that waits has its turn, it has
been asked for its request besides. -/
structure Serves (session : WorkflowSession σ) (line : CallLine σ) (admitted : List Admission)
    (sent : List ExecutionRequest) (ended : List Ending) (services : List Service)
    (waiting : List Admission) : Prop where
  admitted_eq : admitted = services.map Service.admission ++ waiting
  issued : ∀ a ∈ admitted, ∃ s : WorkflowSession σ, s.issue a.call = .ok a.pending
  calls_eq : line.calls = waiting.map fun a => (a.number, a.pending)
  ended_eq : ended = endingsOf fresh session services
  idle : line.turn = none →
    line.session = session.served fresh services ∧ sent = session.requests fresh services
  busy : ∀ turn, line.turn = some turn →
    ∃ first rest, waiting = first :: rest ∧
      (turn.request, line.session) = (session.served fresh services).request fresh first.pending ∧
      sent = session.requests fresh services ++ [turn.request]

theorem serves_new (session : WorkflowSession σ) :
    Serves fresh session (.new session) [] [] [] [] [] where
  admitted_eq := rfl
  issued := nofun
  calls_eq := rfl
  ended_eq := rfl
  idle _ := ⟨rfl, rfl⟩
  busy := nofun

variable {fresh} {session : WorkflowSession σ} {line : CallLine σ} {admitted : List Admission}
  {sent : List ExecutionRequest} {ended : List Ending} {services : List Service}
  {waiting : List Admission}

/-- A call that goes to the end of the line does not touch the one whose turn it is. -/
theorem Serves.admit (h : Serves fresh session line admitted sent ended services waiting)
    (number : Nat) {c : Call} {pending : Pending} (issued : line.session.issue c = .ok pending) :
    Serves fresh session { line with calls := line.calls ++ [(number, pending)] }
      (admitted ++ [⟨number, c, pending⟩]) sent ended services
      (waiting ++ [⟨number, c, pending⟩]) where
  admitted_eq := by rw [h.admitted_eq, List.append_assoc]
  issued a mem := by
    rcases List.mem_append.mp mem with mem | mem
    · exact h.issued a mem
    · rw [List.mem_singleton.mp mem]
      exact ⟨line.session, issued⟩
  calls_eq := by simp [h.calls_eq]
  ended_eq := h.ended_eq
  idle := h.idle
  busy turn has := by
    obtain ⟨first, rest, waits, request, asked⟩ := h.busy turn has
    exact ⟨first, rest ++ [⟨number, c, pending⟩], by rw [waits]; rfl, request, asked⟩

/-- The first call that waits has its turn. -/
theorem Serves.begin (h : Serves fresh session line admitted sent ended services waiting)
    (idle : line.turn = none) {number : Nat} {pending : Pending} {rest : List (Nat × Pending)}
    (calls : line.calls = (number, pending) :: rest) (backoff : Backoff) :
    Serves fresh session
      { line with
        session := (line.session.request fresh pending).2
        turn := some ⟨(line.session.request fresh pending).1, backoff, false⟩ }
      admitted (sent ++ [(line.session.request fresh pending).1]) ended services waiting where
  admitted_eq := h.admitted_eq
  issued := h.issued
  calls_eq := h.calls_eq
  ended_eq := h.ended_eq
  idle := nofun
  busy turn has := by
    cases has
    obtain ⟨at_session, asked⟩ := h.idle idle
    have waits := h.calls_eq.symm.trans calls
    cases waiting with
    | nil =>
        cases waits
    | cons first others =>
        have samePending : first.pending = pending :=
          congrArg Prod.snd (List.cons.inj waits).1
        refine ⟨first, others, rfl, ?_, ?_⟩
        · rw [← at_session, samePending]
        · rw [asked]

/-- A pause or the end of one leaves all as it was but the turn itself. -/
theorem Serves.pause (h : Serves fresh session line admitted sent ended services waiting)
    {turn : Turn} (has : line.turn = some turn) (turn' : Turn)
    (same : turn'.request = turn.request) :
    Serves fresh session { line with turn := some turn' } admitted sent ended services waiting where
  admitted_eq := h.admitted_eq
  issued := h.issued
  calls_eq := h.calls_eq
  ended_eq := h.ended_eq
  idle := nofun
  busy other has' := by
    cases has'
    rw [same]
    exact h.busy turn has

/-- The call whose turn it is takes its answer. -/
theorem Serves.settle (h : Serves fresh session line admitted sent ended services waiting)
    {turn : Turn} (has : line.turn = some turn) {number : Nat} {pending : Pending}
    {rest : List (Nat × Pending)} (calls : line.calls = (number, pending) :: rest)
    (answer : ServerAnswer) :
    ∃ services' waiting',
      Serves fresh session ⟨(line.session.settle pending answer).2, rest, none⟩ admitted sent
        (ended ++ [⟨number, answer, (line.session.settle pending answer).1⟩]) services'
        waiting' := by
  obtain ⟨first, others, rfl, request, asked⟩ := h.busy turn has
  have waits := List.cons.inj (h.calls_eq.symm.trans calls)
  have sameNumber : first.number = number := congrArg Prod.fst waits.1
  have samePending : first.pending = pending := congrArg Prod.snd waits.1
  subst sameNumber samePending
  have at_request : turn.request =
      ((session.served fresh services).request fresh first.pending).1 := congrArg Prod.fst request
  have at_session : line.session =
      ((session.served fresh services).request fresh first.pending).2 := congrArg Prod.snd request
  refine ⟨services ++ [first.service answer], others, ?_, h.issued, waits.2.symm, ?_, ?_, nofun⟩
  · rw [h.admitted_eq, List.map_append, List.append_assoc]
    rfl
  · rw [h.ended_eq, endingsOf, endingsOf, noted_concat, at_session]
    rfl
  · intro _
    refine ⟨?_, ?_⟩
    · rw [WorkflowSession.served, after_concat, at_session]
      rfl
    · rw [asked, at_request, WorkflowSession.requests, WorkflowSession.requests, noted_concat]
      rfl

/-- No event serves a call out of its turn. -/
theorem Serves.step (h : Serves fresh session line admitted sent ended services waiting)
    (policy : RetryPolicy) (event : CallEvent) :
    ∃ services' waiting',
      Serves fresh session (line.callStep policy fresh event)
        (admitted ++ (line.admission? event).toList)
        (sent ++ (line.sent? policy fresh event).toList)
        (ended ++ (line.ending? policy event).toList) services' waiting' := by
  cases event with
  | issue number c =>
      simp only [callStep, admission?, sent?, ending?, Option.toList_none, List.append_nil]
      rcases line.issue_cases number c with ⟨e, issued, admits⟩ | ⟨pending, issued, admits⟩
      · rw [issued, admits]
        exact ⟨services, waiting, by simpa [Except.toOption] using h⟩
      · rw [issued, admits]
        exact ⟨services, _, h.admit number issued⟩
  | begin =>
      simp only [callStep, admission?, sent?, ending?, Option.toList_none, List.append_nil]
      rcases line.begin?_cases policy fresh with
        begins | ⟨number, pending, rest, backoff, idle, calls, begins⟩
      · rw [begins]
        exact ⟨services, waiting, by simpa using h⟩
      · rw [begins]
        exact ⟨services, waiting, h.begin idle calls backoff⟩
  | answer result =>
      simp only [callStep, admission?, sent?, ending?, Option.toList_none, List.append_nil]
      rcases line.answer?_cases policy result with
        takes | ⟨number, pending, rest, request, backoff, has, calls,
          ⟨wait, left, -, takes⟩ | ⟨-, takes⟩⟩
      · rw [takes]
        exact ⟨services, waiting, by simpa using h⟩
      · rw [takes]
        exact ⟨services, waiting, by simpa using h.pause has ⟨request, left, true⟩ rfl⟩
      · rw [takes]
        exact h.settle has calls result
  | again =>
      simp only [callStep, admission?, sent?, ending?, Option.toList_none, List.append_nil]
      rcases line.again?_cases with tries | ⟨request, backoff, has, tries⟩
      · rw [tries]
        exact ⟨services, waiting, by simpa using h⟩
      · rw [tries]
        exact ⟨services, waiting, h.pause has ⟨request, backoff, false⟩ rfl⟩

theorem serves (policy : RetryPolicy) (fresh : Nat → String) (session : WorkflowSession σ)
    (events : List CallEvent) :
    ∃ services waiting,
      Serves fresh session (afterCalls policy fresh session events)
        (admissions policy fresh session events) (sentRequests policy fresh session events)
        (endings policy fresh session events) services waiting := by
  induction events using List.reverseRecOn with
  | nil =>
      exact ⟨[], [], serves_new fresh session⟩
  | append_singleton events event ih =>
      obtain ⟨services, waiting, h⟩ := ih
      obtain ⟨services', waiting', h'⟩ := h.step policy event
      refine ⟨services', waiting', ?_⟩
      unfold afterCalls admissions sentRequests endings at h' ⊢
      rw [after_concat, noted_concat, noted_concat, noted_concat]
      exact h'

theorem results_endingsOf (fresh : Nat → String) (session : WorkflowSession σ)
    (services : List Service) :
    (endingsOf fresh session services).map Ending.result = session.results fresh services := by
  induction services generalizing session with
  | nil =>
      rfl
  | cons service services ih =>
      exact congrArg (session.resultOf fresh service :: ·) (ih (session.serve fresh service))

end CallLine

open CallLine WorkflowSession in
/-- Calls that overlap are served in turn.  Whenever no call has its turn, the calls that are over
are the first of those that went in line, in that order; what was asked of the server, what came of
each call and where the session stands are as if each had had its turn when the one before was over,
with what it had looked up when it was issued.  This is what comes of making the same calls one
after the other, with the same answers, if each would have looked up the same at its turn; and only
then are the requests the same.

One step is all that is done between two waits.  A call goes in line in one step with what it looks
up, and an answer is taken in as one step with all that it writes, the id that is kept included. -/
theorem overlapping_calls_are_served_in_turn {σ : Type} [Storage σ] (policy : RetryPolicy)
    (fresh : Nat → String) (session : WorkflowSession σ) (events : List CallEvent)
    (settled : (afterCalls policy fresh session events).turn = none) :
    let line := afterCalls policy fresh session events
    let admitted := admissions policy fresh session events
    let sent := sentRequests policy fresh session events
    let ended := endings policy fresh session events
    ∃ services : List Service,
      services.map Service.admission <+: admitted ∧
      (line.calls = [] → services.map Service.admission = admitted) ∧
      ended = endingsOf fresh session services ∧
      sent = session.requests fresh services ∧
      line.session = session.served fresh services ∧
      (session.LookupsAgree fresh services →
        record (callAll fresh (plain services)) session [] =
          ((ended.map Ending.result, line.session), sent)) ∧
      ((record (callAll fresh (plain services)) session []).2 = sent →
        session.LookupsAgree fresh services) := by
  intro line admitted sent ended
  obtain ⟨services, waiting, h⟩ := serves policy fresh session events
  obtain ⟨at_session, asked⟩ := h.idle settled
  refine ⟨services, ⟨waiting, h.admitted_eq.symm⟩, fun none => ?_, h.ended_eq, asked, at_session,
    fun agree => ?_, fun same => ?_⟩
  · have gone : waiting = [] := List.map_eq_nil_iff.mp (h.calls_eq.symm.trans none)
    have all := h.admitted_eq
    rw [gone, List.append_nil] at all
    exact all.symm
  · rw [callAll_eq_served fresh session [] services agree, ← results_endingsOf, ← h.ended_eq,
      ← at_session, ← asked]
    rfl
  · refine lookupsAgree_of_requests fresh session [] services (fun service mem => ?_) ?_
    · refine h.issued service.admission ?_
      rw [h.admitted_eq]
      exact List.mem_append_left _ (List.mem_map_of_mem mem)
    · exact same.trans asked

/-- A workflow is started, and an event is fired before there is an answer. -/
def firedEarly : List CallEvent :=
  [.issue 1 (.start (some "w") []), .issue 2 (.event "e" []),
    .begin, .answer (.ok ⟨"1", [], "a", .screen, none⟩),
    .begin, .answer (.ok ⟨"1", [], "b", .screen, none⟩)]

/-- A session of which nothing is kept. -/
def nothingKept : WorkflowSession Memory := .new Dictionary.empty

theorem fired_early_is_served_in_turn :
    (CallLine.afterCalls .once (fun _ => "0") nothingKept firedEarly).turn = none ∧
      ∃ services : List Service,
        services.map Service.admission =
          CallLine.admissions .once (fun _ => "0") nothingKept firedEarly ∧
        (CallLine.afterCalls .once (fun _ => "0") nothingKept firedEarly).session =
          nothingKept.served (fun _ => "0") services := by
  refine ⟨rfl, ?_⟩
  obtain ⟨services, -, all, -, -, session, -⟩ :=
    overlapping_calls_are_served_in_turn .once (fun _ => "0") nothingKept firedEarly rfl
  exact ⟨services, all rfl, session⟩

/-- An event that is fired before the start of its workflow is over does not name the workflow,
though it does when it is fired afterwards. -/
theorem fired_early_lacks_workflow :
    (CallLine.sentRequests .once (fun _ => "0") nothingKept firedEarly).map (·.workflowId) =
        [some "w", none] ∧
      (WorkflowSession.record (WorkflowSession.callAll (fun _ => "0")
        [(.start (some "w") [], .ok ⟨"1", [], "a", .screen, none⟩),
          (.event "e" [], .ok ⟨"1", [], "b", .screen, none⟩)]) nothingKept []).2.map
          (·.workflowId) = [some "w", some "w"] := by
  constructor
  · decide
  · decide

end ServerDriven
