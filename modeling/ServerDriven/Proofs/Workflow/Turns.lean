/-
Module: ServerDriven.Proofs.Workflow.Turns
Purpose: The turns of calls that overlap: what each sends and hears, and that none speaks while
  another has its turn.
Main exports:
  Contact, PastTurn, PastTurn.Allowed, PresentTurn, PresentTurn.Allowed, CallLine.lineAdmissions,
  CallLine.lineContacts, CallLine.lineEndings, CallLine.Turns, CallLine.Turns.step, CallLine.turns
-/
import ServerDriven.Proofs.Workflow.Conversation
import ServerDriven.Proofs.Workflow.OverlappingCalls

namespace ServerDriven

open Run

/-- The first attempt leaves the others. -/
theorem RetryPolicy.left_start (policy : RetryPolicy) (request : ExecutionRequest) :
    (Backoff.start (if request.isEvent then .once else policy)).left + 1 =
      policy.allowance request := by
  unfold allowance
  split
  · rfl
  · exact Backoff.left_start policy

/-! ### What passes between the calls and the server -/

/-- A call in line speaks to the server, or is spoken to. -/
inductive Contact where
  | sent (number : Nat) (request : ExecutionRequest)
  | answered (number : Nat) (answer : ServerAnswer)

/-- The contacts of one attempt. -/
def Contact.ofAttempt (number : Nat) (attempt : ExecutionRequest × ServerAnswer) : List Contact :=
  [.sent number attempt.1, .answered number attempt.2]

/-- A turn that is over. -/
structure PastTurn where
  admission : Admission
  talk : Conversation

namespace PastTurn

/-- All that is sent and heard in the turn. -/
def contacts (t : PastTurn) : List Contact :=
  t.talk.attempts.flatMap (Contact.ofAttempt t.admission.number)

def ending (t : PastTurn) : Ending := ⟨t.admission.number, t.talk.answer, t.talk.result⟩

/-- The turn is about its call, and keeps to the policy. -/
structure Allowed (policy : RetryPolicy) (t : PastTurn) : Prop where
  asks : t.talk.request.AsksFor t.admission.call
  talk : t.talk.Allowed policy

end PastTurn

/-- A turn that is not over. -/
structure PresentTurn where
  admission : Admission
  request : ExecutionRequest
  /-- The failures so far. -/
  failures : List WorkflowError
  /-- Whether the next attempt has yet to come. -/
  isPausing : Bool

namespace PresentTurn

/-- All that has been sent and heard in the turn. -/
def contacts (t : PresentTurn) : List Contact :=
  (t.failures.flatMap fun e => Contact.ofAttempt t.admission.number (t.request, .error e)) ++
    if t.isPausing then [] else [.sent t.admission.number t.request]

/-- So far the turn is about its call, and keeps to the policy. -/
structure Allowed (policy : RetryPolicy) (t : PresentTurn) : Prop where
  asks : t.request.AsksFor t.admission.call
  mayPass : ∀ e ∈ t.failures, e.MayPass
  once : t.request.isEvent = true → t.contacts = [.sent t.admission.number t.request]
  bounded : t.failures.length + 1 ≤ max policy.times 1

/-- Where the turn is, as the line has it.  The attempts that have failed, the one under way and
those that are left are all that the policy allows. -/
structure Matches (policy : RetryPolicy) (t : PresentTurn) (turn : Turn) : Prop where
  request : turn.request = t.request
  isPausing : turn.isPausing = t.isPausing
  asks : t.request.AsksFor t.admission.call
  mayPass : ∀ e ∈ t.failures, e.MayPass
  paused : t.isPausing = true → t.failures ≠ []
  left : turn.backoff.left + t.failures.length + 1 = policy.allowance t.request

theorem Matches.allowed {policy : RetryPolicy} {t : PresentTurn} {turn : Turn}
    (h : t.Matches policy turn) : t.Allowed policy where
  asks := h.asks
  mayPass := h.mayPass
  once event := by
    have left := h.left
    rw [RetryPolicy.allowance, if_pos event] at left
    have fresh : t.failures = [] := List.eq_nil_of_length_eq_zero (by omega)
    have waits : t.isPausing = false := by
      by_contra pausing
      exact h.paused (by simpa using pausing) fresh
    simp [contacts, fresh, waits]
  bounded := by
    have left := h.left
    unfold RetryPolicy.allowance at left
    split at left
    · exact Nat.le_trans (by omega) (Nat.le_max_right policy.times 1)
    · exact Nat.le_trans (by omega) (Nat.le_of_eq left)

/-- The server fails, and the turn is not over. -/
def fail (t : PresentTurn) (e : WorkflowError) : PresentTurn :=
  { t with failures := t.failures ++ [e], isPausing := true }

/-- The pause is over. -/
def again (t : PresentTurn) : PresentTurn := { t with isPausing := false }

/-- The turn is over. -/
def finish (t : PresentTurn) (answer : ServerAnswer) : PastTurn :=
  ⟨t.admission, t.request, t.failures, answer⟩

theorem contacts_fail {t : PresentTurn} (waits : t.isPausing = false) (e : WorkflowError) :
    (t.fail e).contacts = t.contacts ++ [.answered t.admission.number (.error e)] := by
  simp [contacts, fail, waits, Contact.ofAttempt]

theorem contacts_again {t : PresentTurn} (pauses : t.isPausing = true) :
    t.again.contacts = t.contacts ++ [.sent t.admission.number t.request] := by
  simp [contacts, again, pauses]

theorem contacts_finish {t : PresentTurn} (waits : t.isPausing = false) (answer : ServerAnswer) :
    (t.finish answer).contacts = t.contacts ++ [.answered t.admission.number answer] := by
  simp [contacts, PastTurn.contacts, finish, waits, Conversation.attempts, Contact.ofAttempt,
    List.flatMap_map]

/-- A turn ends as the policy wants it if no attempt is left or none is of use. -/
theorem Matches.finish {policy : RetryPolicy} {t : PresentTurn} {turn : Turn}
    (h : t.Matches policy turn) {answer : ServerAnswer}
    (exhausted : ∀ e, answer = .error e → e.MayPass → turn.backoff.left = 0) :
    (t.finish answer).Allowed policy where
  asks := h.asks
  talk := by
    have left := h.left
    refine Conversation.allowed_of_allowance h.mayPass ?_ fun e failed passes => ?_
    · rw [Conversation.length_attempts]
      change t.failures.length + 1 ≤ policy.allowance t.request
      omega
    · have none : turn.backoff.left = 0 := exhausted e failed passes
      rw [Conversation.length_attempts]
      change t.failures.length + 1 = policy.allowance t.request
      omega

end PresentTurn

/-! ### What there is to see of a run -/

/-- The events of calls among all that can happen to a session. -/
def LineEvent.call? : LineEvent → Option CallEvent
  | .call event => some event
  | .clear | .keepWorkflow _ => none

namespace CallLine

variable {σ : Type} [Storage σ] (policy : RetryPolicy) (fresh : Nat → String)

/-- What the call that has its turn sends or hears. -/
def contact? (line : CallLine σ) : CallEvent → Option Contact
  | .issue .. => none
  | .begin => do
    let (request, next) ← line.begin? policy fresh
    let (number, _) ← next.calls.head?
    return .sent number request
  | .answer result => do
    let _ ← line.answer? policy result
    let (number, _) ← line.calls.head?
    return .answered number result
  | .again => do
    let (request, next) ← line.again?
    let (number, _) ← next.calls.head?
    return .sent number request

section Observe

variable (start : CallLine σ) (events : List LineEvent)

/-- The calls that go to the end of the line, one after the other. -/
def lineAdmissions : List Admission :=
  noted (step policy fresh) (fun line event => (event.call?.bind line.admission?).toList) start
    events

/-- What passes between the calls and the server. -/
def lineContacts : List Contact :=
  noted (step policy fresh)
    (fun line event => (event.call?.bind (line.contact? policy fresh)).toList) start events

/-- The calls that come to an end, one after the other. -/
def lineEndings : List Ending :=
  noted (step policy fresh) (fun line event => (event.call?.bind (line.ending? policy)).toList)
    start events

end Observe

/-! ### The events of a turn -/

/-- An event has one attempt and all else as many as the policy leaves. -/
theorem begin?_eq {line : CallLine σ} {number : Nat} {pending : Pending}
    {rest : List (Nat × Pending)} (idle : line.turn = none)
    (calls : line.calls = (number, pending) :: rest) :
    ∃ backoff, backoff.left + 1 = policy.allowance (line.session.request fresh pending).1 ∧
      line.begin? policy fresh = some ((line.session.request fresh pending).1,
        { line with
          session := (line.session.request fresh pending).2
          turn := some ⟨(line.session.request fresh pending).1, backoff, false⟩ }) := by
  obtain ⟨session, calls', turn⟩ := line
  subst idle calls
  exact ⟨_, policy.left_start _, rfl⟩

/-! ### The turns of a run -/

/-- The calls that were admitted have had their turns, in their order, but for the one that has its
turn now and those that still wait.  The server was spoken to in these turns and at no other time.
-/
structure Turns (line : CallLine σ) (admitted : List Admission) (contacts : List Contact)
    (ended : List Ending) (past : List PastTurn) (present : Option PresentTurn)
    (waiting : List Admission) : Prop where
  admitted_eq : admitted =
    past.map PastTurn.admission ++ (present.toList.map PresentTurn.admission ++ waiting)
  issued : ∀ a ∈ waiting, ∃ s : WorkflowSession σ, s.issue a.call = .ok a.pending
  calls_eq : line.calls =
    (present.toList.map PresentTurn.admission ++ waiting).map fun a => (a.number, a.pending)
  contacts_eq : contacts =
    past.flatMap PastTurn.contacts ++ present.toList.flatMap PresentTurn.contacts
  ended_eq : ended = past.map PastTurn.ending
  allowed : ∀ t ∈ past, t.Allowed policy
  idle : line.turn = none → present = none
  busy : ∀ turn, line.turn = some turn → ∃ t, present = some t ∧ t.Matches policy turn

theorem turns_new (session : WorkflowSession σ) :
    Turns policy (.new session) [] [] [] [] none [] where
  admitted_eq := rfl
  issued _ mem := nomatch mem
  calls_eq := rfl
  contacts_eq := rfl
  ended_eq := rfl
  allowed _ mem := nomatch mem
  idle _ := rfl
  busy _ has := nomatch has

variable {policy fresh} {line : CallLine σ} {admitted : List Admission} {contacts : List Contact}
  {ended : List Ending} {past : List PastTurn} {present : Option PresentTurn}
  {waiting : List Admission}

/-- What is there of a turn keeps to the policy. -/
theorem Turns.present_allowed
    (h : Turns policy line admitted contacts ended past present waiting) {t : PresentTurn}
    (now : present = some t) : t.Allowed policy := by
  cases has : line.turn with
  | none =>
      have none := (h.idle has).symm.trans now
      cases none
  | some turn =>
      obtain ⟨t', now', here⟩ := h.busy turn has
      cases now.symm.trans now'
      exact here.allowed

/-- What leaves the calls and the turn alone. -/
theorem Turns.frame (h : Turns policy line admitted contacts ended past present waiting)
    {line' : CallLine σ} (calls : line'.calls = line.calls) (turn : line'.turn = line.turn) :
    Turns policy line' admitted contacts ended past present waiting where
  admitted_eq := h.admitted_eq
  issued := h.issued
  calls_eq := calls.trans h.calls_eq
  contacts_eq := h.contacts_eq
  ended_eq := h.ended_eq
  allowed := h.allowed
  idle none := h.idle (turn.symm.trans none)
  busy t has := h.busy t (turn.symm.trans has)

/-- A call goes to the end of the line. -/
theorem Turns.admit (h : Turns policy line admitted contacts ended past present waiting)
    (number : Nat) {c : Call} {pending : Pending} (issued : line.session.issue c = .ok pending) :
    Turns policy { line with calls := line.calls ++ [(number, pending)] }
      (admitted ++ [⟨number, c, pending⟩]) contacts ended past present
      (waiting ++ [⟨number, c, pending⟩]) where
  admitted_eq := by rw [h.admitted_eq, List.append_assoc, List.append_assoc]
  issued a mem := by
    rcases List.mem_append.mp mem with mem | mem
    · exact h.issued a mem
    · rw [List.mem_singleton.mp mem]
      exact ⟨line.session, issued⟩
  calls_eq := by simp [h.calls_eq]
  contacts_eq := h.contacts_eq
  ended_eq := h.ended_eq
  allowed := h.allowed
  idle := h.idle
  busy := h.busy

/-- The first call that waits has its turn, and sends its request. -/
theorem Turns.begin (h : Turns policy line admitted contacts ended past present waiting)
    (idle : line.turn = none) {number : Nat} {pending : Pending} {rest : List (Nat × Pending)}
    (calls : line.calls = (number, pending) :: rest) {backoff : Backoff}
    (left : backoff.left + 1 = policy.allowance (line.session.request fresh pending).1) :
    ∃ present' waiting',
      Turns policy
        { line with
          session := (line.session.request fresh pending).2
          turn := some ⟨(line.session.request fresh pending).1, backoff, false⟩ }
        admitted (contacts ++ [.sent number (line.session.request fresh pending).1]) ended past
        present' waiting' := by
  obtain rfl := h.idle idle
  have waits := h.calls_eq.symm.trans calls
  obtain _ | ⟨first, others⟩ := waiting
  · cases waits
  obtain ⟨rfl, rfl⟩ := Prod.mk.inj (List.cons.inj waits).1
  obtain ⟨s, issued⟩ := h.issued first List.mem_cons_self
  let t : PresentTurn := ⟨first, (line.session.request fresh first.pending).1, [], false⟩
  refine ⟨some t, others, ?_⟩
  exact {
    admitted_eq := h.admitted_eq
    issued := fun a mem => h.issued a (List.mem_cons_of_mem _ mem)
    calls_eq := h.calls_eq
    contacts_eq := by simp [h.contacts_eq, t, PresentTurn.contacts]
    ended_eq := h.ended_eq
    allowed := h.allowed
    idle := nofun
    busy := by
      rintro turn ⟨⟩
      exact ⟨t, rfl, rfl, rfl, WorkflowSession.asksFor_of_issue issued fresh line.session, nofun,
        nofun, left⟩ }

/-- The call that has its turn goes on with it. -/
theorem Turns.goOn {t : PresentTurn}
    (h : Turns policy line admitted contacts ended past (some t) waiting) (t' : PresentTurn)
    (turn : Turn) (same : t'.admission = t.admission) {heard : List Contact}
    (hears : t'.contacts = t.contacts ++ heard) (here : t'.Matches policy turn) :
    Turns policy { line with turn := some turn } admitted (contacts ++ heard) ended past (some t')
      waiting where
  admitted_eq := by simp [h.admitted_eq, same]
  issued := h.issued
  calls_eq := by simp [h.calls_eq, same]
  contacts_eq := by simp [h.contacts_eq, hears]
  ended_eq := h.ended_eq
  allowed := h.allowed
  idle := nofun
  busy := by
    rintro _ ⟨⟩
    exact ⟨t', rfl, here⟩

/-- The call that has its turn is over. -/
theorem Turns.finish {t : PresentTurn}
    (h : Turns policy line admitted contacts ended past (some t) waiting)
    (waits : t.isPausing = false) {answer : ServerAnswer}
    (ends : (t.finish answer).Allowed policy) (session : WorkflowSession σ) :
    Turns policy ⟨session, waiting.map fun a => (a.number, a.pending), none⟩ admitted
      (contacts ++ [.answered t.admission.number answer]) (ended ++ [(t.finish answer).ending])
      (past ++ [t.finish answer]) none waiting where
  admitted_eq := by simp [h.admitted_eq, PresentTurn.finish]
  issued := h.issued
  calls_eq := rfl
  contacts_eq := by simp [h.contacts_eq, PresentTurn.contacts_finish waits]
  ended_eq := by simp [h.ended_eq]
  allowed := by
    rintro t' mem
    rcases List.mem_append.mp mem with mem | mem
    · exact h.allowed t' mem
    · rw [List.mem_singleton.mp mem]
      exact ends
  idle _ := rfl
  busy := nofun

/-- An answer comes to the call that has its turn and to no other. -/
theorem Turns.answer (h : Turns policy line admitted contacts ended past present waiting)
    (fresh : Nat → String) (answer : ServerAnswer) :
    ∃ past' present' waiting',
      Turns policy (line.callStep policy fresh (.answer answer)) admitted
        (contacts ++ (line.contact? policy fresh (.answer answer)).toList)
        (ended ++ (line.ending? policy (.answer answer)).toList) past' present' waiting' := by
  simp only [callStep, contact?, ending?]
  rcases line.answer?_cases policy answer with
    takes | ⟨number, pending, rest, request, backoff, has, calls, takes⟩
  · rw [takes]
    exact ⟨past, present, waiting, by simpa using h⟩
  obtain ⟨t, rfl, here⟩ := h.busy _ has
  have waits := h.calls_eq.symm.trans calls
  obtain ⟨first, rfl⟩ := List.cons.inj waits
  obtain ⟨rfl, rfl⟩ := Prod.mk.inj first
  have hears : t.isPausing = false := here.isPausing.symm
  rcases takes with ⟨wait, left, tries, takes⟩ | ⟨none, takes⟩
  · obtain ⟨⟨e, rfl, retry⟩, less, -, -⟩ := Backoff.next?_eq_some_iff.mp tries
    have passes := e.isRetryable_iff.mp retry
    rw [takes]
    refine ⟨past, some (t.fail e), waiting, ?_⟩
    have next := h.goOn (t.fail e) ⟨request, left, true⟩ rfl
      (PresentTurn.contacts_fail hears e)
      { request := here.request
        isPausing := rfl
        asks := here.asks
        mayPass := List.forall_mem_append.mpr
          ⟨here.mayPass, List.forall_mem_singleton.mpr passes⟩
        paused := by simp [PresentTurn.fail]
        left := by
          have all := here.left
          simp only [PresentTurn.fail, List.length_append, List.length_singleton]
          dsimp only at all less ⊢
          omega }
    simpa [calls] using next
  · have exhausted : ∀ e, answer = .error e → e.MayPass → backoff.left = 0 :=
      fun e failed passes =>
        Backoff.next?_eq_none_iff.mp none e failed (e.isRetryable_iff.mpr passes)
    rw [takes]
    refine ⟨past ++ [t.finish answer], .none, waiting, ?_⟩
    have next := h.finish hears (here.finish exhausted)
      (line.session.settle t.admission.pending answer).2
    simpa [calls, PastTurn.ending, PresentTurn.finish, Conversation.result,
      WorkflowSession.fst_settle] using next

/-- No event lets a call speak out of its turn. -/
theorem Turns.step (h : Turns policy line admitted contacts ended past present waiting)
    (fresh : Nat → String) (event : LineEvent) :
    ∃ past' present' waiting',
      Turns policy (line.step policy fresh event)
        (admitted ++ (event.call?.bind line.admission?).toList)
        (contacts ++ (event.call?.bind (line.contact? policy fresh)).toList)
        (ended ++ (event.call?.bind (line.ending? policy)).toList) past' present' waiting' := by
  cases event with
  | clear =>
      simp only [LineEvent.call?, Option.bind_none, Option.toList_none, List.append_nil]
      exact ⟨past, present, waiting, h.frame rfl rfl⟩
  | keepWorkflow id =>
      simp only [LineEvent.call?, Option.bind_none, Option.toList_none, List.append_nil]
      exact ⟨past, present, waiting, h.frame rfl rfl⟩
  | call event =>
      simp only [LineEvent.call?, Option.bind_some, CallLine.step]
      cases event with
      | issue number c =>
          simp only [callStep, admission?, contact?, ending?, Option.toList_none, List.append_nil]
          rcases line.issue_cases number c with ⟨e, issued, admits⟩ | ⟨pending, issued, admits⟩
          · rw [issued, admits]
            exact ⟨past, present, waiting, by simpa [Except.toOption] using h⟩
          · rw [issued, admits]
            exact ⟨past, present, _, h.admit number issued⟩
      | begin =>
          simp only [callStep, admission?, contact?, ending?, Option.toList_none, List.append_nil]
          rcases line.begin?_cases policy fresh with
            begins | ⟨number, pending, rest, -, idle, calls, -⟩
          · rw [begins]
            exact ⟨past, present, waiting, by simpa using h⟩
          · obtain ⟨backoff, left, begins⟩ := begin?_eq policy fresh idle calls
            rw [begins]
            obtain ⟨present', waiting', next⟩ := h.begin idle calls left
            exact ⟨past, present', waiting', by simpa [calls] using next⟩
      | answer answer =>
          simpa [admission?] using h.answer fresh answer
      | again =>
          simp only [callStep, admission?, contact?, ending?, Option.toList_none, List.append_nil]
          rcases line.again?_cases with tries | ⟨request, backoff, has, tries⟩
          · rw [tries]
            exact ⟨past, present, waiting, by simpa using h⟩
          · rw [tries]
            obtain ⟨t, rfl, here⟩ := h.busy _ has
            have pauses : t.isPausing = true := here.isPausing.symm
            refine ⟨past, some t.again, waiting, ?_⟩
            have next := h.goOn t.again ⟨request, backoff, false⟩ rfl
              (PresentTurn.contacts_again pauses)
              { request := here.request
                isPausing := rfl
                asks := here.asks
                mayPass := here.mayPass
                paused := fun pausing => by cases pausing
                left := here.left }
            simpa [h.calls_eq, ← here.request] using next

/-- At any moment of a run the calls have had, have or await their turns. -/
theorem turns (policy : RetryPolicy) (fresh : Nat → String) (session : WorkflowSession σ)
    (events : List LineEvent) :
    ∃ past present waiting,
      Turns policy (after (step policy fresh) (.new session) events)
        (lineAdmissions policy fresh (.new session) events)
        (lineContacts policy fresh (.new session) events)
        (lineEndings policy fresh (.new session) events) past present waiting := by
  induction events using List.reverseRecOn with
  | nil =>
      exact ⟨[], none, [], turns_new policy session⟩
  | append_singleton events event ih =>
      obtain ⟨past, present, waiting, h⟩ := ih
      simp only [lineAdmissions, lineContacts, lineEndings, noted_concat, after_concat] at h ⊢
      exact h.step fresh event

end CallLine

end ServerDriven
