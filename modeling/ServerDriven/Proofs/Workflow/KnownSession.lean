/-
Module: ServerDriven.Proofs.Workflow.KnownSession
Purpose: When going on with a session names a session that the server knows.
Main exports:
  SessionRun.sinceEnd, acknowledged, leftBy, Remembers, SessionRun.remembers_after,
  Command.Resumes, ResumesKnown, LastFailedUnknown, resumes_known_iff,
  failed_start_resumes_unknown
-/
import ServerDriven.Proofs.Session.Kept
import ServerDriven.Proofs.Workflow.SentOnce

namespace ServerDriven

open Run

/-!
A call that finds no session makes up an id for one and keeps it, whether or not it succeeds.  The
server knows the id only if it has named it in an answer.
-/

namespace Conversation

theorem request?_of_mem_exchanges (talk : Conversation) {exchange : Exchange}
    (mem : exchange ∈ talk.exchanges) : exchange.request? = some talk.request := by
  obtain ⟨attempt, among, rfl⟩ := List.mem_map.mp mem
  exact congrArg some (request_of_mem_attempts among)

theorem last_mem_exchanges (talk : Conversation) :
    .execute talk.request talk.answer ∈ talk.exchanges :=
  List.mem_map_of_mem (List.mem_append_right _ (List.mem_singleton_self (talk.request, talk.answer)))

end Conversation

/-! ### What has passed since a session was ended -/

namespace Exchange

/-- The session that the server names. -/
def named? : Exchange → Option String
  | .execute _ (.ok response) => some response.sessionId
  | .execute _ (.error _) | .save .. | .health _ => none

/-- The request and its answer, if something was to be executed. -/
def attempt? : Exchange → Option (ExecutionRequest × ServerAnswer)
  | .execute request answer => some (request, answer)
  | .save .. | .health _ => none

end Exchange

/-- The sessions that the server has named. -/
def acknowledged (past : List Exchange) : List String := past.filterMap Exchange.named?

/-- The last attempt to have something executed. -/
def lastAttempt (past : List Exchange) : Option (ExecutionRequest × ServerAnswer) :=
  (past.filterMap Exchange.attempt?).getLast?

/-- The last attempt has failed, and the server has never named the session that it was for. -/
def LastFailedUnknown (past : List Exchange) : Prop :=
  ∃ request e, lastAttempt past = some (request, .error e) ∧
    request.sessionId ∉ acknowledged past

namespace SessionRun

/-- What has passed when a command has been dealt with, since the session was last ended. -/
def Deal.extend (past : List Exchange) (deal : Deal) : List Exchange :=
  match deal.command with
  | .clear => []
  | _ => past ++ deal.exchanges

/-- What has passed since the session was last ended. -/
def sinceEnd (deals : List Deal) : List Exchange := deals.foldl Deal.extend []

end SessionRun

/-- The id of a session that an attempt leaves behind. -/
def leftBy : Option (ExecutionRequest × ServerAnswer) → Option String
  | none => none
  | some (_, .ok response) => (some response.sessionId).filter (!·.isEmpty)
  | some (request, .error _) => some request.sessionId

/-- Of a session that is kept, the last attempt says which it is.  If the server has not named it,
it was made up. -/
structure Remembers {σ : Type} [Storage σ] (fresh : Nat → String) (s : WorkflowSession σ)
    (past : List Exchange) : Prop where
  kept : s.id? = leftBy (lastAttempt past)
  origin : ∀ id, s.id? = some id → id ∈ acknowledged past ∨ ∃ n, id = fresh n

/-! ### Runs -/

section Past

variable {past made : List Exchange}

theorem acknowledged_append : acknowledged (past ++ made) = acknowledged past ++ acknowledged made :=
  List.filterMap_append

/-- What executes nothing is passed over. -/
theorem lastAttempt_append_of_apart (apart : ∀ exchange ∈ made, exchange.request? = none) :
    lastAttempt (past ++ made) = lastAttempt past ∧
      acknowledged (past ++ made) = acknowledged past := by
  have noAttempt : made.filterMap Exchange.attempt? = [] :=
    List.filterMap_eq_nil_iff.mpr fun exchange mem => by
      cases exchange with
      | execute request answer => cases apart _ mem
      | save request answer => rfl
      | health answer => rfl
  have noName : made.filterMap Exchange.named? = [] :=
    List.filterMap_eq_nil_iff.mpr fun exchange mem => by
      cases exchange with
      | execute request answer => cases apart _ mem
      | save request answer => rfl
      | health answer => rfl
  constructor
  · rw [lastAttempt, List.filterMap_append, noAttempt, List.append_nil, lastAttempt]
  · rw [acknowledged, List.filterMap_append, noName, List.append_nil, acknowledged]

theorem lastAttempt_append_exchanges (past : List Exchange) (talk : Conversation) :
    lastAttempt (past ++ talk.exchanges) = some (talk.request, talk.answer) := by
  simp [lastAttempt, Conversation.exchanges, Conversation.attempts, Exchange.attempt?]

theorem mem_acknowledged_of_lastAttempt {request : ExecutionRequest} {response : ExecutionResponse}
    (last : lastAttempt past = some (request, .ok response)) :
    response.sessionId ∈ acknowledged past := by
  obtain ⟨exchange, mem, attempt⟩ := List.mem_filterMap.mp (List.mem_of_getLast? last)
  refine List.mem_filterMap.mpr ⟨exchange, mem, ?_⟩
  cases exchange with
  | execute request' answer =>
      cases attempt
      rfl
  | save request' answer =>
      cases attempt
  | health answer =>
      cases attempt

end Past

section Remembered

variable {σ : Type} [Storage σ] {policy : RetryPolicy} {fresh : Nat → String}
  {s s' : WorkflowSession σ} {past made : List Exchange}

/-- What executes nothing and leaves the id alone. -/
theorem Remembers.apart (h : Remembers fresh s past) (same : s'.id? = s.id?)
    (apart : ∀ exchange ∈ made, exchange.request? = none) :
    Remembers fresh s' (past ++ made) where
  kept := by
    rw [(lastAttempt_append_of_apart apart).1]
    exact same.trans h.kept
  origin id has := by
    rw [(lastAttempt_append_of_apart apart).2]
    exact h.origin id (same.symm.trans has)

variable [LawfulStorage σ]

/-- A call leaves behind what the last attempt says. -/
theorem Remembers.called (h : Remembers fresh s past) (named : ∀ n, fresh n ≠ "") {c : Call}
    {result : CallResult} (called : Called policy fresh s c made result s') :
    Remembers fresh s' (past ++ made) := by
  cases called with
  | refused issued =>
      rw [List.append_nil]
      exact h
  | @answered pending talk issued request allowed =>
      have last := lastAttempt_append_exchanges past talk
      cases answer : talk.answer with
      | ok response =>
          rw [answer] at last
          have kept := (s.request fresh pending).2.id?_settle_ok pending response
          refine ⟨kept.trans (congrArg leftBy last).symm, fun id has => .inl ?_⟩
          obtain ⟨same, -⟩ := Option.filter_eq_some_iff.mp (kept.symm.trans has)
          rw [← Option.some.inj same]
          exact mem_acknowledged_of_lastAttempt last
      | error e =>
          rw [answer] at last
          have kept : (s.request fresh pending).2.id? = some talk.request.sessionId := by
            rw [request]
            exact Session.id?_obtainId s.store (named s.minted)
          refine ⟨kept.trans (congrArg leftBy last).symm, fun id has => ?_⟩
          have same : s.id?.getD (fresh s.minted) = id := by
            rw [← s.sessionId_request fresh pending, ← request]
            exact Option.some.inj (kept.symm.trans has)
          cases found : s.id? with
          | none =>
              rw [found] at same
              exact .inr ⟨s.minted, same.symm⟩
          | some id' =>
              rw [found] at same
              rcases h.origin id' found with known | made_up
              · refine .inl ?_
                rw [acknowledged_append]
                exact List.mem_append_left _ (same ▸ known)
              · exact .inr (same ▸ made_up)

/-- Whatever a command does, the last attempt says what is kept. -/
theorem Remembers.dealt (h : Remembers fresh s past) (named : ∀ n, fresh n ≠ "")
    {command : Command} {told : Told} (dealt : Dealt policy fresh s command made told s') :
    Remembers fresh s' (SessionRun.Deal.extend past ⟨command, made, told⟩) := by
  cases dealt with
  | call called =>
      exact h.called named called
  | nothingKept absent =>
      exact h.apart rfl (List.forall_mem_nil _)
  | restore kept called =>
      exact h.called named called
  | save request failures response =>
      exact h.apart (Session.id?_setWorkflowId _ _)
        (Exchange.apart_of_tries failures (fun _ => rfl) rfl)
  | saveFailed request failures e =>
      exact h.apart rfl (Exchange.apart_of_tries failures (fun _ => rfl) rfl)
  | health failures answer =>
      exact h.apart rfl (Exchange.apart_of_tries failures (fun _ => rfl) rfl)
  | clear =>
      have gone : s.clear.id? = none := Session.id?_clear s.store
      refine ⟨gone, fun id has => ?_⟩
      cases gone.symm.trans has

/-- At any moment of a run from a storage without a session. -/
theorem SessionRun.remembers_after (policy : RetryPolicy) (named : ∀ n, fresh n ≠ "")
    (server : Respondent) {store : σ} (empty : Session.id? store = none)
    (commands : List Command) :
    Remembers fresh (after (step policy fresh server) ⟨.new store, []⟩ commands).session
      (sinceEnd (SessionRun.deals policy fresh server ⟨.new store, []⟩ commands)) := by
  induction commands using List.reverseRecOn with
  | nil =>
      refine ⟨empty, fun id has => ?_⟩
      cases empty.symm.trans has
  | append_singleton commands command ih =>
      unfold deals at ih ⊢
      rw [noted_concat, after_concat, sinceEnd, List.foldl_append]
      exact ih.dealt named (SessionRun.dealt policy fresh server _ command)

end Remembered

/-! ### Going on with a session -/

/-- The commands that go on with what is kept. -/
inductive Command.Resumes : Command → Prop where
  | start (context : Context) : Resumes (.call (.start none context))
  | restore (given : Option String) : Resumes (.restore given)

/-- The user is told that there is nothing to go on with. -/
inductive Told.IsRefusal : Told → Prop where
  | invalid (message : String) : IsRefusal (.called (.error (.validation message)))
  | nothing : IsRefusal (.restored none)
  | restoreInvalid (message : String) : IsRefusal (.restored (some (.error (.validation message))))

/-- Who goes on with a session names a workflow or a session that the server knows; where there is
neither, nothing is sent and the user is told so. -/
structure ResumesKnown {σ : Type} [Storage σ] (s : WorkflowSession σ) (past made : List Exchange)
    (told : Told) : Prop where
  sent : ∀ exchange ∈ made, ∀ request, exchange.request? = some request →
    request.workflowId.isSome = true ∨ request.sessionId ∈ acknowledged past
  refused : s.workflowId? = none → (∀ id, s.id? = some id → id ∉ acknowledged past) →
    made = [] ∧ told.IsRefusal

section Resume

variable {σ : Type} [Storage σ] {policy : RetryPolicy} {fresh : Nat → String}
  {s s' : WorkflowSession σ} {past made : List Exchange}

/-- The server is asked about what is kept, and something is. -/
def AsksWithKept (s : WorkflowSession σ) (made : List Exchange) : Prop :=
  (s.workflowId?.isSome = true ∨ s.id?.isSome = true) ∧ ∃ talk : Conversation,
    made = talk.exchanges ∧ talk.request.workflowId = s.workflowId? ∧
    ∀ id, s.id? = some id → talk.request.sessionId = id

/-- A start without a workflow. -/
theorem called_start {context : Context} {result : CallResult}
    (called : Called policy fresh s (.start none context) made result s') :
    (s.id? = none ∧ made = [] ∧ result = .error WorkflowSession.missingWorkflow) ∨
      AsksWithKept s made := by
  cases called with
  | refused issued =>
      obtain ⟨-, -, absent, rfl⟩ := WorkflowSession.issue_eq_error_iff.mp issued
      exact .inl ⟨absent, rfl, rfl⟩
  | answered issued request allowed =>
      rw [WorkflowSession.issue_start_none] at issued
      split at issued
      · cases issued
      · rename_i either
        cases issued
        refine .inr ⟨?_, _, rfl, ?_, fun id kept => ?_⟩
        · rw [not_and_or] at either
          exact either.imp Option.isSome_iff_ne_none.mpr Option.isSome_iff_ne_none.mpr
        · rw [request]
          rfl
        · rw [request, WorkflowSession.sessionId_request, kept]
          rfl

/-- Going on with a session is a start without a workflow, or ends where nothing is kept. -/
theorem resume_cases {resume : Command} (resumes : resume.Resumes) {told : Told}
    (dealt : Dealt policy fresh s resume made told s') :
    (s.id? = none ∧ made = [] ∧ told.IsRefusal) ∨ AsksWithKept s made := by
  cases resumes with
  | start context =>
      cases dealt with
      | call called =>
          rcases called_start called with ⟨absent, silent, rfl⟩ | asks
          · exact .inl ⟨absent, silent, .invalid _⟩
          · exact .inr asks
  | restore given =>
      cases dealt with
      | nothingKept absent =>
          exact .inl ⟨absent, rfl, .nothing⟩
      | restore kept called =>
          rcases called_start called with ⟨absent, silent, rfl⟩ | asks
          · exact .inl ⟨absent, silent, .restoreInvalid _⟩
          · exact .inr asks

/-- The id that is kept is one that the server does not know if the attempt that left it failed. -/
theorem Remembers.unknown_iff (h : Remembers fresh s past) {id : String} (kept : s.id? = some id) :
    LastFailedUnknown past ↔ id ∉ acknowledged past := by
  have left : leftBy (lastAttempt past) = some id := h.kept.symm.trans kept
  unfold LastFailedUnknown
  cases last : lastAttempt past with
  | none =>
      rw [last] at left
      cases left
  | some attempt =>
      obtain ⟨request, answer⟩ := attempt
      rw [last] at left
      cases answer with
      | ok response =>
          have left : (some response.sessionId).filter (!·.isEmpty) = some id := left
          obtain ⟨same, -⟩ := Option.filter_eq_some_iff.mp left
          have known : id ∈ acknowledged past :=
            Option.some.inj same ▸ mem_acknowledged_of_lastAttempt last
          constructor
          · rintro ⟨request', e, ⟨⟩, -⟩
          · exact fun unknown => absurd known unknown
      | error e =>
          obtain rfl := Option.some.inj left
          constructor
          · rintro ⟨request', e', same, unknown⟩
            cases same
            exact unknown
          · exact fun unknown => ⟨request, e, rfl, unknown⟩

/-- Who goes on with a session names what the server knows, but where no workflow is kept and the
last attempt has failed for a session that the server does not know. -/
theorem Remembers.resumesKnown_iff (h : Remembers fresh s past) {resume : Command}
    (resumes : resume.Resumes) {told : Told} (dealt : Dealt policy fresh s resume made told s') :
    ResumesKnown s past made told ↔ ¬(s.workflowId? = none ∧ LastFailedUnknown past) := by
  rcases resume_cases resumes dealt with
    ⟨absent, silent, refusal⟩ | ⟨either, talk, rfl, workflow, session⟩
  · subst silent
    refine ⟨fun _ failed => ?_, fun _ => ⟨List.forall_mem_nil _, fun _ _ => ⟨rfl, refusal⟩⟩⟩
    obtain ⟨-, request, e, last, -⟩ := failed
    have left := h.kept.symm.trans absent
    rw [last] at left
    cases left
  · cases hasWorkflow : s.workflowId? with
    | some id =>
        constructor
        · rintro - ⟨⟨⟩, -⟩
        · refine fun _ => ⟨fun exchange mem request sends => .inl ?_, fun absent => ?_⟩
          · rw [talk.request?_of_mem_exchanges mem] at sends
            cases sends
            simp [workflow, hasWorkflow]
          · cases hasWorkflow.symm.trans absent
    | none =>
        rw [hasWorkflow] at either
        obtain ⟨id, kept⟩ := Option.isSome_iff_exists.mp (either.resolve_left (by simp))
        rw [h.unknown_iff kept]
        constructor
        · rintro known ⟨-, unknown⟩
          rcases known.sent _ talk.last_mem_exchanges talk.request rfl with named | named
          · simp [workflow, hasWorkflow] at named
          · exact unknown (session id kept ▸ named)
        · intro known
          have known : id ∈ acknowledged past := by simpa using known
          refine ⟨fun exchange mem request sends => ?_, fun _ unknown => ?_⟩
          · rw [talk.request?_of_mem_exchanges mem] at sends
            cases sends
            exact .inr (session id kept ▸ known)
          · exact absurd known (unknown id kept)

end Resume

/-- Whoever goes on with a session, at any moment of a run that began without one, names a workflow
or a session that the server knows, or is told that there is nothing to go on with: but not where no
workflow is kept and the last attempt since the session was ended has failed for a session that the
server has never named.  The id of that session was made up for an earlier call. -/
theorem resumes_known_iff {σ : Type} [Storage σ] [LawfulStorage σ] (policy : RetryPolicy)
    (fresh : Nat → String) (named : ∀ n, fresh n ≠ "") (server : Respondent) (store : σ)
    (empty : Session.id? store = none) (commands : List Command) (resume : Command)
    (resumes : resume.Resumes) :
    let start : SessionRun σ := ⟨.new store, []⟩
    let now := after (SessionRun.step policy fresh server) start commands
    let past := SessionRun.sinceEnd (start.deals policy fresh server commands)
    let next := now.deal policy fresh server resume
    (ResumesKnown now.session past next.2 next.1.1 ↔
      ¬(now.session.workflowId? = none ∧ LastFailedUnknown past)) ∧
    ∀ id, now.session.id? = some id → id ∈ acknowledged past ∨ ∃ n, id = fresh n := by
  intro start now past next
  have h : Remembers fresh now.session past :=
    SessionRun.remembers_after policy named server empty commands
  exact ⟨h.resumesKnown_iff resumes (now.dealt policy fresh server resume), h.origin⟩

/-- A server that cannot be reached. -/
def unreachable : Respondent where
  execute _ _ := .error (.network "down")
  save _ _ := .error (.network "down")
  health _ := .error (.network "down")

/-- Nothing is kept, and a workflow is to be started. -/
def failedStart : List Command := [.call (.start (some "w") [])]

theorem failed_start_resumes_known_iff :
    (∀ n : Nat, (fun _ => "0") n ≠ "") ∧ Session.id? (Dictionary.empty : Memory) = none ∧
      (Command.call (.start none [])).Resumes ∧
      let start : SessionRun Memory := ⟨.new Dictionary.empty, []⟩
      let now := after (SessionRun.step .once (fun _ => "0") unreachable) start failedStart
      let past := SessionRun.sinceEnd (start.deals .once (fun _ => "0") unreachable failedStart)
      let next := now.deal .once (fun _ => "0") unreachable (.call (.start none []))
      ResumesKnown now.session past next.2 next.1.1 ↔
        ¬(now.session.workflowId? = none ∧ LastFailedUnknown past) := by
  have named : ∀ n : Nat, (fun _ => "0") n ≠ "" := fun _ => (by decide : "0" ≠ "")
  refine ⟨named, rfl, .start [], ?_⟩
  exact (resumes_known_iff .once (fun _ => "0") named unreachable (Dictionary.empty : Memory) rfl
    failedStart (.call (.start none [])) (.start [])).1

/-- A start without a workflow goes on with a session that no server knows, when a start has failed
before. -/
theorem failed_start_resumes_unknown :
    let start : SessionRun Memory := ⟨.new Dictionary.empty, []⟩
    let now := after (SessionRun.step .once (fun _ => "0") unreachable) start failedStart
    let past := SessionRun.sinceEnd (start.deals .once (fun _ => "0") unreachable failedStart)
    let next := now.deal .once (fun _ => "0") unreachable (.call (.start none []))
    next.2.filterMap Exchange.request? = [⟨"0", none, [], none⟩] ∧ acknowledged past = [] ∧
      ¬ResumesKnown now.session past next.2 next.1.1 := by
  refine ⟨by decide, by decide, fun known => ?_⟩
  obtain ⟨silent, -⟩ := known.refused (by decide) (fun _ _ => List.not_mem_nil)
  cases silent

end ServerDriven
