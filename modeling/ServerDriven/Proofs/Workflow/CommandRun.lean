/-
Module: ServerDriven.Proofs.Workflow.CommandRun
Purpose: What a user asks of a session, one thing after the other, and what each leads to when the
  server may answer anything.
Main exports:
  Command, Told, Command.perform, SessionRun, SessionRun.deal, SessionRun.step, Called, Dealt,
  Dealt.keeps_store, SessionRun.dealt, Deal, SessionRun.deals, SessionRun.log_after
-/
import ServerDriven.Proofs.Workflow.Conversation

namespace ServerDriven

open Run

/-! ### Commands -/

/-- What a user can ask of a session. -/
inductive Command where
  | call (c : Call)
  /-- Go on with the session that is kept. -/
  | restore (given : Option String)
  | save (states : StateSet) (context : Context)
  | health
  | clear

/-- What a user is told. -/
inductive Told where
  | called (result : CallResult)
  | restored (result : Option CallResult)
  | saved (result : Except WorkflowError String)
  | health (result : Except WorkflowError String)
  | cleared

/-- Do what is asked, and wait until it is done. -/
def Command.perform {σ : Type} [Storage σ] {m : Type → Type} [Monad m] (api : Api m)
    (fresh : Nat → String) : Command → StateT (WorkflowSession σ) m Told
  | .call c => Told.called <$> WorkflowSession.call api fresh c
  | .restore given => Told.restored <$> WorkflowSession.restore api fresh given
  | .save states context => Told.saved <$> WorkflowSession.save api states context
  | .health => Told.health <$> WorkflowSession.health api
  | .clear => do
    modify WorkflowSession.clear
    return .cleared

/-- A session, and all that has passed between it and the server. -/
structure SessionRun (σ : Type) where
  session : WorkflowSession σ
  log : List Exchange

/-! ### What each command can do -/

section Cases

variable {σ : Type} [Storage σ] (policy : RetryPolicy) (fresh : Nat → String)

/-- A call that no other overlaps: what passes between it and the server, what comes of it, and the
session afterwards.  It is refused where it is issued, or the server is asked as the policy allows.
-/
inductive Called (s : WorkflowSession σ) (c : Call) :
    List Exchange → CallResult → WorkflowSession σ → Prop where
  | refused {e : WorkflowError} (issued : s.issue c = .error e) : Called s c [] (.error e) s
  | answered {pending : Pending} {talk : Conversation} (issued : s.issue c = .ok pending)
      (request : talk.request = (s.request fresh pending).1) (allowed : talk.Allowed policy) :
      Called s c talk.exchanges talk.result
        ((s.request fresh pending).2.settle pending talk.answer).2

/-- A command: what passes between the session and the server, what the user is told, and the
session afterwards. -/
inductive Dealt (s : WorkflowSession σ) :
    Command → List Exchange → Told → WorkflowSession σ → Prop where
  | call {c : Call} {made : List Exchange} {result : CallResult} {s' : WorkflowSession σ}
      (called : Called policy fresh s c made result s') : Dealt s (.call c) made (.called result) s'
  | nothingKept (absent : s.id? = none) : Dealt s (.restore none) [] (.restored none) s
  | restore {given : Option String} {made : List Exchange} {result : CallResult}
      {s' : WorkflowSession σ} (kept : given.isSome = true ∨ s.id?.isSome = true)
      (called : Called policy fresh s (.start none []) made result s') :
      Dealt s (.restore given) made (.restored (some result)) s'
  | save {states : StateSet} {context : Context} (request : SaveRequest)
      (failures : List WorkflowError) (response : SaveResponse) :
      Dealt s (.save states context)
        (failures.map (fun e => .save request (.error e)) ++ [.save request (.ok response)])
        (.saved (.ok response.workflowId))
        { s with store := Session.setWorkflowId s.store response.workflowId }
  | saveFailed {states : StateSet} {context : Context} (request : SaveRequest)
      (failures : List WorkflowError) (e : WorkflowError) :
      Dealt s (.save states context)
        (failures.map (fun e => .save request (.error e)) ++ [.save request (.error e)])
        (.saved (.error e)) s
  | health (failures : List WorkflowError) (answer : Except WorkflowError HealthResponse) :
      Dealt s .health (failures.map (fun e => .health (.error e)) ++ [.health answer])
        (.health (answer.map HealthResponse.status)) s
  | clear : Dealt s .clear [] .cleared s.clear

end Cases

/-! ### What commands keep of a storage -/

section Keeps

variable {σ : Type} [Storage σ] {policy : RetryPolicy} {fresh : Nat → String}
  {s s' : WorkflowSession σ} {made : List Exchange} {Holds : σ → Prop}

/-- What writing keeps up, a call keeps up. -/
theorem Called.keeps_store {c : Call} {result : CallResult}
    (put : ∀ store key value, Holds store → Holds (Storage.put store key value))
    (called : Called policy fresh s c made result s') (holds : Holds s.store) :
    Holds s'.store := by
  cases called with
  | refused issued =>
      exact holds
  | @answered pending talk issued request allowed =>
      have requested : Holds (s.request fresh pending).2.store := by
        unfold WorkflowSession.request Session.obtainId
        cases Session.id? s.store with
        | some id =>
            exact holds
        | none =>
            exact put _ _ _ holds
      cases talk.answer with
      | error e =>
          exact requested
      | ok response =>
          unfold WorkflowSession.settle
          dsimp only
          split
          · exact put _ _ _ (put _ _ _ requested)
          · exact put _ _ _ requested

/-- What writing and removing keep up, every command keeps up. -/
theorem Dealt.keeps_store {command : Command} {told : Told}
    (put : ∀ store key value, Holds store → Holds (Storage.put store key value))
    (remove : ∀ store key, Holds store → Holds (Storage.remove store key))
    (dealt : Dealt policy fresh s command made told s') (holds : Holds s.store) :
    Holds s'.store := by
  cases dealt with
  | call called =>
      exact called.keeps_store put holds
  | nothingKept absent =>
      exact holds
  | restore kept called =>
      exact called.keeps_store put holds
  | save request failures response =>
      exact put _ _ _ holds
  | saveFailed request failures e =>
      exact holds
  | health failures answer =>
      exact holds
  | clear =>
      exact remove _ _ holds

end Keeps

namespace SessionRun

variable {σ : Type} [Storage σ] (policy : RetryPolicy) (fresh : Nat → String)
  (server : Respondent)

/-- A command is dealt with: what the user is told, the session afterwards, and what passes between
it and the server meanwhile. -/
def deal (s : SessionRun σ) (command : Command) :
    (Told × WorkflowSession σ) × List Exchange :=
  ((command.perform (server.client policy s.log) fresh).run s.session).run []

def step (s : SessionRun σ) (command : Command) : SessionRun σ :=
  ⟨(s.deal policy fresh server command).1.2, s.log ++ (s.deal policy fresh server command).2⟩

/-- What is done with a session and a server. -/
abbrev Talk (σ α : Type) : Type := StateT (WorkflowSession σ) (StateM (List Exchange)) α

/-- What a talk leads to from a session, when so much has been exchanged. -/
def talk {α : Type} (program : Talk σ α) (s : WorkflowSession σ) (made : List Exchange) :
    (α × WorkflowSession σ) × List Exchange :=
  (program.run s).run made

section Talk

variable {α β : Type} {s s' : WorkflowSession σ} {made made' : List Exchange}

omit [Storage σ] in
theorem talk_bind {first : Talk σ α} {a : α}
    (before : talk first s made = ((a, s'), made'))
    (next : α → Talk σ β) :
    talk (first >>= next) s made = talk (next a) s' made' := by
  unfold talk at before ⊢
  rw [StateT.run_bind, StateT.run_bind, before]
  rfl

omit [Storage σ] in
theorem talk_map {program : Talk σ α} {a : α}
    (before : talk program s made = ((a, s'), made')) (f : α → β) :
    talk (f <$> program) s made = ((f a, s'), made') := by
  unfold talk at before ⊢
  rw [StateT.run_map, StateT.run_map, before]
  rfl

omit [Storage σ] in
/-- The server is asked for something. -/
theorem talk_lift {program : StateM (List Exchange) α} {a : α}
    (before : program.run made = (a, made')) (s : WorkflowSession σ) :
    talk (liftM program) s made = ((a, s), made') := by
  change (((program.run made).1, s), (program.run made).2) = _
  rw [before]

end Talk

theorem talk_call (past : List Exchange) (s : WorkflowSession σ) (c : Call) :
    ∃ made result s', Called policy fresh s c made result s' ∧
      talk (WorkflowSession.call (server.client policy past) fresh c) s [] =
        ((result, s'), made) := by
  have opened : talk get s [] = ((s, s), []) := rfl
  unfold WorkflowSession.call
  rw [talk_bind opened]
  cases issued : s.issue c with
  | error e =>
      exact ⟨_, _, _, .refused issued, rfl⟩
  | ok pending =>
      obtain ⟨conversation, request, allowed, asked⟩ :=
        server.execute_client policy past (s.request fresh pending).1 []
      refine ⟨_, _, _, .answered issued request allowed, ?_⟩
      have requested :
          talk (modifyGet fun s : WorkflowSession σ => s.request fresh pending) s [] =
            (((s.request fresh pending).1, (s.request fresh pending).2), []) := rfl
      dsimp only
      rw [talk_bind requested, talk_bind (talk_lift asked _), Conversation.result,
        ← WorkflowSession.fst_settle (s.request fresh pending).2 pending]
      rfl

theorem talk_restore (past : List Exchange) (s : WorkflowSession σ) (given : Option String) :
    ∃ made result s', Dealt policy fresh s (.restore given) made (.restored result) s' ∧
      talk (WorkflowSession.restore (server.client policy past) fresh given) s [] =
        ((result, s'), made) := by
  have opened : talk get s [] = ((s, s), []) := rfl
  unfold WorkflowSession.restore
  rw [talk_bind opened]
  by_cases nothing : given.isNone ∧ s.id?.isNone
  · obtain ⟨noneGiven, noneKept⟩ := nothing
    rw [Option.isNone_iff_eq_none] at noneGiven noneKept
    subst noneGiven
    refine ⟨_, _, _, .nothingKept noneKept, ?_⟩
    rw [if_pos ⟨rfl, by simp [noneKept]⟩]
    rfl
  · obtain ⟨made, result, s', called, talked⟩ :=
      talk_call policy fresh server past s (.start none [])
    have kept : given.isSome = true ∨ s.id?.isSome = true := by
      rw [not_and_or] at nothing
      simpa [Option.ne_none_iff_isSome] using nothing
    refine ⟨_, _, _, .restore kept called, ?_⟩
    rw [if_neg nothing]
    exact talk_map talked some

theorem talk_save (past : List Exchange) (s : WorkflowSession σ) (states : StateSet)
    (context : Context) :
    ∃ made result s', Dealt policy fresh s (.save states context) made (.saved result) s' ∧
      talk (WorkflowSession.save (server.client policy past) states context) s [] =
        ((result, s'), made) := by
  obtain ⟨failures, answer, asked⟩ :=
    server.save_client policy past ⟨states, ContextValue.toMembers context⟩ []
  unfold WorkflowSession.save
  rw [talk_bind (talk_lift asked s)]
  cases answer with
  | error e =>
      exact ⟨_, _, _, .saveFailed _ failures e, rfl⟩
  | ok response =>
      exact ⟨_, _, _, .save _ failures response, rfl⟩

/-- All that a command can do. -/
theorem dealt (s : SessionRun σ) (command : Command) :
    Dealt policy fresh s.session command (s.deal policy fresh server command).2
      (s.deal policy fresh server command).1.1 (s.deal policy fresh server command).1.2 := by
  cases command with
  | call c =>
      obtain ⟨made, result, s', called, talked⟩ := talk_call policy fresh server s.log s.session c
      have same : s.deal policy fresh server (.call c) = ((.called result, s'), made) :=
        talk_map talked Told.called
      rw [same]
      exact .call called
  | restore given =>
      obtain ⟨made, result, s', dealt, talked⟩ :=
        talk_restore policy fresh server s.log s.session given
      have same : s.deal policy fresh server (.restore given) = ((.restored result, s'), made) :=
        talk_map talked Told.restored
      rw [same]
      exact dealt
  | save states context =>
      obtain ⟨made, result, s', dealt, talked⟩ :=
        talk_save policy fresh server s.log s.session states context
      have same : s.deal policy fresh server (.save states context) =
          ((.saved result, s'), made) := talk_map talked Told.saved
      rw [same]
      exact dealt
  | health =>
      obtain ⟨failures, answer, asked⟩ := server.health_client policy s.log []
      have talked : talk (WorkflowSession.health (server.client policy s.log)) s.session [] =
          ((answer.map HealthResponse.status, s.session),
            failures.map (fun e => .health (.error e)) ++ [.health answer]) :=
        talk_bind (talk_lift asked s.session) _
      have same : s.deal policy fresh server .health = ((.health _, s.session), _) :=
        talk_map talked Told.health
      rw [same]
      exact .health failures answer
  | clear =>
      exact .clear

/-! ### Whole runs -/

/-- A command that has been dealt with: what passed between the session and the server, and what
the user was told. -/
structure Deal where
  command : Command
  exchanges : List Exchange
  told : Told

/-- What became of some commands, one after the other. -/
def deals (s : SessionRun σ) (commands : List Command) : List Deal :=
  noted (step policy fresh server)
    (fun s command =>
      [⟨command, (s.deal policy fresh server command).2, (s.deal policy fresh server command).1.1⟩])
    s commands

/-- Nothing passes between a session and the server but what commands ask for, in their order. -/
theorem log_after (s : SessionRun σ) (commands : List Command) :
    (after (step policy fresh server) s commands).log =
      s.log ++ (s.deals policy fresh server commands).flatMap Deal.exchanges := by
  induction commands generalizing s with
  | nil =>
      exact (List.append_nil s.log).symm
  | cons command commands ih =>
      rw [after_cons, ih]
      exact List.append_assoc _ _ _

/-- No command is passed over. -/
theorem commands_deals (s : SessionRun σ) (commands : List Command) :
    (s.deals policy fresh server commands).map Deal.command = commands := by
  induction commands generalizing s with
  | nil =>
      rfl
  | cons command commands ih =>
      exact congrArg (command :: ·) (ih (s.step policy fresh server command))

/-- Each command was dealt with in a session of its time. -/
theorem dealt_of_mem_deals (s : SessionRun σ) (commands : List Command) {deal : Deal}
    (mem : deal ∈ s.deals policy fresh server commands) :
    ∃ before later : WorkflowSession σ,
      Dealt policy fresh before deal.command deal.exchanges deal.told later := by
  induction commands generalizing s with
  | nil =>
      cases mem
  | cons command commands ih =>
      rcases List.mem_append.mp mem with mem | mem
      · rw [List.mem_singleton.mp mem]
        exact ⟨_, _, s.dealt policy fresh server command⟩
      · exact ih (s.step policy fresh server command) mem

end SessionRun

end ServerDriven
