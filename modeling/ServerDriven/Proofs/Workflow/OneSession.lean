/-
Module: ServerDriven.Proofs.Workflow.OneSession
Purpose: Which session the requests of a program are for, when calls fail, the user ends sessions
  and the program starts anew with what is in its file.
Main exports:
  LifeEvent, SessionRun.restart, SessionRun.live, Sight, SessionRun.sights, SessionRun.life,
  knownId, mintedSince, CarriesOneId, IdMoves, Traced, Lives, requests_carry_one_id
-/
import Mathlib.Data.List.DropRight
import ServerDriven.Proofs.Storage.Reopened
import ServerDriven.Proofs.Workflow.KnownSession

namespace ServerDriven

open Run

/-! ### Lives of a session -/

/-- What can happen to a session that is kept in a file. -/
inductive LifeEvent where
  | command (command : Command)
  /-- The program ends, and starts anew. -/
  | restart

/-- What can be seen of the life of a session. -/
inductive Sight where
  /-- An id was made up. -/
  | minted (id : String)
  | exchange (exchange : Exchange)
  | cleared
  | restarted

/-- Whether a command ends the session. -/
def Command.ends : Command → Bool
  | .clear => true
  | .call _ | .restore _ | .save .. | .health => false

/-- The ids that are made up between two moments. -/
def mintings {σ : Type} (fresh : Nat → String) (before after : WorkflowSession σ) : List String :=
  (List.range' before.minted (after.minted - before.minted)).map fresh

namespace SessionRun

/-- The program starts anew with what is in the file.  The ids made up before still count, since no
two are ever made up alike. -/
def restart (s : SessionRun FileStorage) : SessionRun FileStorage :=
  { s with session := { s.session with
      store := .openAt s.session.store.medium
      state := .start none } }

variable (policy : RetryPolicy) (fresh : Nat → String) (server : Respondent)

def live (s : SessionRun FileStorage) : LifeEvent → SessionRun FileStorage
  | .command command => s.step policy fresh server command
  | .restart => s.restart

/-- What is seen of an event. -/
def sights (s : SessionRun FileStorage) : LifeEvent → List Sight
  | .command command =>
    (mintings fresh s.session (s.step policy fresh server command).session).map .minted ++
      ((s.deal policy fresh server command).2.map .exchange ++
        if command.ends then [.cleared] else [])
  | .restart => [.restarted]

/-- What is seen of the life of a session that begins with what a file holds. -/
def life (medium : Medium) (events : List LifeEvent) : List Sight :=
  noted (live policy fresh server) (sights policy fresh server)
    ⟨.new (FileStorage.openAt medium), []⟩ events

end SessionRun

/-! ### Which session a request is for -/

namespace Sight

/-- Whether the session is not ended. -/
def goesOn : Sight → Bool
  | .cleared => false
  | .minted _ | .exchange _ | .restarted => true

/-- The session that the server names. -/
def named? : Sight → Option String
  | .exchange made => made.named?
  | .minted _ | .cleared | .restarted => none

def minted? : Sight → Option String
  | .minted id => some id
  | .exchange _ | .cleared | .restarted => none

/-- No session is ended, and the server names none. -/
structure IsQuiet (sight : Sight) : Prop where
  goesOn : sight.goesOn = true
  unnamed : sight.named? = none

/-- Nor is an id made up. -/
structure IsIdle (sight : Sight) : Prop extends IsQuiet sight where
  unminted : sight.minted? = none

/-- A request that fails. -/
theorem isIdle_failure (request : ExecutionRequest) (e : WorkflowError) :
    (exchange (.execute request (.error e))).IsIdle := ⟨⟨rfl, rfl⟩, rfl⟩

theorem isIdle_restarted : restarted.IsIdle := ⟨⟨rfl, rfl⟩, rfl⟩

theorem isQuiet_minted (id : String) : (minted id).IsQuiet := ⟨rfl, rfl⟩

end Sight

/-- What has been seen since the session was last ended. -/
def sinceClear (past : List Sight) : List Sight := past.rtakeWhile Sight.goesOn

/-- The session that the server has named last, since the last end of a session; if there was
neither, the one that was kept from the start. -/
def knownId (initial : Option String) (past : List Sight) : Option String :=
  ((sinceClear past).filterMap Sight.named?).getLast?.or
    (if past.all Sight.goesOn then initial else none)

/-- The ids made up since the last end of a session. -/
def mintedSince (past : List Sight) : List String := (sinceClear past).filterMap Sight.minted?

/-- A request is for the session that is known; where none is, it is for the only one that has been
made up. -/
structure CarriesOneId (initial : Option String) (past : List Sight) (request : ExecutionRequest) :
    Prop where
  known : ∀ id, knownId initial past = some id → request.sessionId = id
  minted : knownId initial past = none → mintedSince past = [request.sessionId]

section Past

variable {initial : Option String} {past more : List Sight}

theorem sinceClear_append (on : ∀ sight ∈ more, sight.goesOn = true) :
    sinceClear (past ++ more) = sinceClear past ++ more := by
  induction more using List.reverseRecOn with
  | nil =>
      simp
  | append_singleton more sight ih =>
      have last : sight.goesOn = true := on sight (by simp)
      have before := ih fun sight mem => on sight (List.mem_append_left _ mem)
      unfold sinceClear at before ⊢
      rw [← List.append_assoc, List.rtakeWhile_concat_pos _ _ _ last, before, List.append_assoc]

theorem sinceClear_cleared (past : List Sight) : sinceClear (past ++ [.cleared]) = [] :=
  List.rtakeWhile_concat_neg Sight.goesOn past .cleared (by simp [Sight.goesOn])

theorem mintedSince_append (on : ∀ sight ∈ more, sight.goesOn = true) :
    mintedSince (past ++ more) = mintedSince past ++ more.filterMap Sight.minted? := by
  rw [mintedSince, sinceClear_append on, List.filterMap_append, mintedSince]

/-- What is quiet changes nothing about the session that is known. -/
theorem knownId_append (quiet : ∀ sight ∈ more, sight.IsQuiet) :
    knownId initial (past ++ more) = knownId initial past := by
  have on : ∀ sight ∈ more, sight.goesOn = true := fun sight mem => (quiet sight mem).goesOn
  have unnamed : more.filterMap Sight.named? = [] :=
    List.filterMap_eq_nil_iff.mpr fun sight mem => (quiet sight mem).unnamed
  have all : more.all Sight.goesOn = true := List.all_eq_true.mpr on
  rw [knownId, sinceClear_append on, List.filterMap_append, unnamed, List.append_nil,
    List.all_append, all, Bool.and_true, knownId]

/-- The server names a session. -/
theorem knownId_named {request : ExecutionRequest} (response : ExecutionResponse) :
    knownId initial (past ++ [.exchange (.execute request (.ok response))]) =
      some response.sessionId := by
  have on : ∀ sight ∈ [Sight.exchange (.execute request (.ok response))], sight.goesOn = true := by
    simp [Sight.goesOn]
  rw [knownId, sinceClear_append on, List.filterMap_append]
  simp [Sight.named?, Exchange.named?]

theorem knownId_cleared (past : List Sight) : knownId initial (past ++ [.cleared]) = none := by
  rw [knownId, sinceClear_cleared]
  simp [Sight.goesOn]

/-- As long as all is quiet, requests are for the same session. -/
theorem CarriesOneId.unique {request request' : ExecutionRequest}
    (first : CarriesOneId initial past request) (quiet : ∀ sight ∈ more, sight.IsQuiet)
    (second : CarriesOneId initial (past ++ more) request') :
    request'.sessionId = request.sessionId := by
  have same : knownId initial (past ++ more) = knownId initial past := knownId_append quiet
  cases known : knownId initial past with
  | some id =>
      rw [first.known id known, second.known id (same.trans known)]
  | none =>
      have minted := second.minted (same.trans known)
      rw [mintedSince_append fun sight mem => (quiet sight mem).goesOn, first.minted known] at minted
      exact (List.cons.inj minted).1.symm

end Past

/-! ### What commands make of the id of a session -/

section Moves

variable {σ : Type} [Storage σ]

/-- What a command makes of the id of a session, and how many ids have been made up then. -/
inductive IdMoves (fresh : Nat → String) (s : WorkflowSession σ) :
    Command → List Exchange → WorkflowSession σ → Prop where
  | apart {command : Command} {made : List Exchange} {s' : WorkflowSession σ}
      (on : command.ends = false) (silent : ∀ exchange ∈ made, exchange.request? = none)
      (same : s'.id? = s.id?) (count : s'.minted = s.minted) : IdMoves fresh s command made s'
  | asked {command : Command} {talk : Conversation} {s' : WorkflowSession σ}
      (on : command.ends = false) (sent : talk.request.sessionId = s.id?.getD (fresh s.minted))
      (left : s'.id? = leftBy (some (talk.request, talk.answer)))
      (count : s'.minted = if s.id?.isSome then s.minted else s.minted + 1) :
      IdMoves fresh s command talk.exchanges s'
  | ended {s' : WorkflowSession σ} (gone : s'.id? = none) (count : s'.minted = s.minted) :
      IdMoves fresh s .clear [] s'

variable [LawfulStorage σ] {policy : RetryPolicy} {fresh : Nat → String}
  {s s' : WorkflowSession σ} {made : List Exchange}

theorem idMoves_of_called (named : ∀ n, fresh n ≠ "") {command : Command}
    (on : command.ends = false) {c : Call} {result : CallResult}
    (called : Called policy fresh s c made result s') : IdMoves fresh s command made s' := by
  cases called with
  | refused issued =>
      exact .apart on (List.forall_mem_nil _) rfl rfl
  | @answered pending talk issued request allowed =>
      have sent : talk.request.sessionId = s.id?.getD (fresh s.minted) := by
        rw [request]
        exact s.sessionId_request fresh pending
      cases answer : talk.answer with
      | ok response =>
          refine .asked on sent ?_ rfl
          rw [answer]
          exact (s.request fresh pending).2.id?_settle_ok pending response
      | error e =>
          refine .asked on sent ?_ rfl
          rw [answer, leftBy, request]
          exact Session.id?_obtainId s.store (named s.minted)

theorem idMoves_of_dealt (named : ∀ n, fresh n ≠ "") {command : Command} {told : Told}
    (dealt : Dealt policy fresh s command made told s') : IdMoves fresh s command made s' := by
  cases dealt with
  | call called =>
      exact idMoves_of_called named rfl called
  | nothingKept absent =>
      exact .apart rfl (List.forall_mem_nil _) rfl rfl
  | restore kept called =>
      exact idMoves_of_called named rfl called
  | save request failures response =>
      exact .apart rfl (Exchange.apart_of_tries failures (fun _ => rfl) rfl)
        (Session.id?_setWorkflowId _ _) rfl
  | saveFailed request failures e =>
      exact .apart rfl (Exchange.apart_of_tries failures (fun _ => rfl) rfl) rfl rfl
  | health failures answer =>
      exact .apart rfl (Exchange.apart_of_tries failures (fun _ => rfl) rfl) rfl rfl
  | clear =>
      exact .ended (Session.id?_clear s.store) rfl

end Moves

/-! ### Every event -/

section Trace

variable {initial : Option String} {fresh : Nat → String} {past more : List Sight}

/-- What has been seen says which id is kept. -/
structure Traced (initial : Option String) (past : List Sight) (kept : Option String) : Prop where
  known : ∀ id, knownId initial past = some id → kept = some id
  minted : knownId initial past = none → mintedSince past = kept.toList

theorem carriesOneId_iff {request : ExecutionRequest} :
    CarriesOneId initial past request ↔ Traced initial past (some request.sessionId) := by
  constructor
  · intro carries
    exact ⟨fun id known => congrArg some (carries.known id known), carries.minted⟩
  · intro traced
    exact ⟨fun id known => Option.some.inj (traced.known id known), traced.minted⟩

/-- Where no id is made up and no session named or ended, the same id is kept. -/
theorem Traced.frame {kept : Option String} (traced : Traced initial past kept)
    (idle : ∀ sight ∈ more, sight.IsIdle) : Traced initial (past ++ more) kept := by
  have known : knownId initial (past ++ more) = knownId initial past :=
    knownId_append fun sight mem => (idle sight mem).toIsQuiet
  have minted : mintedSince (past ++ more) = mintedSince past := by
    have none : more.filterMap Sight.minted? = [] :=
      List.filterMap_eq_nil_iff.mpr fun sight mem => (idle sight mem).unminted
    rw [mintedSince_append fun sight mem => (idle sight mem).goesOn, none, List.append_nil]
  constructor
  · rw [known]
    exact traced.known
  · rw [known, minted]
    exact traced.minted

theorem traced_cleared (past : List Sight) : Traced initial (past ++ [.cleared]) none := by
  constructor
  · intro id known
    cases (knownId_cleared past).symm.trans known
  · intro _
    rw [mintedSince, sinceClear_cleared]
    rfl

theorem traced_named {request : ExecutionRequest} (response : ExecutionResponse) :
    Traced initial (past ++ [.exchange (.execute request (.ok response))])
      (some response.sessionId) := by
  have named : knownId initial (past ++ [.exchange (.execute request (.ok response))]) =
      some response.sessionId := knownId_named response
  constructor
  · intro id known
    exact named.symm.trans known
  · intro unknown
    cases named.symm.trans unknown

section Moves

variable {σ : Type} [Storage σ] {s s' : WorkflowSession σ}

/-- A request is for the session that is kept, or for one whose id was just made up. -/
theorem Traced.sent {id : String} (traced : Traced initial past s.id?)
    (sent : id = s.id?.getD (fresh s.minted))
    (count : s'.minted = if s.id?.isSome then s.minted else s.minted + 1) :
    Traced initial (past ++ (mintings fresh s s').map .minted) (some id) := by
  cases kept : s.id? with
  | some id' =>
      rw [kept] at sent count traced
      have none : (mintings fresh s s').map Sight.minted = [] := by simp [mintings, count]
      rw [none, List.append_nil, sent]
      exact traced
  | none =>
      rw [kept] at sent count traced
      have one : (mintings fresh s s').map Sight.minted = [.minted id] := by
        simp [mintings, count, sent]
      have quiet : ∀ sight ∈ [Sight.minted id], sight.IsQuiet :=
        List.forall_mem_singleton.mpr (Sight.isQuiet_minted id)
      rw [one]
      constructor
      · intro id' known
        rw [knownId_append quiet] at known
        cases traced.known id' known
      · intro unknown
        rw [knownId_append quiet] at unknown
        rw [mintedSince_append fun sight mem => (quiet sight mem).goesOn, traced.minted unknown]
        rfl

/-- If the server has never named an empty id, a request is for the session it should be for. -/
def Carries (initial : Option String) (past : List Sight) (sight : Sight) : Prop :=
  "" ∉ past.filterMap Sight.named? → ∀ request answer,
    sight = .exchange (.execute request answer) → CarriesOneId initial past request

/-- Where nothing is asked for, there is nothing to say. -/
theorem along_of_silent
    (silent : ∀ sight ∈ more, ∀ request answer, sight ≠ .exchange (.execute request answer)) :
    Along (Carries initial) past more := by
  intro earlier sight later parts _ request answer asked
  exact absurd asked (silent sight (by simp [parts]) request answer)

/-- What is seen of a conversation: some failures, and the answer that ends it. -/
theorem sights_talk (talk : Conversation) :
    ∃ tries : List Sight,
      talk.exchanges.map Sight.exchange = tries ++ [.exchange (.execute talk.request talk.answer)] ∧
      ∀ sight ∈ tries, ∃ e, sight = .exchange (.execute talk.request (.error e)) := by
  refine ⟨talk.failures.map fun e => .exchange (.execute talk.request (.error e)), ?_, ?_⟩
  · simp [Conversation.exchanges, Conversation.attempts]
  · intro sight mem
    obtain ⟨e, -, rfl⟩ := List.mem_map.mp mem
    exact ⟨e, rfl⟩

/-- All attempts of a conversation are for the same session, and the last decides which is kept. -/
theorem Traced.talked {talk : Conversation}
    (traced : Traced initial past (some talk.request.sessionId)) :
    Along (Carries initial) past (talk.exchanges.map Sight.exchange) ∧
      ("" ∉ (past ++ talk.exchanges.map Sight.exchange).filterMap Sight.named? →
        Traced initial (past ++ talk.exchanges.map Sight.exchange)
          (leftBy (some (talk.request, talk.answer)))) := by
  obtain ⟨tries, split, failures⟩ := sights_talk talk
  have idle : ∀ sight ∈ tries, sight.IsIdle := by
    intro sight mem
    obtain ⟨e, rfl⟩ := failures sight mem
    exact Sight.isIdle_failure talk.request e
  rw [split, along_append, along_cons]
  refine ⟨⟨?_, ?_, along_nil⟩, ?_⟩
  · intro earlier sight later parts _ request answer same
    obtain ⟨e, rfl⟩ := failures sight (by simp [parts])
    cases same
    exact carriesOneId_iff.mpr (traced.frame fun sight mem => idle sight (by simp [parts, mem]))
  · intro _ request answer same
    cases same
    exact carriesOneId_iff.mpr (traced.frame idle)
  · intro spoken
    rw [← List.append_assoc] at spoken ⊢
    cases answer : talk.answer with
    | ok response =>
        rw [answer] at spoken
        have named : response.sessionId ≠ "" := by
          intro empty
          exact spoken (by simp [Sight.named?, Exchange.named?, empty])
        have left : leftBy (some (talk.request, .ok response)) = some response.sessionId := by
          simp [leftBy, named]
        rw [left]
        exact traced_named response
    | error e =>
        exact (traced.frame idle).frame
          (List.forall_mem_singleton.mpr (Sight.isIdle_failure talk.request e))

/-- Whatever a command makes of the session, its requests are for the one they should be for. -/
theorem Traced.moved {command : Command} {made : List Exchange}
    (traced : Traced initial past s.id?) (moves : IdMoves fresh s command made s') :
    let seen := (mintings fresh s s').map Sight.minted ++
      (made.map Sight.exchange ++ if command.ends then [.cleared] else [])
    Along (Carries initial) past seen ∧
      ("" ∉ (past ++ seen).filterMap Sight.named? → Traced initial (past ++ seen) s'.id?) := by
  cases moves with
  | apart on silent same count =>
      have unminted : mintings fresh s s' = [] := by simp [mintings, count]
      have apart : ∀ exchange ∈ made, ∀ request answer, exchange ≠ .execute request answer := by
        rintro exchange mem request answer rfl
        cases silent _ mem
      have idle : ∀ sight ∈ made.map Sight.exchange, sight.IsIdle := by
        intro sight mem
        obtain ⟨exchange, among, rfl⟩ := List.mem_map.mp mem
        refine ⟨⟨rfl, ?_⟩, rfl⟩
        cases exchange with
        | execute request answer => exact absurd rfl (apart _ among request answer)
        | save request answer => rfl
        | health answer => rfl
      rw [unminted, on]
      simp only [List.map_nil, List.nil_append, Bool.false_eq_true, if_false, List.append_nil]
      refine ⟨along_of_silent fun sight mem request answer asked => ?_, fun _ => ?_⟩
      · obtain ⟨exchange, among, rfl⟩ := List.mem_map.mp mem
        cases asked
        exact apart _ among request answer rfl
      · rw [same]
        exact traced.frame idle
  | asked on sent left count =>
      have talked := (traced.sent sent count).talked
      have minted : Along (Carries initial) past ((mintings fresh s s').map Sight.minted) := by
        refine along_of_silent fun sight mem request answer asked => ?_
        obtain ⟨id, -, rfl⟩ := List.mem_map.mp mem
        cases asked
      rw [on, left]
      simp only [Bool.false_eq_true, if_false, List.append_nil]
      rw [along_append, ← List.append_assoc]
      exact ⟨⟨minted, talked.1⟩, talked.2⟩
  | ended gone count =>
      have unminted : mintings fresh s s' = [] := by simp [mintings, count]
      rw [unminted, gone]
      exact ⟨along_of_silent (List.forall_mem_singleton.mpr fun _ _ asked => by cases asked),
        fun _ => traced_cleared past⟩

end Moves

/-- The file holds what the storage does, and as long as the server has not named an empty id, what
has been seen says which is kept. -/
structure Lives (initial : Option String) (s : SessionRun FileStorage) (past : List Sight) :
    Prop where
  durable : s.session.store.IsDurable
  traced : "" ∉ past.filterMap Sight.named? → Traced initial past s.session.id?

/-- Whatever happens in the life of a session, it goes on so. -/
theorem Lives.live {s : SessionRun FileStorage} (lives : Lives initial s past)
    {policy : RetryPolicy} (named : ∀ n, fresh n ≠ "") (server : Respondent) (event : LifeEvent) :
    Along (Carries initial) past (s.sights policy fresh server event) ∧
      Lives initial (s.live policy fresh server event)
        (past ++ s.sights policy fresh server event) := by
  have before : ∀ later : List Sight, "" ∉ (past ++ later).filterMap Sight.named? →
      "" ∉ past.filterMap Sight.named? := by
    intro later spoken empty
    rw [List.filterMap_append] at spoken
    exact spoken (List.mem_append_left _ empty)
  cases event with
  | command command =>
      have dealt := s.dealt policy fresh server command
      have moves := idMoves_of_dealt named dealt
      refine ⟨?_, ?_, fun spoken => ?_⟩
      · intro earlier sight later parts spoken
        exact ((lives.traced (before earlier spoken)).moved moves).1 earlier sight later parts spoken
      · exact dealt.keeps_store (fun _ key value durable => durable.put key value)
          (fun _ key durable => durable.remove key) lives.durable
      · exact ((lives.traced (before _ spoken)).moved moves).2 spoken
  | restart =>
      have reopened : (s.live policy fresh server .restart).session.store = s.session.store :=
        lives.durable.reopened
      have same : (s.live policy fresh server .restart).session.id? = s.session.id? :=
        congrArg Session.id? reopened
      refine ⟨?_, ?_, fun spoken => ?_⟩
      · exact along_of_silent (List.forall_mem_singleton.mpr fun _ _ asked => by cases asked)
      · rw [reopened]
        exact lives.durable
      · rw [same]
        exact (lives.traced (before _ spoken)).frame
          (List.forall_mem_singleton.mpr Sight.isIdle_restarted)

/-- At first nothing has been seen, and the id is the one in the file. -/
theorem lives_new {medium : Medium} (writable : medium.isWritable = true) :
    Lives (Session.id? (FileStorage.openAt medium)) ⟨.new (.openAt medium), []⟩ [] where
  durable := FileStorage.isDurable_openAt writable
  traced _ := ⟨fun _ known => known, fun unknown => (congrArg Option.toList unknown).symm⟩

end Trace

/-! ### Whole lives -/

/-- A session keeps one id.  Whatever the file holds at first, and however calls, ends of sessions and
new starts of the program follow each other: each request is for the session that the server has
named last, or the one kept from the start; after an end, and until the server names one, it is for
the only one that was made up since.  So requests are for the same session as long as the server
names none and the user ends none, whether they fail or not and whether or not the program starts
anew in between.  Ending a session leaves the workflow alone, in the storage and in the file. -/
theorem requests_carry_one_id (policy : RetryPolicy) (fresh : Nat → String)
    (named : ∀ n, fresh n ≠ "") (server : Respondent) (medium : Medium)
    (writable : medium.isWritable = true) (events : List LifeEvent)
    (spoken : "" ∉ (SessionRun.life policy fresh server medium events).filterMap Sight.named?) :
    let initial := Session.id? (FileStorage.openAt medium)
    let life := SessionRun.life policy fresh server medium events
    (∀ earlier request answer later,
      life = earlier ++ .exchange (.execute request answer) :: later →
        CarriesOneId initial earlier request) ∧
    (∀ earlier request answer between request' answer' later,
      life = earlier ++ .exchange (.execute request answer) ::
        (between ++ .exchange (.execute request' answer') :: later) →
      (∀ sight ∈ .exchange (.execute request answer) :: between, sight.IsQuiet) →
        request'.sessionId = request.sessionId) ∧
    let now := after (SessionRun.live policy fresh server) ⟨.new (.openAt medium), []⟩ events
    let ended := now.live policy fresh server (.command .clear)
    let workflow := Storage.get? now.session.store Session.workflowIdKey
    Storage.get? ended.session.store Session.workflowIdKey = workflow ∧
      Storage.get? (FileStorage.openAt ended.session.store.medium) Session.workflowIdKey =
        workflow := by
  intro initial life
  obtain ⟨carry, lives⟩ : Along (Carries initial) [] life ∧ Lives initial _ ([] ++ life) :=
    along_noted (fun s past event lives => lives.live named server event) (lives_new writable) events
  have carries : ∀ earlier request answer later,
      life = earlier ++ .exchange (.execute request answer) :: later →
        CarriesOneId initial earlier request := by
    intro earlier request answer later parts
    refine carry earlier _ later parts (fun empty => spoken ?_) request answer rfl
    change "" ∈ life.filterMap Sight.named?
    rw [parts, List.filterMap_append]
    exact List.mem_append_left _ empty
  refine ⟨carries, ?_, ?_⟩
  · intro earlier request answer between request' answer' later parts quiet
    have first := carries earlier request answer _ parts
    rw [List.append_cons, ← List.append_assoc, List.append_assoc earlier, List.singleton_append]
      at parts
    exact first.unique quiet (carries _ request' answer' later parts)
  · intro now ended workflow
    have store : ended.session.store = Storage.remove now.session.store Session.idKey := rfl
    have kept : Storage.get? ended.session.store Session.workflowIdKey = workflow := by
      rw [store, LawfulStorage.get?_remove, if_neg (Ne.symm Session.idKey_ne)]
    refine ⟨kept, ?_⟩
    have durable : ended.session.store.IsDurable := lives.durable.remove Session.idKey
    rw [durable.reopened]
    exact kept

/-- A server that fails once and then names a session. -/
def recovering : Respondent where
  execute past _ :=
    if past.isEmpty then .error (.network "down") else .ok ⟨"1", [], "s", .screen, none⟩
  save _ _ := .error (.network "down")
  health _ := .error (.network "down")

/-- The program starts anew after a call that has failed, and the user ends the session later. -/
def interrupted : List LifeEvent :=
  [.command (.call (.start (some "w") [])), .restart, .command (.call (.update [])),
    .command .clear, .command (.call (.update []))]

theorem interrupted_requests_carry_one_id :
    (∀ n : Nat, (fun n => "id" ++ toString n) n ≠ "") ∧ ({} : Medium).isWritable = true ∧
      let life := SessionRun.life .once (fun n => "id" ++ toString n) recovering {} interrupted
      "" ∉ life.filterMap Sight.named? ∧ ∀ earlier request answer later,
        life = earlier ++ .exchange (.execute request answer) :: later →
          CarriesOneId none earlier request := by
  have named : ∀ n : Nat, (fun n => "id" ++ toString n) n ≠ "" := by
    intro n
    simp
  have spoken : "" ∉ (SessionRun.life .once (fun n => "id" ++ toString n) recovering {}
      interrupted).filterMap Sight.named? := by decide +kernel
  exact ⟨named, rfl, spoken,
    (requests_carry_one_id .once _ named recovering {} rfl interrupted spoken).1⟩

end ServerDriven
