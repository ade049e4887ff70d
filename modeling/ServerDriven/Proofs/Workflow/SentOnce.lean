/-
Module: ServerDriven.Proofs.Workflow.SentOnce
Purpose: How often each call is sent to the server: an event once, whatever comes of it, and all
  else unchanged, as often as the policy allows.
Main exports:
  Exchange.request?, Exchange.event?, Contact.event?, Call.Sends, SessionRun.Deal.Keeps,
  SessionRun.keeps_of_dealt, SessionRun.events_after, CallLine.Turns.events_eq,
  each_event_is_sent_once
-/
import Mathlib.Data.List.Basic
import ServerDriven.Proofs.Workflow.CommandRun
import ServerDriven.Proofs.Workflow.Turns

namespace ServerDriven

open Run

/-! ### What is sent -/

namespace Exchange

/-- The request, if something was to be executed. -/
def request? : Exchange → Option ExecutionRequest
  | .execute request _ => some request
  | .save .. | .health _ => none

/-- The event that was sent. -/
def event? (exchange : Exchange) : Option String := exchange.request?.bind ExecutionRequest.event

/-- Where nothing is to be executed, nothing is however often it is tried. -/
theorem apart_of_tries {failed : WorkflowError → Exchange} {last : Exchange}
    (failures : List WorkflowError) (apart : ∀ e, (failed e).request? = none)
    (lastApart : last.request? = none) :
    ∀ exchange ∈ failures.map failed ++ [last], exchange.request? = none := by
  intro exchange mem
  rcases List.mem_append.mp mem with mem | mem
  · obtain ⟨e, -, rfl⟩ := List.mem_map.mp mem
    exact apart e
  · rw [List.mem_singleton.mp mem]
    exact lastApart

end Exchange

/-- The event that was sent. -/
def Contact.event? : Contact → Option String
  | .sent _ request => request.event
  | .answered .. => none

/-- The call that a command makes. -/
def Command.call? : Command → Option Call
  | .call c => some c
  | .restore _ => some (.start none [])
  | .save .. | .health | .clear => none

/-- The event that a command fires. -/
def Command.event? (command : Command) : Option String := command.call?.bind Call.event?

/-- What the user is told of a call, if one was made. -/
def Told.result? : Told → Option CallResult
  | .called result => some result
  | .restored result => result
  | .saved _ | .health _ | .cleared => none

/-- An event is sent once, and what is none is never sent as one. -/
theorem Conversation.Allowed.events {policy : RetryPolicy} {c : Conversation}
    (h : c.Allowed policy) :
    (c.attempts.filterMap fun attempt => attempt.1.event) = c.request.event.toList := by
  cases event : c.request.event with
  | none =>
      refine List.filterMap_eq_nil_iff.mpr fun attempt mem => ?_
      rw [request_of_mem_attempts mem, event]
  | some name =>
      have isEvent : c.request.isEvent = true := by simp [ExecutionRequest.isEvent, event]
      rw [h.once isEvent]
      exact List.filterMap_cons_some event

/-! ### One command after the other -/

/-- What a call sends, and what comes of it. -/
structure Call.Sends (policy : RetryPolicy) (c : Call) (made : List Exchange)
    (result : Option CallResult) : Prop where
  /-- An event is sent once, whatever the answer. -/
  once : ∀ name, c.event? = some name → ∃ request answer, request.AsksFor c ∧
    made = [.execute request answer] ∧ result = some (answer.map WorkflowState.ofResponse)
  /-- All else is sent as the policy allows.  A start alone may be refused, and is not sent then. -/
  again : c.event? = none →
    (made = [] ∧ (∃ context, c = .start none context) ∧
      ∀ r, result = some r → r = .error WorkflowSession.missingWorkflow) ∨
    ∃ talk : Conversation, talk.request.AsksFor c ∧ talk.Allowed policy ∧
      made = talk.exchanges ∧ result = some talk.result

/-- What a command may have executed. -/
structure SessionRun.Deal.Keeps (policy : RetryPolicy) (deal : SessionRun.Deal) : Prop where
  /-- Without a call nothing is executed. -/
  apart : deal.command.call? = none → ∀ exchange ∈ deal.exchanges, exchange.request? = none
  call : ∀ c, deal.command.call? = some c → c.Sends policy deal.exchanges deal.told.result?

theorem Conversation.sends {policy : RetryPolicy} {talk : Conversation} {c : Call}
    (asks : talk.request.AsksFor c) (allowed : talk.Allowed policy) :
    c.Sends policy talk.exchanges (some talk.result) where
  once name fires := by
    have isEvent : talk.request.isEvent = true := by
      simp [ExecutionRequest.isEvent, asks.event, fires]
    refine ⟨talk.request, talk.answer, asks, ?_, rfl⟩
    rw [exchanges, allowed.once isEvent]
    rfl
  again _ := .inr ⟨talk, asks, allowed, rfl, rfl⟩

namespace SessionRun

variable {σ : Type} [Storage σ] {policy : RetryPolicy} {fresh : Nat → String}
  {s s' : WorkflowSession σ} {made : List Exchange}

theorem sends_of_called {c : Call} {result : CallResult}
    (called : Called policy fresh s c made result s') : c.Sends policy made (some result) := by
  cases called with
  | refused issued =>
      obtain ⟨⟨context, rfl⟩, -, -, rfl⟩ := WorkflowSession.issue_eq_error_iff.mp issued
      exact ⟨nofun, fun _ => .inl ⟨rfl, ⟨context, rfl⟩, fun r told => (Option.some.inj told).symm⟩⟩
  | answered issued request allowed =>
      refine Conversation.sends ?_ allowed
      rw [request]
      exact WorkflowSession.asksFor_of_issue issued fresh s

/-- Whatever a command does, it keeps to the policy. -/
theorem keeps_of_dealt {command : Command} {told : Told}
    (dealt : Dealt policy fresh s command made told s') :
    Deal.Keeps policy ⟨command, made, told⟩ := by
  cases dealt with
  | call called =>
      refine ⟨nofun, ?_⟩
      rintro _ ⟨⟩
      exact sends_of_called called
  | nothingKept absent =>
      refine ⟨nofun, ?_⟩
      rintro _ ⟨⟩
      exact ⟨nofun, fun _ => .inl ⟨rfl, ⟨[], rfl⟩, fun _ told => nomatch told⟩⟩
  | restore kept called =>
      refine ⟨nofun, ?_⟩
      rintro _ ⟨⟩
      exact sends_of_called called
  | save request failures response =>
      exact ⟨fun _ => Exchange.apart_of_tries failures (fun _ => rfl) rfl, nofun⟩
  | saveFailed request failures e =>
      exact ⟨fun _ => Exchange.apart_of_tries failures (fun _ => rfl) rfl, nofun⟩
  | health failures answer =>
      exact ⟨fun _ => Exchange.apart_of_tries failures (fun _ => rfl) rfl, nofun⟩
  | clear =>
      exact ⟨fun _ => List.forall_mem_nil _, nofun⟩

/-- The events among what a command sends. -/
theorem Deal.Keeps.events {deal : Deal} (h : deal.Keeps policy) :
    deal.exchanges.filterMap Exchange.event? = deal.command.event?.toList := by
  unfold Command.event?
  cases makes : deal.command.call? with
  | none =>
      refine List.filterMap_eq_nil_iff.mpr fun exchange mem => ?_
      rw [Exchange.event?, h.apart makes exchange mem]
      rfl
  | some c =>
      have sends := h.call c makes
      cases fires : c.event? with
      | some name =>
          obtain ⟨request, answer, asks, made, -⟩ := sends.once name fires
          rw [made, Option.bind_some, fires, ← fires, ← asks.event]
          simp [Exchange.event?, Exchange.request?, asks.event, fires]
      | none =>
          rw [Option.bind_some, fires]
          rcases sends.again fires with ⟨made, -, -⟩ | ⟨talk, asks, allowed, made, -⟩
          · rw [made]
            rfl
          · have events := allowed.events
            rw [asks.event, fires] at events
            rw [made, Conversation.exchanges, List.filterMap_map]
            exact events

theorem keeps_of_mem_deals (policy : RetryPolicy) (fresh : Nat → String) (server : Respondent)
    (s : SessionRun σ) (commands : List Command) {deal : Deal}
    (mem : deal ∈ s.deals policy fresh server commands) : deal.Keeps policy := by
  obtain ⟨before, later, dealt⟩ := s.dealt_of_mem_deals policy fresh server commands mem
  exact keeps_of_dealt dealt

/-- The events that the server is sent are those that the commands fire. -/
theorem events_after (policy : RetryPolicy) (fresh : Nat → String) (server : Respondent)
    (s : SessionRun σ) (commands : List Command) :
    (after (step policy fresh server) s commands).log.filterMap Exchange.event? =
      s.log.filterMap Exchange.event? ++ commands.filterMap Command.event? := by
  rw [log_after, List.filterMap_append]
  refine congrArg (s.log.filterMap Exchange.event? ++ ·) ?_
  calc ((s.deals policy fresh server commands).flatMap Deal.exchanges).filterMap Exchange.event?
      = (s.deals policy fresh server commands).flatMap fun deal => deal.command.event?.toList := by
        rw [List.filterMap_flatMap]
        exact List.flatMap_congr fun deal mem =>
          (keeps_of_mem_deals policy fresh server s commands mem).events
    _ = (s.deals policy fresh server commands).filterMap fun deal => deal.command.event? :=
        (List.filterMap_eq_flatMap_toList _ _).symm
    _ = ((s.deals policy fresh server commands).map Deal.command).filterMap Command.event? := by
        rw [List.filterMap_map]
        rfl
    _ = commands.filterMap Command.event? := by rw [commands_deals]

end SessionRun

/-! ### Calls that overlap -/

theorem PastTurn.Allowed.events {policy : RetryPolicy} {t : PastTurn} (h : t.Allowed policy) :
    t.contacts.filterMap Contact.event? = t.admission.call.event?.toList := by
  rw [← h.asks.event, ← h.talk.events, contacts, List.filterMap_flatMap,
    List.filterMap_eq_flatMap_toList]
  refine List.flatMap_congr fun attempt _ => ?_
  cases event : attempt.1.event <;> simp [Contact.ofAttempt, Contact.event?, event]

theorem PresentTurn.Allowed.events {policy : RetryPolicy} {t : PresentTurn} (h : t.Allowed policy) :
    t.contacts.filterMap Contact.event? = t.admission.call.event?.toList := by
  rw [← h.asks.event]
  cases event : t.request.event with
  | none =>
      have failed : (t.failures.flatMap fun e =>
          Contact.ofAttempt t.admission.number (t.request, .error e)).filterMap Contact.event? =
            [] := by
        simp [Contact.ofAttempt, Contact.event?, event, List.filterMap_flatMap]
      rw [contacts, List.filterMap_append, failed]
      cases t.isPausing <;> simp [Contact.event?, event]
  | some name =>
      have isEvent : t.request.isEvent = true := by simp [ExecutionRequest.isEvent, event]
      rw [h.once isEvent]
      exact List.filterMap_cons_some event

namespace CallLine

variable {σ : Type} [Storage σ] {policy : RetryPolicy} {line : CallLine σ}
  {admitted : List Admission} {contacts : List Contact} {ended : List Ending}
  {past : List PastTurn} {present : Option PresentTurn} {waiting : List Admission}

/-- The events that the server is sent are those of the calls that have had their turn or have it. -/
theorem Turns.events_eq (h : Turns policy line admitted contacts ended past present waiting) :
    contacts.filterMap Contact.event? =
      (past.map PastTurn.admission ++ present.toList.map PresentTurn.admission).filterMap
        fun a => a.call.event? := by
  have earlier : (past.flatMap PastTurn.contacts).filterMap Contact.event? =
      (past.map PastTurn.admission).filterMap fun a => a.call.event? := by
    rw [List.filterMap_flatMap, List.filterMap_map, List.filterMap_eq_flatMap_toList]
    exact List.flatMap_congr fun t mem => (h.allowed t mem).events
  have now : (present.toList.flatMap PresentTurn.contacts).filterMap Contact.event? =
      (present.toList.map PresentTurn.admission).filterMap fun a => a.call.event? := by
    rw [List.filterMap_flatMap, List.filterMap_map, List.filterMap_eq_flatMap_toList]
    exact List.flatMap_congr fun t mem =>
      (h.present_allowed (Option.mem_toList.mp mem)).events
  rw [h.contacts_eq, List.filterMap_append, List.filterMap_append, earlier, now]

end CallLine

/-- Each event that is fired is sent to the server once, whatever the server answers, and nothing
else is sent as an event.  A call that fires none is sent with one request, again only after failures
that may pass and at most as often as the policy allows; what comes of it is what the last answer
says.  So it is with calls one after the other, whatever else is asked for between them, and with
calls that overlap. -/
theorem each_event_is_sent_once {σ : Type} [Storage σ] (policy : RetryPolicy)
    (fresh : Nat → String) :
    (∀ (server : Respondent) (s : SessionRun σ) (commands : List Command),
      let deals := s.deals policy fresh server commands
      let log := (after (SessionRun.step policy fresh server) s commands).log
      deals.map SessionRun.Deal.command = commands ∧
      log = s.log ++ deals.flatMap SessionRun.Deal.exchanges ∧
      (∀ deal ∈ deals, deal.Keeps policy) ∧
      log.filterMap Exchange.event? =
        s.log.filterMap Exchange.event? ++ commands.filterMap Command.event?) ∧
    ∀ (session : WorkflowSession σ) (events : List LineEvent),
      let contacts := CallLine.lineContacts policy fresh (.new session) events
      ∃ (past : List PastTurn) (present : Option PresentTurn) (waiting : List Admission),
        CallLine.lineAdmissions policy fresh (.new session) events =
          past.map PastTurn.admission ++ (present.toList.map PresentTurn.admission ++ waiting) ∧
        contacts = past.flatMap PastTurn.contacts ++ present.toList.flatMap PresentTurn.contacts ∧
        (after (CallLine.step policy fresh) (.new session) events).calls =
          (present.toList.map PresentTurn.admission ++ waiting).map
            (fun a => (a.number, a.pending)) ∧
        CallLine.lineEndings policy fresh (.new session) events = past.map PastTurn.ending ∧
        (∀ t ∈ past, t.Allowed policy) ∧ (∀ t ∈ present, t.Allowed policy) ∧
        contacts.filterMap Contact.event? =
          (past.map PastTurn.admission ++ present.toList.map PresentTurn.admission).filterMap
            fun a => a.call.event? := by
  constructor
  · intro server s commands deals log
    exact ⟨s.commands_deals policy fresh server commands, s.log_after policy fresh server commands,
      fun deal mem => SessionRun.keeps_of_mem_deals policy fresh server s commands mem,
      s.events_after policy fresh server commands⟩
  · intro session events contacts
    obtain ⟨past, present, waiting, h⟩ := CallLine.turns policy fresh session events
    exact ⟨past, present, waiting, h.admitted_eq, h.contacts_eq, h.calls_eq, h.ended_eq, h.allowed,
      fun t now => h.present_allowed now, h.events_eq⟩

end ServerDriven
