/-
Module: ServerDriven.Proofs.Screen.FetchTraffic
Purpose: A fetch of a screen that was superseded asks nothing more, and none asks too often, whatever
  is done about the screens of a cache.
Main exports:
  ScreenCache.traffic, ScreenCache.HeedsAborts, ScreenCache.traffic_eq, ScreenCache.traffic_filter,
  ScreenCache.superseded_fetches_fall_silent
-/
import ServerDriven.Proofs.Screen.FetchAudit

namespace ServerDriven

open Run FetchNote

/-! ### Observing -/

/-- Whether an event only observes a screen. -/
def CacheEvent.observes : CacheEvent → Bool
  | .stream _ anew => !anew
  | .look _ => true
  | _ => false

theorem CacheEvent.at?_of_observes {event : CacheEvent} (observes : event.observes = true)
    (id : String) : event.at? id = none := by
  cases event with
  | stream other anew =>
      rw [CacheEvent.observes, Bool.not_eq_true'] at observes
      simp [CacheEvent.at?, observes]
  | look other => rfl
  | refresh other => cases observes
  | call other generation => cases observes
  | answer other generation outcome now => cases observes
  | cancel other generation => cases observes

/-! ### What there is to see of a cache -/

namespace ScreenCache

/-- What there is to see of the fetches of a screen at an event. -/
def seen (id : String) (cache : ScreenCache) : CacheEvent → List FetchNote
  | .stream other anew => if other = id ∧ anew then [.starts] else []
  | .refresh other => if other = id then [.starts] else []
  | .call other generation =>
    if other = id ∧ (cache.call? other generation).isSome then [.asks generation] else []
  | .answer other generation outcome now =>
    if other = id ∧ (cache.answer? other generation outcome now).isSome then
      [.hears generation outcome]
    else []
  | .look _ | .cancel .. => []

/-- All that there is to see of the fetches of a screen in a run. -/
def traffic (policy : RetryPolicy) (events : List CacheEvent) (id : String) : List FetchNote :=
  noted step (seen id) { policy } events

/-- Whether an aborted fetch goes on at an event. -/
def resumesAborted (cache : ScreenCache) : CacheEvent → Bool
  | .call id generation | .answer id generation _ _ =>
    (cache.fetch? id generation).any (·.isDoomed)
  | _ => false

/-- No fetch goes on that was aborted. -/
def HeedsAborts (policy : RetryPolicy) (events : List CacheEvent) : Prop :=
  hits step resumesAborted { policy } events = []

variable (policy : RetryPolicy) (events : List CacheEvent) (id : String)

theorem fetch?_eq (cache : ScreenCache) (generation : Nat) :
    cache.fetch? id generation = (cache.slot id).fetch? generation := by
  cases found : cache.slots.get? id with
  | none => simp [fetch?, found, slot_of_get?_none found, Slot.fetch?]
  | some slot => simp [fetch?, found, slot_of_get? found]

theorem isSome_call? (cache : ScreenCache) (generation : Nat) :
    (cache.call? id generation).isSome = ((cache.slot id).call? generation).isSome := by
  cases found : cache.slots.get? id with
  | none => simp [call?, found, slot_of_get?_none found, Slot.call?, Slot.fetch?]
  | some slot => simp [call?, found, slot_of_get? found]

theorem isSome_answer? (cache : ScreenCache) (generation : Nat)
    (outcome : Except FetchError ScreenSchema) (now : Int) :
    (cache.answer? id generation outcome now).isSome =
      ((cache.slot id).answer? cache.policy generation outcome now).isSome := by
  cases found : cache.slots.get? id with
  | none => simp [answer?, found, slot_of_get?_none found, Slot.answer?, Slot.fetch?]
  | some slot => simp [answer?, found, slot_of_get? found]

/-- What there is to see of a screen is what there is to see of its slot. -/
theorem seen_eq (cache : ScreenCache) (event : CacheEvent) :
    cache.seen id event =
      (event.at? id).elim [] ((cache.slot id).traffic cache.policy) := by
  cases event with
  | stream other anew =>
      rw [seen, CacheEvent.at?]
      split <;> rfl
  | refresh other =>
      rw [seen, CacheEvent.at?]
      split <;> rfl
  | look other => rfl
  | call other generation =>
      by_cases same : other = id
      · subst same
        simp [seen, CacheEvent.at?, Slot.traffic, isSome_call?]
      · simp [seen, CacheEvent.at?, same]
  | answer other generation outcome now =>
      by_cases same : other = id
      · subst same
        simp [seen, CacheEvent.at?, Slot.traffic, isSome_answer?]
      · simp [seen, CacheEvent.at?, same]
  | cancel other generation =>
      rw [seen, CacheEvent.at?]
      split <;> rfl

/-- An aborted fetch that goes on at an event of a slot does so at an event of the cache. -/
theorem resumesAborted_of_slot (cache : ScreenCache) (event : CacheEvent)
    (resumes : (event.at? id).any (cache.slot id).resumesAborted = true) :
    cache.resumesAborted event = true := by
  obtain ⟨inner, own, goesOn⟩ := (Option.any_eq_true _ _).mp resumes
  rcases CacheEvent.at?_cases own with
    ⟨rfl, -⟩ | ⟨generation, rfl, rfl⟩ | ⟨generation, outcome, now, rfl, rfl⟩ | ⟨generation, rfl, -⟩
  · cases goesOn
  · rw [resumesAborted, fetch?_eq]
    exact goesOn
  · rw [resumesAborted, fetch?_eq]
    exact goesOn
  · cases goesOn

theorem traffic_eq :
    traffic policy events id =
      noted (Slot.step policy) (Slot.traffic policy) {} (events.filterMap (·.at? id)) := by
  rw [← projected_filterMap step _ { policy }]
  refine (slot_embeds policy id).noted_eq (fun cache event h => ?_) rfl events
  rw [seen_eq, h]

theorem HeedsAborts.slot {policy : RetryPolicy} {events : List CacheEvent}
    (heeds : HeedsAborts policy events) (id : String) :
    hits (Slot.step policy) Slot.resumesAborted {} (events.filterMap (·.at? id)) = [] := by
  rw [← projected_filterMap step _ { policy }]
  exact ((slot_embeds policy id).hits_eq_nil_iff rfl events).mp
    (hits_eq_nil_of_imp (resumesAborted_of_slot id) heeds)

/-- Whoever only observes screens is not seen in what their fetches do. -/
theorem traffic_filter :
    traffic policy events id = traffic policy (events.filter (!·.observes)) id := by
  rw [traffic_eq, traffic_eq, List.filterMap_filter]
  congr 2
  funext event
  cases observes : event.observes with
  | false => rfl
  | true => exact CacheEvent.at?_of_observes observes id

/-- Superseded fetches fall silent, and no fetch asks too often.

In a run that resumes no aborted fetch, a fetch of a screen only ever asks the source while no
refresh of the screen has followed its own, while fewer attempts than allowed were made, and first
of all or after a failure that may pass.  So none asks more often than allowed, and at any moment
only the fetch of the latest refresh can: every other one is over or aborted.  To observe screens
makes no difference to what their fetches do. -/
theorem superseded_fetches_fall_silent (heeds : HeedsAborts policy events) :
    Along (AsksWhenDue policy) [] (traffic policy events id) ∧
      (∀ generation, asked (traffic policy events id) generation ≤ max policy.times 1) ∧
      (∀ generation fetch, (after policy events).fetch? id generation = some fetch →
        fetch.isOver = false → fetch.isAborted = false →
        generation = (traffic policy events id).countP isStart) ∧
      traffic policy events id = traffic policy (events.filter (!·.observes)) id := by
  obtain ⟨due, books⟩ := Slot.audited policy (heeds.slot id)
  rw [← traffic_eq] at due books
  refine ⟨due, books.asked_le, fun generation fetch found goesOn spared => ?_,
    traffic_filter policy events id⟩
  rw [fetch?_eq, slot_after] at found
  rw [← books.numbered]
  exact books.eq_generation found goesOn spared

/-- A fetch is superseded in its pause.  The next one asks once more, and learns that there is no
such screen. -/
def supersededInPause : List CacheEvent :=
  [.stream "home" true, .call "home" 1, .answer "home" 1 (.error (.status 503)) 0, .look "home",
    .refresh "home", .cancel "home" 1, .call "home" 1, .call "home" 2,
    .answer "home" 2 (.error (.notFound "home")) 5]

/-- The fetches ask once each, since the abort of the first is heeded. -/
theorem supersededInPause_silent :
    HeedsAborts { times := 2 } supersededInPause ∧
      traffic { times := 2 } supersededInPause "home" =
        [.starts, .asks 1, .hears 1 (.error (.status 503)), .starts, .asks 2,
          .hears 2 (.error (.notFound "home"))] ∧
      ∀ generation, asked (traffic { times := 2 } supersededInPause "home") generation ≤ 2 := by
  have heeds : HeedsAborts { times := 2 } supersededInPause := rfl
  exact ⟨heeds, rfl, (superseded_fetches_fall_silent _ _ "home" heeds).2.1⟩

end ScreenCache

end ServerDriven
