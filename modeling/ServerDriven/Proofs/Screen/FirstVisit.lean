/-
Module: ServerDriven.Proofs.Screen.FirstVisit
Purpose: Where screens are only gone to and back from, each is fetched once, on the first visit, and
  its fetch is left alone.
Main exports:
  SurfaceEvent.isAnew, SurfaceEvent.visit?, Slot.FetchedOnce, Surface.refreshes_iff,
  Surface.Toured, Surface.Toured.step, ScreenController.surfaceEvents,
  ScreenController.cacheEvents, ScreenController.first_visits_fetch
-/
import ServerDriven.Proofs.Screen.AtRest
import ServerDriven.Proofs.Screen.LatestRefresh

namespace ServerDriven

open Run

/-! ### Visits -/

/-- Whether an event has a screen fetched, whatever is known of it. -/
def CacheEvent.isAnew : CacheEvent → Bool
  | .stream _ anew => anew
  | .refresh _ => true
  | .look _ | .call .. | .answer .. | .cancel .. => false

namespace SurfaceEvent

/-- Whether an event has a screen fetched, whatever is known of it. -/
def isAnew : SurfaceEvent → Bool
  | .load _ anew => anew
  | .reload => true
  | .cache event => event.isAnew
  | .navigate .. | .back | .stop | .follow _ => false

/-- The screen that an event goes to. -/
def visit? : SurfaceEvent → Option String
  | .navigate id _ => some id
  | _ => none

end SurfaceEvent

/-! ### One screen -/

/-- Only what fetches a screen anew refreshes it. -/
theorem CacheEvent.at?_ne_refresh {event : CacheEvent} (calm : event.isAnew = false) (id : String) :
    event.at? id ≠ some .refresh := by
  intro own
  rcases CacheEvent.at?_cases own with
    ⟨-, refreshes⟩ | ⟨generation, ⟨⟩, -⟩ | ⟨generation, outcome, now, ⟨⟩, -⟩ | ⟨generation, ⟨⟩, -⟩
  cases event with
  | stream other anew =>
      cases calm
      cases (of_decide_eq_true refreshes).2
  | refresh other => cases calm
  | look other => cases refreshes
  | call other generation => cases refreshes
  | answer other generation outcome now => cases refreshes
  | cancel other generation => cases refreshes

namespace Slot

/-- A screen has been refreshed once, it is not idle any more, and its fetch was not aborted. -/
structure FetchedOnce (slot : Slot) : Prop where
  once : slot.generation = 1
  known : slot.result.value ≠ .idle
  spared : ∀ n fetch, slot.fetch? n = some fetch → fetch.isAborted = false

variable {slot : Slot} {policy : RetryPolicy} {event : SlotEvent}

theorem fetchedOnce_refresh (policy : RetryPolicy) : (({} : Slot).refresh policy).FetchedOnce where
  once := rfl
  known := nofun
  spared n fetch found := by
    rw [List.mem_singleton.mp (List.mem_of_find?_eq_some found)]

/-- Whatever else happens to a screen that was refreshed once leaves its fetch alone. -/
theorem FetchedOnce.step (h : slot.FetchedOnce) (noRefresh : event ≠ .refresh) :
    (slot.step policy event).FetchedOnce := by
  have known : (slot.step policy event).result.value ≠ .idle := by
    rcases slot.step_publishes policy event with same | ⟨value, notIdle, next⟩
    · rw [same]
      exact h.known
    · rw [next]
      exact notIdle
  rcases slot.step_cases policy event with
    refresh | ⟨-, generation, result, ends⟩ | ⟨-, generation, f, keeps, goesOn, next⟩
  · exact absurd refresh noRefresh
  · refine ⟨?_, known, fun n fetch found => ?_⟩
    · rw [ends.step_eq, generation_finish]
      exact h.once
    · rw [ends.step_eq, fetch?_finish] at found
      split at found
      · obtain ⟨old, was, rfl⟩ := Option.map_eq_some_iff.mp found
        exact h.spared n old was
      · exact h.spared n fetch found
  · refine ⟨?_, known, fun n fetch found => ?_⟩
    · rw [next]
      exact h.once
    · rw [next, fetch?_changeFetch slot generation f keeps] at found
      split at found
      · rename_i same
        obtain ⟨old, was, rfl⟩ := Option.map_eq_some_iff.mp found
        rw [(goesOn old (same ▸ was)).isAborted]
        exact h.spared n old was
      · exact h.spared n fetch found

/-- Nothing but a refresh happens to a screen that was never asked for. -/
theorem step_fresh (noRefresh : event ≠ .refresh) : ({} : Slot).step policy event = {} := by
  cases event with
  | refresh => exact absurd rfl noRefresh
  | call generation => rfl
  | answer generation outcome now => rfl
  | cancel generation => rfl

end Slot

/-! ### A surface -/

namespace Surface

variable (s : Surface) {event : SurfaceEvent}

/-- A screen has to be fetched as long as it is idle. -/
theorem needsFetch_iff (id : String) :
    s.needsFetch id = true ↔ (s.cache.slot id).result.value = .idle := by
  unfold needsFetch ScreenCache.current?
  cases found : s.cache.slots.get? id with
  | none =>
      rw [ScreenCache.slot_of_get?_none found]
      exact iff_of_true rfl rfl
  | some slot =>
      rw [ScreenCache.slot_of_get? found, Option.map_some]
      cases slot.result.value with
      | idle => exact iff_of_true rfl rfl
      | loading => exact iff_of_false nofun nofun
      | success schema receivedAt => exact iff_of_false nofun nofun
      | failure e => exact iff_of_false nofun nofun

theorem slot_step (event : SurfaceEvent) (id : String) :
    (s.step event).cache.slot id =
      ((s.cacheEvent? event).bind (·.at? id)).elim (s.cache.slot id)
        ((s.cache.slot id).step s.cache.policy) := by
  rw [cache_step]
  cases s.cacheEvent? event with
  | none => rfl
  | some event => exact s.cache.slot_step event id

/-- Where nothing is fetched anew, a screen is refreshed when it is gone to and has to be fetched,
and not otherwise. -/
theorem refreshes_iff (calm : event.isAnew = false) (id : String) :
    (s.cacheEvent? event).bind (·.at? id) = some .refresh ↔
      event.visit? = some id ∧ s.needsFetch id = true := by
  have observed (other : String) : (CacheEvent.stream other false).at? id ≠ some .refresh :=
    CacheEvent.at?_ne_refresh rfl id
  have elsewhere {event : SurfaceEvent} (none : event.visit? = none) :
      ¬(event.visit? = some id ∧ s.needsFetch id = true) := by
    rw [none]
    rintro ⟨⟨⟩, -⟩
  cases event with
  | load other anew =>
      cases calm
      exact iff_of_false (observed other) (elsewhere rfl)
  | navigate other clear =>
      by_cases same : other = id
      · subst same
        simp [cacheEvent?, CacheEvent.at?, SurfaceEvent.visit?]
      · simp [cacheEvent?, CacheEvent.at?, SurfaceEvent.visit?, same]
  | back =>
      refine iff_of_false ?_ (elsewhere rfl)
      unfold cacheEvent?
      cases s.history.head? with
      | none => rintro ⟨⟩
      | some other => exact observed other
  | reload =>
      cases calm
  | stop =>
      refine iff_of_false ?_ (elsewhere rfl)
      rintro ⟨⟩
  | follow generation =>
      refine iff_of_false ?_ (elsewhere rfl)
      rintro ⟨⟩
  | cache event =>
      exact iff_of_false (CacheEvent.at?_ne_refresh calm id) (elsewhere rfl)

/-- Where screens are only gone to and back from, those that were visited have been fetched once, and
of the others nothing was ever asked. -/
structure Toured (s : Surface) (visits : List String) : Prop where
  fetched : ∀ id ∈ visits, (s.cache.slot id).FetchedOnce
  fresh : ∀ id, id ∉ visits → s.cache.slot id = {}

variable {s} {visits : List String}

theorem toured_start (policy : RetryPolicy) : Toured { cache := { policy } } [] where
  fetched := nofun
  fresh _ _ := rfl

theorem Toured.step (h : s.Toured visits) (calm : event.isAnew = false) :
    (s.step event).Toured (visits ++ event.visit?.toList) := by
  have refreshes := s.refreshes_iff calm
  constructor
  case fetched =>
    intro id visited
    rw [slot_step]
    by_cases before : id ∈ visits
    · -- It left idle on an earlier visit, so that it is not fetched again.
      have once := h.fetched id before
      have noRefresh : (s.cacheEvent? event).bind (·.at? id) ≠ some .refresh := by
        intro refresh
        exact once.known ((s.needsFetch_iff id).mp ((refreshes id).mp refresh).2)
      cases means : (s.cacheEvent? event).bind (·.at? id) with
      | none => exact once
      | some slotEvent =>
          rw [means] at noRefresh
          exact once.step fun same => noRefresh (congrArg some same)
    · have first : event.visit? = some id := by
        rcases List.mem_append.mp visited with earlier | now
        · exact absurd earlier before
        · exact Option.mem_toList.mp now
      have fresh := h.fresh id before
      have needs : s.needsFetch id = true := by
        rw [needsFetch_iff, fresh]
        rfl
      rw [(refreshes id).mpr ⟨first, needs⟩, fresh]
      exact Slot.fetchedOnce_refresh s.cache.policy
  case fresh =>
    intro id never
    rw [List.mem_append, not_or, Option.mem_toList] at never
    obtain ⟨before, now⟩ := never
    have noRefresh : (s.cacheEvent? event).bind (·.at? id) ≠ some .refresh :=
      fun refresh => now ((refreshes id).mp refresh).1
    rw [slot_step, h.fresh id before]
    cases means : (s.cacheEvent? event).bind (·.at? id) with
    | none => rfl
    | some slotEvent =>
        rw [means] at noRefresh
        exact Slot.step_fresh fun same => noRefresh (congrArg some same)

theorem toured_after (policy : RetryPolicy) {events : List SurfaceEvent}
    (calm : ∀ event ∈ events, event.isAnew = false) :
    (Run.after step { cache := { policy } } events).Toured
      (events.filterMap SurfaceEvent.visit?) := by
  induction events using List.reverseRecOn with
  | nil =>
      exact toured_start policy
  | append_singleton events event ih =>
      have before := ih fun event mem => calm event (List.mem_append_left _ mem)
      have next := before.step (calm event (List.mem_append_right _ List.mem_cons_self))
      rw [after_concat, List.filterMap_append]
      cases means : event.visit? with
      | none => simpa [means] using next
      | some id => simpa [means] using next

/-- The cache of a surface is a machine of its own. -/
theorem cache_embeds :
    Embeds (fun _ => True) step ScreenCache.step Surface.cache cacheEvent? where
  keeps _ _ _ := trivial
  view_step s event _ := s.cache_step event

end Surface

/-! ### Controllers -/

namespace ScreenController

/-- What a run of a controller on a new cache means to its surface. -/
def surfaceEvents (policy : RetryPolicy) (events : List ControllerEvent) : List SurfaceEvent :=
  projected step surfaceEvent? { surface := { cache := { policy } } } events

/-- What a run of a controller on a new cache means to the cache. -/
def cacheEvents (policy : RetryPolicy) (events : List ControllerEvent) : List CacheEvent :=
  projected Surface.step Surface.cacheEvent? { cache := { policy } } (surfaceEvents policy events)

variable (policy : RetryPolicy) (events : List ControllerEvent)

theorem surface_after :
    (after { policy } events).surface =
      Run.after Surface.step { cache := { policy } } (surfaceEvents policy events) :=
  surface_embeds.view_after trivial events

theorem cache_after :
    (after { policy } events).surface.cache = ScreenCache.after policy (cacheEvents policy events) := by
  rw [surface_after]
  exact Surface.cache_embeds.view_after trivial (surfaceEvents policy events)

/-- The refreshes of a screen are counted by its slot. -/
theorem generation_eq (id : String) :
    ((after { policy } events).surface.cache.slot id).generation =
      (cacheEvents policy events).countP (·.refreshes id) := by
  rw [cache_after, ScreenCache.slot_after, Slot.generation_after, ScreenCache.countP_refreshes]

/-- A first visit fetches a screen, and nothing else does.

In any run of a controller on a new cache in which screens are gone to and back from, but nothing is
fetched anew, one refresh is started of each screen that was ever gone to and none of any other,
whatever the fetches come to and whenever they end, and no fetch is aborted. -/
theorem first_visits_fetch
    (calm : ∀ event ∈ surfaceEvents policy events, event.isAnew = false) (id : String) :
    let visits := (surfaceEvents policy events).filterMap SurfaceEvent.visit?
    let slot := (after { policy } events).surface.cache.slot id
    (cacheEvents policy events).countP (·.refreshes id) = (if id ∈ visits then 1 else 0) ∧
      slot.generation = (if id ∈ visits then 1 else 0) ∧
      ∀ n fetch, slot.fetch? n = some fetch → fetch.isAborted = false := by
  intro visits slot
  have toured : (after { policy } events).surface.Toured visits := by
    rw [surface_after]
    exact Surface.toured_after policy calm
  have counted : slot.generation = _ := generation_eq policy events id
  rw [← counted]
  by_cases visited : id ∈ visits
  · have once := toured.fetched id visited
    rw [if_pos visited]
    exact ⟨once.once, once.once, once.spared⟩
  · have fresh : slot = {} := toured.fresh id visited
    rw [if_neg visited, fresh]
    exact ⟨rfl, rfl, nofun⟩

/-- Two screens are gone to at once and the first is gone back to while its fetch is under way.  It
fails, and the surface goes to the screen once more, forgetting the way back. -/
def roundAbout : List ControllerEvent :=
  [.dispatch (.batch [.leaf (.navigate "a" false), .leaf (.navigate "b" false)]),
    .work, .work, .work, .surface (.cache (.call "a" 1)), .dispatch (.leaf .navigateBack),
    .work, .work, .work, .surface (.cache (.answer "a" 1 (.error (.panicked "no")) 5)),
    .dispatch (.leaf (.navigate "a" true)), .work, .work, .work]

/-- The first screen is fetched once all the same. -/
theorem roundAbout_fetches :
    (surfaceEvents .once roundAbout).filterMap SurfaceEvent.visit? = ["a", "b", "a"] ∧
      (cacheEvents .once roundAbout).countP (·.refreshes "a") = 1 ∧
      ((after { policy := .once } roundAbout).surface.cache.slot "a").result.value =
        .failure (.panicked "no") := by
  have calm : ∀ event ∈ surfaceEvents .once roundAbout, event.isAnew = false := by
    have all : (surfaceEvents .once roundAbout).all (fun event => !event.isAnew) = true := rfl
    intro event mem
    simpa using List.all_eq_true.mp all event mem
  exact ⟨rfl, (first_visits_fetch .once roundAbout calm "a").1, rfl⟩

end ScreenController

end ServerDriven
