/-
Module: ServerDriven.Proofs.Screen.CacheRun
Purpose: The steps that callers and fetches take on a cache, in any order, and what a screen's slot
  goes through meanwhile.
Main exports:
  SlotEvent, Slot.step, CacheEvent, CacheEvent.at?_cases, ScreenCache.step, ScreenCache.after,
  ScreenCache.published, Slot.answer?_cases, Slot.step_cases, ScreenCache.slot_embeds
-/
import ServerDriven.Proofs.Run
import ServerDriven.Screen.Cache

namespace ServerDriven

open Run

/-! ### One screen -/

/-- What can happen to the slot of a screen. -/
inductive SlotEvent where
  | refresh
  /-- A fetch goes on and asks the source. -/
  | call (generation : Nat)
  /-- The source answers a fetch at a time, or breaks down. -/
  | answer (generation : Nat) (outcome : Except FetchError ScreenSchema) (now : Int)
  /-- The abort of a fetch takes effect. -/
  | cancel (generation : Nat)

def SlotEvent.isRefresh : SlotEvent → Bool
  | .refresh => true
  | _ => false

namespace Slot

/-- What becomes of a slot.  An event that cannot happen changes nothing. -/
def step (policy : RetryPolicy) (slot : Slot) : SlotEvent → Slot
  | .refresh => slot.refresh policy
  | .call generation => (slot.call? generation).getD slot
  | .answer generation outcome now =>
    ((slot.answer? policy generation outcome now).map Prod.snd).getD slot
  | .cancel generation => slot.cancel generation

def after (policy : RetryPolicy) (events : List SlotEvent) : Slot :=
  Run.after (step policy) {} events

/-- The values on the channel of a screen, from the beginning. -/
def published (policy : RetryPolicy) (events : List SlotEvent) : List ScreenResult :=
  Run.published (step policy) Slot.result {} events

end Slot

/-! ### The slot after an operation -/

/-- A change of what is under one number, seen from what is under any number. -/
theorem find?_change {α : Type} (number : α → Nat) {f : α → α}
    (keeps : ∀ a, number (f a) = number a) (changed other : Nat) (all : List α) :
    (all.map fun a => if number a = changed then f a else a).find? (number · = other) =
      if other = changed then (all.find? (number · = other)).map f
      else all.find? (number · = other) := by
  induction all with
  | nil =>
      simp
  | cons a rest ih =>
      by_cases here : number a = other
      · by_cases same : other = changed
        · simp [here, same, keeps]
        · simp [here, same]
      · have there : number (if number a = changed then f a else a) ≠ other := by
          split
          · rwa [keeps]
          · exact here
        simp [here, there, ih]

namespace Slot

variable (policy : RetryPolicy) (slot : Slot) (generation : Nat)

section ChangeFetch

variable (f : Fetch → Fetch)

@[simp] theorem result_changeFetch : (slot.changeFetch generation f).result = slot.result := rfl

@[simp] theorem generation_changeFetch :
    (slot.changeFetch generation f).generation = slot.generation := rfl

@[simp] theorem inFlight_changeFetch :
    (slot.changeFetch generation f).inFlight = slot.inFlight := rfl

/-- Only the fetch of the generation changes. -/
theorem fetch?_changeFetch (keeps : ∀ fetch, (f fetch).generation = fetch.generation)
    (other : Nat) :
    (slot.changeFetch generation f).fetch? other =
      if other = generation then (slot.fetch? other).map f else slot.fetch? other := by
  obtain ⟨_, _, _, fetches⟩ := slot
  exact find?_change Fetch.generation keeps generation other fetches

/-- A fetch that there is not does not change. -/
theorem changeFetch_of_none {slot : Slot} {generation : Nat}
    (absent : slot.fetch? generation = none) (f : Fetch → Fetch) :
    slot.changeFetch generation f = slot := by
  have others : ∀ fetch ∈ slot.fetches,
      (if fetch.generation = generation then f fetch else fetch) = fetch := by
    intro fetch mem
    have other := List.find?_eq_none.mp absent fetch mem
    rw [if_neg fun same => other (decide_eq_true same)]
  rw [changeFetch, List.map_congr_left others, List.map_id'']
  intro fetch
  rfl

end ChangeFetch

@[simp] theorem result_abort : slot.abort.result = slot.result := by
  unfold abort
  cases slot.inFlight <;> rfl

@[simp] theorem generation_abort : slot.abort.generation = slot.generation := by
  unfold abort
  cases slot.inFlight <;> rfl

/-- An abort takes effect on the fetch in flight. -/
theorem fetch?_abort (other : Nat) :
    slot.abort.fetch? other =
      (slot.fetch? other).map fun fetch =>
        { fetch with isAborted := fetch.isAborted || slot.inFlight = some other } := by
  unfold abort
  cases slot.inFlight with
  | none =>
      simp
  | some current =>
      have changed := slot.fetch?_changeFetch current
        (fun fetch => { fetch with isAborted := true }) (fun _ => rfl) other
      refine changed.trans ?_
      by_cases same : other = current
      · simp [same]
      · simp [same, Ne.symm same]

@[simp] theorem result_refresh : (slot.refresh policy).result = slot.result.publish .loading := by
  simp [refresh]

@[simp] theorem generation_refresh : (slot.refresh policy).generation = slot.generation + 1 := by
  simp [refresh]

@[simp] theorem inFlight_refresh :
    (slot.refresh policy).inFlight = some (slot.generation + 1) := by
  simp [refresh]

theorem fetch?_refresh_newest :
    (slot.refresh policy).fetch? (slot.generation + 1) =
      some ⟨slot.generation + 1, Backoff.start policy, .waiting, false⟩ := by
  simp [refresh, fetch?]

theorem fetch?_refresh_of_ne {other : Nat} (h : other ≠ slot.generation + 1) :
    (slot.refresh policy).fetch? other = slot.abort.fetch? other := by
  simp [refresh, fetch?, h.symm]

/-- A fetch of a slot that was refreshed is the newest or was there before. -/
theorem fetch?_refresh_cases {policy : RetryPolicy} {slot : Slot} {n : Nat} {fetch : Fetch}
    (found : (slot.refresh policy).fetch? n = some fetch) :
    (n = slot.generation + 1 ∧ fetch = ⟨n, Backoff.start policy, .waiting, false⟩) ∨
      (n ≠ slot.generation + 1 ∧ ∃ old, slot.fetch? n = some old ∧
        fetch = { old with isAborted := old.isAborted || slot.inFlight = some n }) := by
  by_cases newest : n = slot.generation + 1
  · subst newest
    rw [fetch?_refresh_newest] at found
    cases found
    exact .inl ⟨rfl, rfl⟩
  · rw [fetch?_refresh_of_ne policy slot newest, fetch?_abort] at found
    obtain ⟨old, was, rfl⟩ := Option.map_eq_some_iff.mp found
    exact .inr ⟨newest, old, was, rfl⟩

/-- No refresh takes a fetch away. -/
theorem fetch?_eq_none_of_refresh {policy : RetryPolicy} {slot : Slot} {n : Nat}
    (absent : (slot.refresh policy).fetch? n = none) : slot.fetch? n = none := by
  by_cases newest : n = slot.generation + 1
  · rw [newest, fetch?_refresh_newest] at absent
    cases absent
  · rwa [fetch?_refresh_of_ne policy slot newest, fetch?_abort, Option.map_eq_none_iff] at absent

theorem fetch?_finish (result : ScreenResult) (other : Nat) :
    (slot.finish generation result).fetch? other =
      if other = generation then
        (slot.fetch? other).map fun fetch => { fetch with phase := .ended }
      else slot.fetch? other := by
  rw [← fetch?_changeFetch slot generation (fun fetch => { fetch with phase := .ended })
    (fun _ => rfl)]
  unfold finish
  dsimp only
  split
  · rfl
  · rfl

@[simp] theorem generation_finish (result : ScreenResult) :
    (slot.finish generation result).generation = slot.generation := by
  unfold finish
  dsimp only
  split
  · rfl
  · rfl

/-- The fetch of the latest refresh publishes what it ends with. -/
theorem finish_newest (result : ScreenResult) :
    (slot.finish slot.generation result).result = slot.result.publish result ∧
      (slot.finish slot.generation result).inFlight = none := by
  simp [finish]

/-- Any other fetch ends without a word. -/
theorem finish_of_ne (result : ScreenResult) (h : generation ≠ slot.generation) :
    (slot.finish generation result).result = slot.result ∧
      (slot.finish generation result).inFlight = slot.inFlight := by
  simp [finish, h.symm]

/-- The fetches of a slot are those of its refreshes. -/
def IsNumbered : Prop := ∀ n, (slot.fetch? n).isSome → 0 < n ∧ n ≤ slot.generation

namespace IsNumbered

variable {policy slot generation}

theorem fetch?_next (h : slot.IsNumbered) : slot.fetch? (slot.generation + 1) = none := by
  rw [Option.eq_none_iff_forall_ne_some]
  intro fetch found
  have bounds := h _ (Option.isSome_of_eq_some found)
  omega

theorem refresh (h : slot.IsNumbered) : (slot.refresh policy).IsNumbered := by
  intro n some
  obtain ⟨fetch, found⟩ := Option.isSome_iff_exists.mp some
  rw [generation_refresh]
  rcases fetch?_refresh_cases found with ⟨newest, -⟩ | ⟨-, old, was, -⟩
  · omega
  · have bounds := h n (Option.isSome_of_eq_some was)
    omega

theorem change (h : slot.IsNumbered) {slot' : Slot} {f : Fetch → Fetch}
    (same : slot'.generation = slot.generation)
    (fetches : ∀ n, slot'.fetch? n =
      if n = generation then (slot.fetch? n).map f else slot.fetch? n) : slot'.IsNumbered := by
  intro n some
  rw [fetches] at some
  rw [same]
  split at some
  · rw [Option.isSome_map] at some
    exact h n some
  · exact h n some

end IsNumbered

end Slot

/-! ### The three kinds of steps -/

namespace ScreenResult

/-- Whatever a fetch ends with is the last that comes of it. -/
@[simp] theorem isTerminal_ofOutcome (now : Int) (outcome : Except FetchError ScreenSchema) :
    (ofOutcome now outcome).isTerminal = true := by
  cases outcome <;> rfl

end ScreenResult

/-- What may become of a fetch that neither ends nor is aborted: only an aborted one is cancelled,
and what has ended stays so. -/
structure Fetch.GoesOn (before after : Fetch) : Prop where
  isAborted : after.isAborted = before.isAborted
  ended : after.phase = .ended ↔ before.phase = .ended
  underWay : before.isAborted = false → before.isOver = false → after.isOver = false

theorem Fetch.GoesOn.refl (fetch : Fetch) : fetch.GoesOn fetch := ⟨rfl, .rfl, fun _ h => h⟩

namespace Slot

variable (policy : RetryPolicy) (slot : Slot) (generation : Nat)

theorem changeFetch_id : slot.changeFetch generation id = slot := by
  obtain ⟨_, _, _, fetches⟩ := slot
  simp [changeFetch]

/-- Only a fetch that waits asks the source. -/
theorem call?_cases :
    slot.call? generation = none ∨
      ∃ fetch, slot.fetch? generation = some fetch ∧ fetch.phase = .waiting ∧
        slot.call? generation =
          some (slot.changeFetch generation fun fetch => { fetch with phase := .asking }) := by
  unfold call?
  cases found : slot.fetch? generation with
  | none =>
      exact .inl rfl
  | some fetch =>
      obtain ⟨_, _, phase, _⟩ := fetch
      cases phase with
      | waiting => exact .inr ⟨_, rfl, rfl, rfl⟩
      | asking => exact .inl rfl
      | ended => exact .inl rfl
      | cancelled => exact .inl rfl

/-- Whether a fetch waits for an answer. -/
def isAsking : Bool := (slot.fetch? generation).any (·.phase = .asking)

theorem isAsking_iff {slot : Slot} {generation : Nat} :
    slot.isAsking generation = true ↔
      ∃ fetch, slot.fetch? generation = some fetch ∧ fetch.phase = .asking := by
  simp [isAsking, Option.any_eq_true]

/-- Only a fetch that has asked takes an answer.  It pauses if it may try again, and else it ends
with the answer. -/
theorem answer?_cases (outcome : Except FetchError ScreenSchema) (now : Int) :
    (slot.isAsking generation = false ∧ slot.answer? policy generation outcome now = none) ∨
      ∃ fetch, slot.fetch? generation = some fetch ∧ fetch.phase = .asking ∧
        ((∃ pause backoff,
            fetch.backoff.next? policy FetchError.isRetryable outcome = some (pause, backoff) ∧
            slot.answer? policy generation outcome now =
              some (some pause, slot.changeFetch generation fun fetch =>
                { fetch with phase := .waiting, backoff })) ∨
          fetch.backoff.next? policy FetchError.isRetryable outcome = none ∧
            slot.answer? policy generation outcome now =
              some (none, slot.finish generation (.ofOutcome now outcome))) := by
  unfold answer? isAsking
  cases found : slot.fetch? generation with
  | none =>
      exact .inl ⟨rfl, rfl⟩
  | some fetch =>
      obtain ⟨_, backoff, phase, _⟩ := fetch
      cases phase with
      | asking =>
          refine .inr ⟨_, rfl, rfl, ?_⟩
          dsimp only
          split
          · rename_i pause backoff' next
            exact .inl ⟨pause, backoff', next, rfl⟩
          · rename_i none
            exact .inr ⟨none, rfl⟩
      | waiting => exact .inl ⟨rfl, rfl⟩
      | ended => exact .inl ⟨rfl, rfl⟩
      | cancelled => exact .inl ⟨rfl, rfl⟩

/-- A step that only moves a fetch on its way. -/
def MovesOn (policy : RetryPolicy) (slot : Slot) (event : SlotEvent) : Prop :=
  ∃ generation f, (∀ fetch, (f fetch).generation = fetch.generation) ∧
    (∀ fetch, slot.fetch? generation = some fetch → fetch.GoesOn (f fetch)) ∧
    slot.step policy event = slot.changeFetch generation f

/-- A step that ends a fetch: the source has answered it, and it ends with what comes of that. -/
structure Ends (policy : RetryPolicy) (slot : Slot) (event : SlotEvent) (generation : Nat)
    (result : ScreenResult) : Prop where
  answer : ∃ outcome now, event = .answer generation outcome now ∧ result = .ofOutcome now outcome
  asking : ∃ fetch, slot.fetch? generation = some fetch ∧ fetch.phase = .asking
  step_eq : slot.step policy event = slot.finish generation result

theorem Ends.isTerminal {policy : RetryPolicy} {slot : Slot} {event : SlotEvent} {generation : Nat}
    {result : ScreenResult} (ends : slot.Ends policy event generation result) :
    result.isTerminal = true := by
  obtain ⟨outcome, now, -, rfl⟩ := ends.answer
  exact ScreenResult.isTerminal_ofOutcome now outcome

theorem movesOn_of_step_eq {event : SlotEvent} (h : slot.step policy event = slot) :
    slot.MovesOn policy event :=
  ⟨0, id, fun _ => rfl, fun fetch _ => .refl fetch, by rw [h, changeFetch_id]⟩

/-- Nothing else can happen than that a screen is refreshed, a fetch ends, or a fetch moves on. -/
theorem step_cases (event : SlotEvent) :
    event = .refresh ∨
      (event ≠ .refresh ∧ ∃ generation result, slot.Ends policy event generation result) ∨
      (event ≠ .refresh ∧ slot.MovesOn policy event) := by
  cases event with
  | refresh =>
      exact .inl rfl
  | call generation =>
      refine .inr (.inr ⟨nofun, ?_⟩)
      rcases slot.call?_cases generation with h | ⟨fetch, found, waiting, h⟩
      · exact slot.movesOn_of_step_eq policy (by simp [step, h])
      · refine ⟨generation, fun fetch => { fetch with phase := .asking }, fun _ => rfl,
          fun other found' => ?_, by simp [step, h]⟩
        obtain rfl : fetch = other := Option.some.inj (found.symm.trans found')
        exact ⟨rfl, by simp [waiting], fun _ _ => by simp [Fetch.isOver]⟩
  | answer generation outcome now =>
      rcases slot.answer?_cases policy generation outcome now with
        ⟨-, h⟩ | ⟨fetch, found, asking, ⟨pause, backoff, -, h⟩ | ⟨-, h⟩⟩
      · exact .inr (.inr ⟨nofun, slot.movesOn_of_step_eq policy (by simp [step, h])⟩)
      · refine .inr (.inr ⟨nofun, generation,
          fun fetch => { fetch with phase := .waiting, backoff }, fun _ => rfl,
          fun other found' => ?_, by simp [step, h]⟩)
        obtain rfl : fetch = other := Option.some.inj (found.symm.trans found')
        exact ⟨rfl, by simp [asking], fun _ _ => by simp [Fetch.isOver]⟩
      · exact .inr (.inl ⟨nofun, generation, .ofOutcome now outcome, ⟨outcome, now, rfl, rfl⟩,
          ⟨fetch, found, asking⟩, by simp [step, h]⟩)
  | cancel generation =>
      refine .inr (.inr ⟨nofun, generation, _, fun fetch => ?_, fun fetch _ => ?_, rfl⟩)
      · split
        · rfl
        · rfl
      · split
        · rename_i aborted
          refine ⟨rfl, ?_, fun live => ?_⟩
          · have running := aborted.2
            simp only [Fetch.isOver, Bool.not_eq_true', decide_eq_false_iff_not, not_or] at running
            simp [running.1]
          · simp [live] at aborted
        · exact .refl fetch

/-- A slot's channel publishes one value at a time. -/
theorem follows_step (policy : RetryPolicy) (slot : Slot) (event : SlotEvent) :
    slot.result.Follows (slot.step policy event).result := by
  rcases slot.step_cases policy event with
    rfl | ⟨-, generation, result, ends⟩ | ⟨-, generation, f, -, -, next⟩
  · rw [Slot.step, result_refresh]
    exact .publish _ _
  · rw [ends.step_eq]
    by_cases newest : generation = slot.generation
    · rw [newest, (slot.finish_newest result).1]
      exact .publish _ _
    · rw [(slot.finish_of_ne generation result newest).1]
      exact .refl _
  · rw [next, result_changeFetch]
    exact .refl _

end Slot

/-! ### All screens -/

/-- What can happen to a cache: a caller asks for something, or a fetch takes a step. -/
inductive CacheEvent where
  /-- Observe a screen, and fetch it anew if that is wanted. -/
  | stream (id : String) (anew : Bool)
  | refresh (id : String)
  /-- Look at the latest result. -/
  | look (id : String)
  | call (id : String) (generation : Nat)
  | answer (id : String) (generation : Nat) (outcome : Except FetchError ScreenSchema) (now : Int)
  | cancel (id : String) (generation : Nat)

/-- Whether an event starts a refresh of a screen. -/
def CacheEvent.refreshes (id : String) : CacheEvent → Bool
  | .stream other anew => other = id ∧ anew
  | .refresh other => other = id
  | _ => false

/-- What an event means to the slot of a screen. -/
def CacheEvent.at? (id : String) : CacheEvent → Option SlotEvent
  | .stream other anew => if other = id ∧ anew then some .refresh else none
  | .refresh other => if other = id then some .refresh else none
  | .look _ => none
  | .call other generation => if other = id then some (.call generation) else none
  | .answer other generation outcome now =>
    if other = id then some (.answer generation outcome now) else none
  | .cancel other generation => if other = id then some (.cancel generation) else none

/-- An event of the slot of a screen comes from an event about that screen. -/
theorem CacheEvent.at?_cases {event : CacheEvent} {id : String} {inner : SlotEvent}
    (own : event.at? id = some inner) :
    (inner = .refresh ∧ event.refreshes id = true) ∨
      (∃ generation, inner = .call generation ∧ event = .call id generation) ∨
      (∃ generation outcome now, inner = .answer generation outcome now ∧
        event = .answer id generation outcome now) ∨
      ∃ generation, inner = .cancel generation ∧ event = .cancel id generation := by
  cases event with
  | stream other anew =>
      obtain ⟨wanted, ⟨⟩⟩ := Option.ite_none_right_eq_some.mp own
      exact .inl ⟨rfl, decide_eq_true wanted⟩
  | refresh other =>
      obtain ⟨same, ⟨⟩⟩ := Option.ite_none_right_eq_some.mp own
      exact .inl ⟨rfl, decide_eq_true same⟩
  | look other =>
      cases own
  | call other generation =>
      obtain ⟨rfl, ⟨⟩⟩ := Option.ite_none_right_eq_some.mp own
      exact .inr (.inl ⟨generation, rfl, rfl⟩)
  | answer other generation outcome now =>
      obtain ⟨rfl, ⟨⟩⟩ := Option.ite_none_right_eq_some.mp own
      exact .inr (.inr (.inl ⟨generation, outcome, now, rfl, rfl⟩))
  | cancel other generation =>
      obtain ⟨rfl, ⟨⟩⟩ := Option.ite_none_right_eq_some.mp own
      exact .inr (.inr (.inr ⟨generation, rfl, rfl⟩))

namespace ScreenCache

/-- What becomes of a cache.  An event that cannot happen changes nothing. -/
def step (cache : ScreenCache) : CacheEvent → ScreenCache
  | .stream id anew =>
    let cache := cache.subscribe id
    if anew then cache.refresh id else cache
  | .refresh id => cache.refresh id
  | .look _ => cache
  | .call id generation => (cache.call? id generation).getD cache
  | .answer id generation outcome now =>
    ((cache.answer? id generation outcome now).map Prod.snd).getD cache
  | .cancel id generation => cache.cancel id generation

/-- A cache under a policy after some events. -/
def after (policy : RetryPolicy) (events : List CacheEvent) : ScreenCache :=
  Run.after step { policy } events

/-- The values on the channel of a screen, from the beginning. -/
def published (policy : RetryPolicy) (events : List CacheEvent) (id : String) :
    List ScreenResult :=
  Run.published step (fun cache => (cache.slot id).result) { policy } events

/-! ### The slot of one screen in a cache -/

theorem slot_set (cache : ScreenCache) (id : String) (slot : Slot) (other : String) :
    (cache.set id slot).slot other = if other = id then slot else cache.slot other := by
  by_cases h : other = id
  · simp [ScreenCache.slot, set, Entries.get?_put, h]
  · simp [ScreenCache.slot, set, Entries.get?_put, h]

theorem slot_of_get? {cache : ScreenCache} {id : String} {slot : Slot}
    (h : cache.slots.get? id = some slot) : cache.slot id = slot := by
  simp [ScreenCache.slot, h]

theorem slot_of_get?_none {cache : ScreenCache} {id : String}
    (h : cache.slots.get? id = none) : cache.slot id = {} := by
  simp [ScreenCache.slot, h]

@[simp] theorem policy_subscribe (cache : ScreenCache) (id : String) :
    (cache.subscribe id).policy = cache.policy := rfl

@[simp] theorem slot_subscribe (cache : ScreenCache) (id other : String) :
    (cache.subscribe id).slot other = cache.slot other := by
  rw [subscribe, slot_set]
  split
  · rename_i h
    rw [h]
  · rfl

theorem slot_refresh (cache : ScreenCache) (id other : String) :
    (cache.refresh id).slot other =
      if other = id then (cache.slot id).refresh cache.policy else cache.slot other := by
  rw [refresh, slot_set]

/-- A change of the slot of one screen, if it has one, seen from the slot of any screen. -/
theorem slot_change (cache : ScreenCache) (id : String) {f : Slot → Option Slot}
    (absent : (f {}).getD {} = {}) (other : String) :
    ((((cache.slots.get? id).bind f).map (cache.set id)).getD cache).slot other =
      if id = other then (f (cache.slot other)).getD (cache.slot other)
      else cache.slot other := by
  by_cases same : id = other
  · subst same
    cases found : cache.slots.get? id with
    | none =>
        simp [slot_of_get?_none found, absent]
    | some slot =>
        cases h : f slot with
        | none => simp [h, slot_of_get? found]
        | some slot' => simp [h, slot_of_get? found, slot_set]
  · cases (cache.slots.get? id).bind f with
    | none => simp [same]
    | some slot => simp [same, slot_set, Ne.symm same]

theorem cancel_eq (cache : ScreenCache) (id : String) (generation : Nat) :
    cache.cancel id generation =
      (((cache.slots.get? id).bind fun slot => some (slot.cancel generation)).map
        (cache.set id)).getD cache := by
  unfold cancel
  cases cache.slots.get? id <;> rfl

/-- Each event is an event of one slot, or of none. -/
theorem slot_step (cache : ScreenCache) (event : CacheEvent) (id : String) :
    (cache.step event).slot id =
      (event.at? id).elim (cache.slot id) ((cache.slot id).step cache.policy) := by
  cases event with
  | stream other anew =>
      by_cases same : other = id
      · cases anew with
        | false => simp [step, CacheEvent.at?]
        | true => simp [step, CacheEvent.at?, slot_refresh, same, Slot.step]
      · cases anew with
        | false => simp [step, CacheEvent.at?]
        | true => simp [step, CacheEvent.at?, slot_refresh, same, Ne.symm same]
  | refresh other =>
      by_cases same : other = id
      · simp [step, CacheEvent.at?, slot_refresh, same, Slot.step]
      · simp [step, CacheEvent.at?, slot_refresh, same, Ne.symm same]
  | look other =>
      rfl
  | call other generation =>
      have change := cache.slot_change other (f := Slot.call? generation) rfl id
      rw [CacheEvent.at?]
      split <;> simp_all [step, call?, Slot.step]
  | answer other generation outcome now =>
      have change := cache.slot_change other
        (f := fun slot => (slot.answer? cache.policy generation outcome now).map Prod.snd) rfl id
      rw [CacheEvent.at?]
      split <;> simp_all [step, answer?, Slot.step, Option.map_bind, Function.comp_def]
  | cancel other generation =>
      have change := cache.slot_change other (f := fun slot => some (slot.cancel generation)) rfl id
      rw [← cancel_eq] at change
      rw [step, change, CacheEvent.at?]
      split <;> rfl

theorem follows_step (id : String) (cache : ScreenCache) (event : CacheEvent) :
    (cache.slot id).result.Follows ((cache.step event).slot id).result := by
  rw [slot_step]
  cases event.at? id with
  | none =>
      exact .refl _
  | some event =>
      exact Slot.follows_step cache.policy (cache.slot id) event

@[simp] theorem policy_step (cache : ScreenCache) (event : CacheEvent) :
    (cache.step event).policy = cache.policy := by
  cases event with
  | stream id anew => cases anew <;> rfl
  | refresh id => rfl
  | look id => rfl
  | call id generation =>
      simp only [step, call?]
      cases (cache.slots.get? id).bind (Slot.call? generation) <;> rfl
  | answer id generation outcome now =>
      simp only [step, answer?]
      cases (cache.slots.get? id).bind (Slot.answer? cache.policy generation outcome now) <;> rfl
  | cancel id generation =>
      simp only [step, cancel]
      cases cache.slots.get? id <;> rfl

/-- The slot of a screen is a machine of its own. -/
theorem slot_embeds (policy : RetryPolicy) (id : String) :
    Embeds (fun cache => cache.policy = policy) step (Slot.step policy) (fun cache => cache.slot id)
      (fun _ event => event.at? id) where
  keeps _ _ h := by rw [policy_step, h]
  view_step cache event h := by rw [slot_step, h]

variable (policy : RetryPolicy) (events : List CacheEvent) (id : String)

theorem slot_after :
    (after policy events).slot id = Slot.after policy (events.filterMap (·.at? id)) := by
  rw [← projected_filterMap step _ { policy }]
  exact (slot_embeds policy id).view_after rfl events

theorem published_eq :
    published policy events id = Slot.published policy (events.filterMap (·.at? id)) := by
  rw [← projected_filterMap step _ { policy }]
  exact (slot_embeds policy id).published_eq Slot.result rfl events

end ScreenCache

end ServerDriven
