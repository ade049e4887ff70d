/-
Module: ServerDriven.Proofs.Screen.Independence
Purpose: Screens are cached independently of each other, and all handles of a cache are one cache.
Main exports:
  CacheEvent.screen, CacheReply, Slot.own, ScreenCache.reply, ScreenCache.get?_step,
  ScreenCache.AlikeAt, ScreenCache.Alike, ScreenCache.step_comm, ScreenCache.replies,
  ScreenCache.noted_own, CacheHandles, CacheHandles.step, CacheHandles.cache_embeds,
  ScreenCache.screens_are_independent
-/
import ServerDriven.Proofs.Screen.CacheRun

namespace ServerDriven

open Run

/-! ### What is done about one screen -/

/-- The screen that an event is about. -/
def CacheEvent.screen : CacheEvent → String
  | .stream id _ | .refresh id | .look id => id
  | .call id _ | .answer id _ _ _ | .cancel id _ => id

/-- What whoever takes a step on a cache learns from it. -/
inductive CacheReply where
  /-- The latest result, if there is one. -/
  | sees (result : Option ScreenResult)
  /-- The number of the fetch that was started. -/
  | starts (generation : Nat)
  /-- Whether a fetch asks the source. -/
  | asks (goesOn : Bool)
  /-- Whether the answer was waited for, and the pause after it if the fetch goes on. -/
  | hears (answered : Option (Option Duration))
  | stops

/-- What becomes of the slot of a screen, or of its absence, by an event about that screen. -/
def Slot.own (policy : RetryPolicy) (slot? : Option Slot) : CacheEvent → Option Slot
  | .stream _ anew => some (if anew then (slot?.getD {}).refresh policy else slot?.getD {})
  | .refresh _ => some ((slot?.getD {}).refresh policy)
  | .look _ => slot?
  | .call _ generation => slot?.map fun slot => (slot.call? generation).getD slot
  | .answer _ generation outcome now =>
    slot?.map fun slot => ((slot.answer? policy generation outcome now).map Prod.snd).getD slot
  | .cancel _ generation => slot?.map (Slot.cancel generation)

namespace ScreenCache

def reply (cache : ScreenCache) : CacheEvent → CacheReply
  | .stream id anew => .sees ((cache.step (.stream id anew)).current? id)
  | .refresh id => .starts ((cache.refresh id).slot id).generation
  | .look id => .sees (cache.current? id)
  | .call id generation => .asks (cache.call? id generation).isSome
  | .answer id generation outcome now =>
    .hears ((cache.answer? id generation outcome now).map Prod.fst)
  | .cancel _ _ => .stops

/-! ### One step -/

theorem get?_set (cache : ScreenCache) (id : String) (slot : Slot) (other : String) :
    (cache.set id slot).slots.get? other =
      if other = id then some slot else cache.slots.get? other :=
  Entries.get?_put id other slot cache.slots

/-- A change of the slot of one screen, if it has one. -/
theorem get?_change (cache : ScreenCache) (id : String) (f : Slot → Option Slot) (other : String) :
    ((((cache.slots.get? id).bind f).map (cache.set id)).getD cache).slots.get? other =
      if other = id then (cache.slots.get? id).map fun slot => (f slot).getD slot
      else cache.slots.get? other := by
  cases found : cache.slots.get? id with
  | none =>
      split
      · rename_i same
        simp [same, found]
      · rfl
  | some slot =>
      rw [Option.bind_some]
      cases changed : f slot with
      | none =>
          split
          · rename_i same
            simp [same, found, changed]
          · rfl
      | some slot' =>
          simp [get?_set, changed]

/-- An answer changes the slot of its screen, if the screen has one and the answer is waited for. -/
theorem step_answer (cache : ScreenCache) (id : String) (generation : Nat)
    (outcome : Except FetchError ScreenSchema) (now : Int) :
    cache.step (.answer id generation outcome now) =
      (((cache.slots.get? id).bind fun slot =>
        (slot.answer? cache.policy generation outcome now).map Prod.snd).map
          (cache.set id)).getD cache := by
  rw [step, answer?]
  cases cache.slots.get? id with
  | none =>
      rfl
  | some slot =>
      rw [Option.bind_some, Option.bind_some, Option.map_map, Option.map_map]
      rfl

/-- An event changes the slot of its own screen, and looks at no other. -/
theorem get?_step (cache : ScreenCache) (event : CacheEvent) (id : String) :
    (cache.step event).slots.get? id =
      if id = event.screen then Slot.own cache.policy (cache.slots.get? event.screen) event
      else cache.slots.get? id := by
  cases event with
  | stream other anew =>
      cases anew with
      | false =>
          exact cache.get?_set other (cache.slot other) id
      | true =>
          rw [step, if_pos rfl, refresh, get?_set, slot_subscribe, subscribe, get?_set,
            CacheEvent.screen]
          by_cases same : id = other
          · rw [if_pos same, if_pos same]
            rfl
          · rw [if_neg same, if_neg same, if_neg same]
  | refresh other =>
      exact cache.get?_set other _ id
  | look other =>
      rw [step, CacheEvent.screen, Slot.own]
      split
      · rename_i same
        rw [same]
      · rfl
  | call other generation =>
      exact cache.get?_change other (Slot.call? generation) id
  | answer other generation outcome now =>
      have change := cache.get?_change other
        (fun slot => (slot.answer? cache.policy generation outcome now).map Prod.snd) id
      rw [← step_answer] at change
      exact change
  | cancel other generation =>
      have change := cache.get?_change other (fun slot => some (slot.cancel generation)) id
      rw [← cancel_eq] at change
      exact change

/-- A cache keeps the same of a screen as another, under the same policy. -/
structure AlikeAt (id : String) (cache cache' : ScreenCache) : Prop where
  policy : cache.policy = cache'.policy
  slot : cache.slots.get? id = cache'.slots.get? id

/-- A cache keeps the same of every screen as another.  In which order does not matter. -/
def Alike (cache cache' : ScreenCache) : Prop := ∀ id, AlikeAt id cache cache'

section AlikeAt

variable {id : String} {cache cache' cache'' : ScreenCache} {event : CacheEvent}

theorem AlikeAt.refl (cache : ScreenCache) : AlikeAt id cache cache := ⟨rfl, rfl⟩

theorem AlikeAt.symm (alike : AlikeAt id cache cache') : AlikeAt id cache' cache :=
  ⟨alike.policy.symm, alike.slot.symm⟩

theorem AlikeAt.trans (alike : AlikeAt id cache cache') (alike' : AlikeAt id cache' cache'') :
    AlikeAt id cache cache'' :=
  ⟨alike.policy.trans alike'.policy, alike.slot.trans alike'.slot⟩

theorem AlikeAt.step (alike : AlikeAt id cache cache') (event : CacheEvent) :
    AlikeAt id (cache.step event) (cache'.step event) := by
  constructor
  · rw [policy_step, policy_step, alike.policy]
  · rw [get?_step, get?_step]
    by_cases about : id = event.screen
    · rw [if_pos about, if_pos about, ← about, alike.policy, alike.slot]
    · rw [if_neg about, if_neg about, alike.slot]

theorem alikeAt_step (about : event.screen ≠ id) (cache : ScreenCache) :
    AlikeAt id (cache.step event) cache := by
  constructor
  · exact cache.policy_step event
  · rw [get?_step, if_neg about.symm]

theorem AlikeAt.current? (alike : AlikeAt id cache cache') :
    cache.current? id = cache'.current? id := by
  rw [ScreenCache.current?, ScreenCache.current?, alike.slot]

theorem AlikeAt.slot_eq (alike : AlikeAt id cache cache') : cache.slot id = cache'.slot id := by
  rw [ScreenCache.slot, ScreenCache.slot, alike.slot]

/-- What is learnt of a screen does not depend on the others. -/
theorem AlikeAt.reply (alike : AlikeAt event.screen cache cache') :
    cache.reply event = cache'.reply event := by
  cases event with
  | stream id anew =>
      exact congrArg CacheReply.sees (alike.step _).current?
  | refresh id =>
      have refreshed := alike.step (.refresh id)
      exact congrArg (fun slot => CacheReply.starts slot.generation) refreshed.slot_eq
  | look id =>
      exact congrArg CacheReply.sees alike.current?
  | call id generation =>
      have slot : cache.slots.get? id = cache'.slots.get? id := alike.slot
      rw [ScreenCache.reply, ScreenCache.reply, call?, call?, Option.isSome_map, Option.isSome_map,
        slot]
  | answer id generation outcome now =>
      have slot : cache.slots.get? id = cache'.slots.get? id := alike.slot
      rw [ScreenCache.reply, ScreenCache.reply, answer?, answer?, Option.map_map, Option.map_map,
        slot, alike.policy]
      rfl
  | cancel id generation =>
      rfl

end AlikeAt

/-- Caches that are alike cannot be told apart. -/
theorem Alike.noted_reply {cache cache' : ScreenCache} (alike : cache.Alike cache')
    (events : List CacheEvent) :
    noted step (fun cache event => [cache.reply event]) cache events =
        noted step (fun cache event => [cache.reply event]) cache' events ∧
      (Run.after step cache events).Alike (Run.after step cache' events) := by
  induction events generalizing cache cache' with
  | nil =>
      exact ⟨rfl, alike⟩
  | cons event events ih =>
      obtain ⟨replies, ends⟩ := ih fun id => (alike id).step event
      rw [noted_cons, noted_cons, (alike event.screen).reply, replies]
      exact ⟨rfl, ends⟩

/-- Two steps about different screens may be taken in either order. -/
theorem step_comm {first second : CacheEvent} (apart : first.screen ≠ second.screen)
    (cache : ScreenCache) :
    ((cache.step first).step second).Alike ((cache.step second).step first) := by
  intro id
  by_cases about : second.screen = id
  · -- The first step leaves this screen alone, whether it comes before or after.
    have elsewhere : first.screen ≠ id := about ▸ apart
    have before := (alikeAt_step elsewhere cache).step second
    have after := alikeAt_step elsewhere (cache.step second)
    exact before.trans after.symm
  · have after := alikeAt_step about (cache.step first)
    have before := (alikeAt_step about cache).step first
    exact after.trans before.symm

/-! ### The run of one screen -/

/-- What is learnt of a screen. -/
def replies (policy : RetryPolicy) (events : List CacheEvent) (id : String) : List CacheReply :=
  noted step (fun cache event => if event.screen = id then [cache.reply event] else []) { policy }
    events

section OwnRun

variable (policy : RetryPolicy) (events : List CacheEvent) (id : String)

/-- The run of a screen goes on as if nothing were done about others, and whoever notes nothing of
what does not concern the screen notes the same. -/
theorem noted_own {α : Type} (note : ScreenCache → CacheEvent → List α)
    (own : ∀ cache cache' event, event.screen = id → AlikeAt id cache cache' →
      note cache event = note cache' event)
    (others : ∀ cache event, event.screen ≠ id → note cache event = []) :
    noted step note { policy } events =
        noted step note { policy } (events.filter (·.screen = id)) ∧
      AlikeAt id (after policy events) (after policy (events.filter (·.screen = id))) := by
  have start : AlikeAt id { policy } { policy } := .refl _
  apply noted_filter ?_ ?_ start
  · intro cache cache' event kept alike
    exact ⟨own cache cache' event (of_decide_eq_true kept) alike, alike.step event⟩
  · intro cache cache' event dropped alike
    have about := of_decide_eq_false dropped
    exact ⟨others cache event about, (alikeAt_step about cache).trans alike⟩

theorem after_own :
    AlikeAt id (after policy events) (after policy (events.filter (·.screen = id))) := by
  apply And.right
  apply noted_own policy events id fun _ _ => ([] : List CacheReply)
  · exact fun _ _ _ _ _ => rfl
  · exact fun _ _ _ => rfl

theorem replies_own :
    replies policy events id = replies policy (events.filter (·.screen = id)) id := by
  refine (noted_own policy events id _ ?_ ?_).1
  · rintro cache cache' event rfl alike
    rw [alike.reply]
  · intro cache event about
    rw [if_neg about]

theorem published_own :
    published policy events id = published policy (events.filter (·.screen = id)) id := by
  refine congrArg _ (noted_own policy events id _ ?_ ?_).1
  · intro cache cache' event _ alike
    dsimp only
    rw [alike.slot_eq, (alike.step event).slot_eq]
  · intro cache event about
    dsimp only
    rw [(alikeAt_step about cache).slot_eq, Watched.since_self]

end OwnRun

end ScreenCache

/-! ### Handles -/

/-- Caches, and handles on them.  A handle is the place of its cache. -/
structure CacheHandles where
  caches : List ScreenCache := []
  handles : List Nat := []

/-- What is done with caches through handles, which are numbered. -/
inductive HandleEvent where
  /-- Create a cache, with a handle on it. -/
  | create (policy : RetryPolicy)
  /-- Make one more handle from a handle. -/
  | clone (handle : Nat)
  | use (handle : Nat) (event : CacheEvent)

namespace CacheHandles

/-- One event.  Nothing happens through a handle that there is not. -/
def step (s : CacheHandles) : HandleEvent → CacheHandles
  | .create policy => ⟨s.caches ++ [{ policy }], s.handles ++ [s.caches.length]⟩
  | .clone handle => { s with handles := s.handles ++ s.handles[handle]?.toList }
  | .use handle event =>
    { s with
      caches := s.handles[handle]?.elim s.caches fun place =>
        s.caches.modify place (·.step event) }

/-- The cache that a handle is on. -/
def cache? (s : CacheHandles) (handle : Nat) : Option ScreenCache :=
  s.handles[handle]?.bind fun place => s.caches[place]?

/-- What is learnt from an event through a handle. -/
def reply? (s : CacheHandles) (handle : Nat) (event : CacheEvent) : Option CacheReply :=
  (s.cache? handle).map (·.reply event)

/-- What is done to the cache in a place, through whichever handle. -/
def at? (place : Nat) (s : CacheHandles) : HandleEvent → Option CacheEvent
  | .use handle event => if s.handles[handle]? = some place then some event else none
  | .create _ | .clone _ => none

/-- What is learnt of the cache in a place, through whichever handle. -/
def heard (place : Nat) (s : CacheHandles) : HandleEvent → List CacheReply
  | .use handle event =>
    if s.handles[handle]? = some place then (s.reply? handle event).toList else []
  | .create _ | .clone _ => []

/-- The cache in a place is a machine of its own. -/
theorem cache_embeds (place : Nat) :
    Embeds (fun s => place < s.caches.length) step ScreenCache.step
      (fun s => s.caches[place]?.getD {}) (at? place) where
  keeps s event inside := by
    cases event with
    | create policy =>
        rw [step, List.length_append]
        exact Nat.lt_add_right _ inside
    | clone handle =>
        exact inside
    | use handle event =>
        rw [step]
        cases s.handles[handle]? with
        | none =>
            exact inside
        | some other =>
            rw [Option.elim_some, List.length_modify]
            exact inside
  view_step s event inside := by
    cases event with
    | create policy =>
        rw [step, List.getElem?_append_left inside]
        rfl
    | clone handle =>
        rfl
    | use handle event =>
        rw [step, at?]
        cases s.handles[handle]? with
        | none =>
            rfl
        | some other =>
            rw [Option.elim_some, List.getElem?_modify, List.getElem?_eq_getElem inside,
              Option.map_eq_map, Option.map_some]
            by_cases same : other = place
            · rw [if_pos same, if_pos (congrArg some same)]
              rfl
            · have apart : some other ≠ some place := fun h => same (Option.some.inj h)
              rw [if_neg same, if_neg apart]
              rfl

theorem cache?_eq {s : CacheHandles} {handle place : Nat} (held : s.handles[handle]? = some place)
    (inside : place < s.caches.length) :
    s.cache? handle = some (s.caches[place]?.getD {}) := by
  rw [cache?, held, Option.bind_some, List.getElem?_eq_getElem inside]
  rfl

/-- What is heard of a cache is what the cache replies. -/
theorem heard_eq (place : Nat) (s : CacheHandles) (event : HandleEvent)
    (inside : place < s.caches.length) :
    s.heard place event =
      (s.at? place event).elim [] fun event => [(s.caches[place]?.getD {}).reply event] := by
  cases event with
  | create policy =>
      rfl
  | clone handle =>
      rfl
  | use handle event =>
      rw [heard, at?]
      by_cases held : s.handles[handle]? = some place
      · rw [if_pos held, if_pos held, reply?, cache?_eq held inside]
        rfl
      · rw [if_neg held, if_neg held]
        rfl

/-- No handle is lost, and none moves to another cache. -/
theorem handles_step (s : CacheHandles) (event : HandleEvent) :
    s.handles <+: (s.step event).handles := by
  cases event with
  | create policy =>
      exact List.prefix_append _ _
  | clone handle =>
      exact List.prefix_append _ _
  | use handle event =>
      exact List.prefix_rfl

theorem handles_after (s : CacheHandles) (events : List HandleEvent) :
    s.handles <+: (Run.after step s events).handles := by
  induction events generalizing s with
  | nil =>
      exact List.prefix_rfl
  | cons event events ih =>
      exact (s.handles_step event).trans (ih (s.step event))

/-- A clone stays on the cache of the handle that it was made from. -/
theorem clone_alike (s : CacheHandles) {handle : Nat} (made : handle < s.handles.length)
    (later : List HandleEvent) :
    (Run.after step (s.step (.clone handle)) later).handles[s.handles.length]? =
      (Run.after step (s.step (.clone handle)) later).handles[handle]? := by
  obtain ⟨others, split⟩ := (s.step (.clone handle)).handles_after later
  rw [← split, step, List.getElem?_eq_getElem made, Option.toList_some, List.append_assoc,
    List.getElem?_append_right (Nat.le_refl _), List.getElem?_append_left made, Nat.sub_self,
    List.getElem?_eq_getElem made]
  rfl

/-- What is done through handles on the same cache, and learnt from it, is the same. -/
theorem use_congr {s : CacheHandles} {handle handle' : Nat}
    (same : s.handles[handle]? = s.handles[handle']?) (event : CacheEvent) :
    s.step (.use handle event) = s.step (.use handle' event) ∧
      s.reply? handle event = s.reply? handle' event := by
  rw [step, step, reply?, reply?, cache?, cache?, same]
  exact ⟨rfl, rfl⟩

end CacheHandles

namespace ScreenCache

/-- Screens are cached independently of each other.

What is kept of a screen, published for it and learnt of it in any run is what it would be if
nothing were done about other screens.  Two steps about different screens may change places: whoever
takes them learns the same, and the caches that they lead to cannot be told apart ever after.  A
cache that is used through any number of handles is the cache that is used directly, and a clone of
a handle does, at any later time, what the handle does. -/
theorem screens_are_independent :
    (∀ policy events id,
      (after policy events).slots.get? id =
          (after policy (events.filter (·.screen = id))).slots.get? id ∧
        published policy events id = published policy (events.filter (·.screen = id)) id ∧
        replies policy events id = replies policy (events.filter (·.screen = id)) id) ∧
    (∀ (cache : ScreenCache) (first second : CacheEvent), first.screen ≠ second.screen →
      (cache.step first).reply second = cache.reply second ∧
        (cache.step second).reply first = cache.reply first ∧
        ((cache.step first).step second).Alike ((cache.step second).step first)) ∧
    (∀ cache cache' : ScreenCache, cache.Alike cache' → ∀ events,
      noted step (fun cache event => [cache.reply event]) cache events =
          noted step (fun cache event => [cache.reply event]) cache' events ∧
        (Run.after step cache events).Alike (Run.after step cache' events)) ∧
    (∀ (s : CacheHandles) (policy : RetryPolicy) (events : List HandleEvent),
      let place := s.caches.length
      let created := s.step (.create policy)
      let uses := projected CacheHandles.step (CacheHandles.at? place) created events
      noted CacheHandles.step (CacheHandles.heard place) created events =
          noted step (fun cache event => [cache.reply event]) { policy } uses ∧
        ∀ handle, (Run.after CacheHandles.step created events).handles[handle]? = some place →
          (Run.after CacheHandles.step created events).cache? handle = some (after policy uses)) ∧
    ∀ (s : CacheHandles) (handle : Nat), handle < s.handles.length →
      ∀ (later : List HandleEvent) (event : CacheEvent),
        let clone := s.handles.length
        let now := Run.after CacheHandles.step (s.step (.clone handle)) later
        now.step (.use clone event) = now.step (.use handle event) ∧
          now.reply? clone event = now.reply? handle event := by
  refine ⟨?_, ?_, ?_, ?_, ?_⟩
  · intro policy events id
    exact ⟨(after_own policy events id).slot, published_own policy events id,
      replies_own policy events id⟩
  · intro cache first second apart
    refine ⟨?_, ?_, step_comm apart cache⟩
    · exact (alikeAt_step apart cache).reply
    · exact (alikeAt_step apart.symm cache).reply
  · intro cache cache' alike events
    exact alike.noted_reply events
  · intro s policy events place created uses
    have inside : place < created.caches.length := by
      simp [place, created, CacheHandles.step]
    have new : created.caches[place]?.getD {} = { policy } := by
      simp [place, created, CacheHandles.step]
    have embeds := CacheHandles.cache_embeds place
    constructor
    · rw [← new]
      exact embeds.noted_eq (CacheHandles.heard_eq place) inside events
    · intro handle held
      have there := always_of_step (fun s event _ => embeds.keeps s event) inside events
        List.prefix_rfl
      rw [CacheHandles.cache?_eq held there, embeds.view_after inside events, new]
      rfl
  · intro s handle made later event
    exact CacheHandles.use_congr (s.clone_alike made later) event

/-- Two screens are fetched at once, one of them twice.  Its first fetch ends too late. -/
def atOnce : List CacheEvent :=
  [.stream "home" true, .refresh "news", .call "home" 1, .refresh "home", .call "news" 1,
    .answer "home" 1 (.error (.notFound "home")) 5, .answer "news" 1 (.error (.notFound "news")) 6,
    .look "home"]

/-- Each screen has its own results, two refreshes may change places, and a clone of a handle starts
fetches with it. -/
theorem atOnce_independent :
    published .once atOnce "home" = [.idle, .loading, .loading] ∧
      published .once atOnce "news" = [.idle, .loading, .failure (.notFound "news")] ∧
      (((after .once atOnce).step (.refresh "home")).step (.refresh "news")).Alike
        (((after .once atOnce).step (.refresh "news")).step (.refresh "home")) ∧
      (CacheHandles.step ⟨[{}], [0]⟩ (.clone 0)).reply? 1 (.refresh "home") =
        some (.starts 1) := by
  obtain ⟨own, commute, -, -, clones⟩ := screens_are_independent
  refine ⟨?_, ?_, ?_, ?_⟩
  · exact (own .once atOnce "home").2.1.trans rfl
  · exact (own .once atOnce "news").2.1.trans rfl
  · exact (commute (after .once atOnce) (.refresh "home") (.refresh "news") (by decide)).2.2
  · exact (clones ⟨[{}], [0]⟩ 0 (by decide) [] (.refresh "home")).2.trans rfl

end ScreenCache

end ServerDriven
