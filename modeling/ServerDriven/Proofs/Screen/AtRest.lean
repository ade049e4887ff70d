/-
Module: ServerDriven.Proofs.Screen.AtRest
Purpose: A surface whose active loader has seen all that was published shows what its cache holds,
  however it came there.
Main exports:
  ScreenView.Mirrors, Surface.Attuned, Surface.attuned_after, Surface.mirrors_of_attuned,
  ScreenController.at_rest_mirrors_cache
-/
import ServerDriven.Proofs.Screen.OwnScreen

namespace ServerDriven

open Run

/-! ### Views and results -/

namespace ScreenView

/-- What a view of a screen shows when the latest result of the screen is in it.  A failure leaves
the schema that was shown before, if there was one, together with its time. -/
def Mirrors (view : ScreenView) (id : String) (published : List ScreenResult) : ScreenResult → Prop
  | .idle => view = .blank id
  | .loading => view.isLoading = true ∧ view.error = none
  | .success schema receivedAt =>
    view.isLoading = false ∧ view.schema = some schema ∧ view.lastUpdated = some receivedAt ∧
      view.error = none
  | .failure e =>
    view.isLoading = false ∧ view.error = some e.message ∧
      ((view.schema = none ∧ view.lastUpdated = none) ∨
        ∃ schema receivedAt, view.schema = some schema ∧ view.lastUpdated = some receivedAt ∧
          .success schema receivedAt ∈ published)

/-- A view has taken in a result: to take it in once more makes no difference. -/
def HasTaken (view : ScreenView) (result : ScreenResult) : Prop := view.apply result = view

theorem hasTaken_apply (view : ScreenView) (result : ScreenResult) :
    (view.apply result).HasTaken result := by
  cases result <;> rfl

/-- A time is shown only with a schema. -/
def IsPaired (view : ScreenView) : Prop := view.schema = none → view.lastUpdated = none

theorem IsPaired.apply {view : ScreenView} (paired : view.IsPaired) (result : ScreenResult) :
    (view.apply result).IsPaired := by
  cases result with
  | success schema receivedAt =>
      intro absent
      cases absent
  | _ =>
      exact paired

/-- A view that shows nothing is that of a screen of which nothing is known. -/
theorem eq_blank {view : ScreenView} {id : String} (screen : view.screen = some id)
    (paired : view.IsPaired) (schema : view.schema = none) (error : view.error = none)
    (loading : view.isLoading = false) : view = blank id := by
  have time := paired schema
  obtain ⟨_, _, _, _, _⟩ := view
  cases screen
  cases schema
  cases error
  cases loading
  cases time
  rfl

end ScreenView

/-! ### What is published -/

/-- A screen of which something was asked is never idle again. -/
theorem Slot.step_publishes (policy : RetryPolicy) (slot : Slot) (event : SlotEvent) :
    (slot.step policy event).result = slot.result ∨
      ∃ value, value ≠ .idle ∧ (slot.step policy event).result = slot.result.publish value := by
  rcases slot.step_cases policy event with
    rfl | ⟨-, generation, result, ends⟩ | ⟨-, generation, f, -, -, next⟩
  · exact .inr ⟨.loading, nofun, slot.result_refresh policy⟩
  · rw [ends.step_eq]
    by_cases newest : generation = slot.generation
    · subst newest
      refine .inr ⟨result, ?_, (slot.finish_newest result).1⟩
      rintro rfl
      cases ends.isTerminal
    · exact .inl (slot.finish_of_ne generation result newest).1
  · rw [next]
    exact .inl rfl

namespace ScreenCache

/-- A screen keeps its slot. -/
theorem isSome_current?_set (cache : ScreenCache) (id : String) (slot : Slot) (other : String)
    (present : (cache.current? other).isSome) : ((cache.set id slot).current? other).isSome := by
  unfold current? set at *
  rw [Entries.get?_put]
  split
  · rfl
  · exact present

theorem isSome_current?_subscribe (cache : ScreenCache) (id : String) :
    ((cache.subscribe id).current? id).isSome := by
  unfold current? subscribe set
  rw [Entries.get?_put, if_pos rfl]
  rfl

theorem isSome_current?_change (cache : ScreenCache) (id : String) (slot? : Option Slot)
    (other : String) (present : (cache.current? other).isSome) :
    ((((slot?.map (cache.set id)).getD cache).current? other)).isSome := by
  cases slot? with
  | none => exact present
  | some slot => exact cache.isSome_current?_set id slot other present

theorem isSome_current?_step (cache : ScreenCache) (event : CacheEvent) (other : String)
    (present : (cache.current? other).isSome) : ((cache.step event).current? other).isSome := by
  cases event with
  | stream id anew =>
      have subscribed := cache.isSome_current?_set id (cache.slot id) other present
      cases anew with
      | false => exact subscribed
      | true => exact isSome_current?_set _ id _ other subscribed
  | refresh id =>
      exact cache.isSome_current?_set id _ other present
  | look id =>
      exact present
  | call id generation =>
      exact cache.isSome_current?_change id _ other present
  | answer id generation outcome now =>
      have changed := cache.isSome_current?_change id
        (((cache.slots.get? id).bind (Slot.answer? cache.policy generation outcome now)).map
          Prod.snd) other present
      rw [Option.map_map] at changed
      simpa [step, answer?, Option.map_map, Function.comp_def] using changed
  | cancel id generation =>
      rw [step, cancel_eq]
      exact cache.isSome_current?_change id _ other present

/-- The latest result of a screen that has a slot. -/
theorem current?_eq {cache : ScreenCache} {id : String} (present : (cache.current? id).isSome) :
    cache.current? id = some (cache.slot id).result.value := by
  unfold current? at *
  cases found : cache.slots.get? id with
  | none =>
      rw [found] at present
      cases present
  | some slot =>
      rw [slot_of_get? found]
      rfl

end ScreenCache

namespace Surface

variable (s : Surface)

theorem channel_step (id : String) (event : SurfaceEvent) :
    (s.step event).channel id = s.channel id ∨
      ∃ value, value ≠ .idle ∧ (s.step event).channel id = (s.channel id).publish value := by
  unfold channel
  rw [cache_step]
  cases s.cacheEvent? event with
  | none =>
      exact .inl rfl
  | some event =>
      rw [Option.elim_some, ScreenCache.slot_step]
      cases event.at? id with
      | none => exact .inl rfl
      | some event => exact Slot.step_publishes s.cache.policy (s.cache.slot id) event

/-- A screen that is idle has published nothing else. -/
theorem eq_idle_of_mem_published (cache : ScreenCache) (events : List SurfaceEvent) (id : String)
    (idle : ((after step { cache } events).channel id).value = .idle) :
    ∀ result ∈ published step (channel id) { cache } events, result = .idle := by
  induction events using List.reverseRecOn with
  | nil =>
      intro result mem
      rw [List.mem_singleton.mp mem]
      exact idle
  | append_singleton events event ih =>
      rw [after_concat] at idle
      rw [published_concat]
      rcases channel_step (after step { cache } events) id event with same | ⟨value, other, next⟩
      · rw [same] at idle ⊢
        rw [Watched.since_self, List.append_nil]
        exact ih idle
      · rw [next] at idle
        exact absurd idle other

/-! ### The loader of the latest load -/

theorem loader?_changeLoader (generation : Nat) {f : Loader → Loader}
    (own : ∀ loader, (f loader).generation = loader.generation) (other : Nat) :
    (s.changeLoader generation f).loader? other =
      if other = generation then (s.loader? other).map f else s.loader? other :=
  find?_change Loader.generation own generation other s.loaders

theorem loader?_load (id : String) (anew : Bool) :
    (s.load id anew).loader? (s.generation + 1) =
      some ⟨id, s.generation + 1, none, false, false⟩ := by
  simp [load, loader?]

theorem active_load (id : String) (anew : Bool) :
    (s.load id anew).active = some (s.generation + 1) := by
  simp [load]

theorem active_stop : s.stop.active = none := by
  unfold stop abort
  cases active : s.active with
  | none => exact active
  | some generation => rfl

/-- A round of a loader that is not the latest, or has nothing to look at, is seen neither in the
view nor by the latest loader.  The latest loader takes the latest result of its screen to the view. -/
theorem follow_cases (generation : Nat) :
    (s.follow generation).active = s.active ∧
      ((s.follow generation).view = s.view ∧
          (s.follow generation).loader? s.generation = s.loader? s.generation ∨
        ∃ loader, s.loader? s.generation = some loader ∧
          (s.follow generation).view =
            s.view.change (fun view => view.apply (s.channel loader.screen).value) ∧
          (s.follow generation).loader? s.generation =
            some { loader with seen := some (s.channel loader.screen).version }) := by
  unfold follow
  cases found : s.loader? generation with
  | none =>
      exact ⟨rfl, .inl ⟨rfl, rfl⟩⟩
  | some loader =>
      dsimp only
      split
      · have seen := s.loader?_changeLoader generation
          (f := fun old => { old with seen := some (s.channel loader.screen).version })
          (fun _ => rfl) s.generation
        split
        · rename_i newest
          change s.generation = generation at newest
          rw [if_pos newest, newest, found] at seen
          refine ⟨rfl, .inr ⟨loader, ?_, rfl, ?_⟩⟩
          · rw [newest, found]
          · rw [newest]
            exact seen
        · rename_i overtaken
          change ¬s.generation = generation at overtaken
          rw [if_neg overtaken] at seen
          refine ⟨rfl, .inl ⟨rfl, ?_⟩⟩
          have ended := loader?_changeLoader (s.changeLoader generation fun old =>
              { old with seen := some (s.channel loader.screen).version }) generation
            (f := fun old => { old with isOver := true }) (fun _ => rfl) s.generation
          rw [if_neg overtaken] at ended
          exact ended.trans seen
      · exact ⟨rfl, .inl ⟨rfl, rfl⟩⟩

/-! ### Surfaces in tune with their caches -/

/-- The active loader is that of the latest load, and when it has seen the latest result of its
screen, the view has taken that in. -/
structure Attuned (s : Surface) : Prop where
  paired : s.view.value.IsPaired
  active : ∀ generation, s.active = some generation → generation = s.generation ∧
    ∃ loader, s.loader? generation = some loader ∧ (s.cache.current? loader.screen).isSome
  seen : ∀ loader, s.loader? s.generation = some loader → ∀ version, loader.seen = some version →
    version ≤ (s.channel loader.screen).version ∧
      (version = (s.channel loader.screen).version →
        s.view.value.HasTaken (s.channel loader.screen).value)

variable {s} {s' : Surface}

theorem attuned_start (cache : ScreenCache) : Attuned { cache } := ⟨fun _ => rfl, nofun, nofun⟩

/-- While nothing is loaded or shown, publications only put loaders behind. -/
theorem Attuned.frame (h : s.Attuned) (view : s'.view = s.view)
    (generation : s'.generation = s.generation) (active : s'.active = s.active)
    (loader? : s'.loader? s.generation = s.loader? s.generation)
    (channels : ∀ id, (s.channel id).Follows (s'.channel id))
    (slots : ∀ id, (s.cache.current? id).isSome → (s'.cache.current? id).isSome) : s'.Attuned where
  paired := by
    rw [view]
    exact h.paired
  active n isActive := by
    rw [active] at isActive
    obtain ⟨rfl, loader, found, present⟩ := h.active n isActive
    exact ⟨generation.symm, loader, loader?.trans found, slots _ present⟩
  seen loader found version seen := by
    rw [generation, loader?] at found
    obtain ⟨bound, taken⟩ := h.seen loader found version seen
    rcases channels loader.screen with same | ⟨value, next⟩
    · rw [same, view]
      exact ⟨bound, taken⟩
    · rw [next, Watched.version_publish]
      refine ⟨Nat.le_succ_of_le bound, fun newest => ?_⟩
      omega

/-- A load begins anew, whatever was shown before. -/
theorem attuned_load (paired : s.view.value.IsPaired) (id : String) (anew : Bool) :
    (s.load id anew).Attuned where
  paired := by
    rw [view_load]
    split
    · exact paired
    · exact fun _ => rfl
  active n isActive := by
    rw [active_load] at isActive
    obtain rfl := Option.some.inj isActive
    refine ⟨(generation_load s id anew).symm, _, s.loader?_load id anew, ?_⟩
    have subscribed := s.cache.isSome_current?_subscribe id
    rw [cache_load]
    cases anew with
    | false => exact subscribed
    | true => exact ScreenCache.isSome_current?_set _ id _ id subscribed
  seen loader found version seen := by
    rw [generation_load, loader?_load] at found
    obtain rfl := Option.some.inj found
    cases seen

theorem Attuned.follow (h : s.Attuned) (generation : Nat) : (s.follow generation).Attuned := by
  obtain ⟨cache, same, -⟩ := s.follow_frame generation
  have channels : ∀ id, (s.follow generation).channel id = s.channel id := by
    intro id
    unfold channel
    rw [cache]
  obtain ⟨active, ⟨view, loader?⟩ | ⟨loader, found, view, found'⟩⟩ := s.follow_cases generation
  · refine h.frame view same active loader? (fun id => ?_) fun id present => ?_
    · rw [channels]
      exact .refl _
    · rw [cache]
      exact present
  · refine ⟨?_, fun n isActive => ?_, fun other found'' version seen => ?_⟩
    · rw [view]
      exact h.paired.apply _
    · rw [active] at isActive
      obtain ⟨rfl, old, foundOld, present⟩ := h.active n isActive
      obtain rfl := Option.some.inj (found.symm.trans foundOld)
      rw [cache]
      exact ⟨same.symm, _, found', present⟩
    · rw [same, found'] at found''
      obtain rfl := Option.some.inj found''
      obtain rfl := Option.some.inj seen
      rw [channels, view]
      exact ⟨Nat.le_refl _, fun _ => ScreenView.hasTaken_apply _ _⟩

theorem Attuned.stop (h : s.Attuned)
    (bounded : ∀ loader ∈ s.loaders, loader.generation ≤ s.generation) : s.stop.Attuned where
  paired := by
    rw [view_stop]
    exact h.paired
  active n isActive := by
    rw [active_stop] at isActive
    cases isActive
  seen loader found := by
    have mem : loader ∈ s.stop.loaders := List.mem_of_find?_eq_some found
    have own : loader.generation = s.stop.generation := by simpa using List.find?_some found
    have stopped := isStopped_stop bounded loader mem
    omega

/-- No event puts a surface out of tune. -/
theorem Attuned.step (h : s.Attuned)
    (bounded : ∀ loader ∈ s.loaders, loader.generation ≤ s.generation) (event : SurfaceEvent) :
    (s.step event).Attuned := by
  cases event with
  | load id anew =>
      exact attuned_load h.paired id anew
  | navigate id clear =>
      obtain ⟨before, navigated, -, -, -, view⟩ := s.navigate_cases id clear
      rw [Surface.step, navigated]
      refine attuned_load ?_ id _
      rcases view with same | empty
      · rw [same]
        exact h.paired
      · rw [empty]
        exact fun _ => rfl
  | back =>
      unfold Surface.step back?
      cases s.history with
      | nil => exact h
      | cons id history => exact attuned_load (s := { s with history }) h.paired id false
  | reload =>
      have channels := fun id => s.channel_follows id .reload
      rcases s.reload_cases with same | ⟨id, -, reloaded⟩
      · rw [Surface.step, same]
        exact h
      · rw [Surface.step, reloaded] at channels ⊢
        exact h.frame rfl rfl rfl rfl channels
          (s.cache.isSome_current?_step (.refresh id))
  | stop =>
      exact h.stop bounded
  | follow generation =>
      exact h.follow generation
  | cache event =>
      exact h.frame rfl rfl rfl rfl (fun id => s.channel_follows id (.cache event))
        (s.cache.isSome_current?_step event)

theorem attuned_after (cache : ScreenCache) (events : List SurfaceEvent) :
    (after step { cache } events).Attuned := by
  induction events using List.reverseRecOn with
  | nil =>
      exact attuned_start cache
  | append_singleton events event ih =>
      rw [after_concat]
      exact ih.step (sound_after cache events).bounded event

/-- What a surface in tune shows when its active loader has seen the latest result. -/
theorem mirrors_of_attuned {published : String → List ScreenResult} (sound : s.Sound published)
    (attuned : s.Attuned)
    (idle : ∀ id, (s.channel id).value = .idle → ∀ result ∈ published id, result = .idle)
    {id : String} (screen : s.view.value.screen = some id) {generation : Nat} {loader : Loader}
    (isActive : s.active = some generation) (found : s.loader? generation = some loader)
    (caughtUp : loader.seen = some (s.channel loader.screen).version) :
    ∃ result, s.cache.current? id = some result ∧ s.view.value.Mirrors id (published id) result := by
  obtain ⟨rfl, other, found', present⟩ := attuned.active generation isActive
  obtain rfl := Option.some.inj (found.symm.trans found')
  have mem : loader ∈ s.loaders := List.mem_of_find?_eq_some found
  have newest : loader.generation = s.generation := by simpa using List.find?_some found
  obtain rfl : loader.screen = id :=
    Option.some.inj ((sound.own loader mem newest).symm.trans screen)
  have taken : s.view.value.apply (s.channel loader.screen).value = s.view.value :=
    (attuned.seen loader found _ caughtUp).2 rfl
  refine ⟨(s.channel loader.screen).value, ScreenCache.current?_eq present, ?_⟩
  have never := idle loader.screen
  cases value : (s.channel loader.screen).value with
  | idle =>
      -- All that the view could show was published for this screen, of which only this is known.
      have nothing := never value
      refine ScreenView.eq_blank screen attuned.paired ?_ ?_ ?_
      · cases shown : s.view.value.schema with
        | none => rfl
        | some schema =>
            obtain ⟨id, receivedAt, same, -, published⟩ := sound.drawn.schema schema shown
            obtain rfl := Option.some.inj (screen.symm.trans same)
            cases nothing _ published
      · cases shown : s.view.value.error with
        | none => rfl
        | some message =>
            obtain ⟨id, e, same, -, published⟩ := sound.drawn.error message shown
            obtain rfl := Option.some.inj (screen.symm.trans same)
            cases nothing _ published
      · cases shown : s.view.value.isLoading with
        | false => rfl
        | true =>
            obtain ⟨id, same, published⟩ := sound.drawn.loading shown
            obtain rfl := Option.some.inj (screen.symm.trans same)
            cases nothing _ published
  | loading =>
      rw [value] at taken
      rw [← taken]
      exact ⟨rfl, rfl⟩
  | success schema receivedAt =>
      rw [value] at taken
      rw [← taken]
      exact ⟨rfl, rfl, rfl, rfl⟩
  | failure e =>
      rw [value] at taken
      refine ⟨?_, ?_, ?_⟩
      · rw [← taken]
        rfl
      · rw [← taken]
        rfl
      · cases shown : s.view.value.schema with
        | none =>
            exact .inl ⟨rfl, attuned.paired shown⟩
        | some schema =>
            obtain ⟨id, receivedAt, same, time, published⟩ := sound.drawn.schema schema shown
            obtain rfl := Option.some.inj (screen.symm.trans same)
            exact .inr ⟨schema, receivedAt, rfl, time, published⟩

/-! ### Surfaces that show a screen -/

/-- A load begins the showing of a screen, and a stop ends it. -/
def showing? (s : Surface) (event : SurfaceEvent) : Option Bool :=
  match event with
  | .stop => some false
  | event => if s.loads event then some true else none

/-- A loader is active from a load to the next stop. -/
theorem active_step (s : Surface) (event : SurfaceEvent) :
    (s.step event).active.isSome = (s.showing? event).getD s.active.isSome := by
  cases event with
  | load id anew =>
      rw [Surface.step, active_load]
      rfl
  | navigate id clear =>
      obtain ⟨before, navigated, -⟩ := s.navigate_cases id clear
      rw [Surface.step, navigated, active_load]
      rfl
  | back =>
      unfold Surface.step back? showing? loads
      cases s.history with
      | nil => rfl
      | cons id history =>
          exact congrArg Option.isSome (active_load { s with history } id false)
  | reload =>
      rcases s.reload_cases with same | ⟨id, -, reloaded⟩
      · rw [Surface.step, same]
        rfl
      · rw [Surface.step, reloaded]
        rfl
  | stop =>
      rw [Surface.step, active_stop]
      rfl
  | follow generation =>
      rw [Surface.step, (s.follow_cases generation).1]
      rfl
  | cache event =>
      rfl

theorem active_after (cache : ScreenCache) (events : List SurfaceEvent) :
    (after step { cache } events).active.isSome =
      (noted step (fun s event => (s.showing? event).toList) { cache } events).getLast?.getD
        false := by
  induction events using List.reverseRecOn with
  | nil =>
      rfl
  | append_singleton events event ih =>
      rw [after_concat, noted_concat, active_step, ih]
      cases showing? (after step { cache } events) event with
      | none => simp
      | some shows => simp

end Surface

/-! ### Controllers -/

namespace ScreenController

/-- Loading a screen, be it directly or in going to one, begins its showing; a shutdown ends it. -/
def showing? (c : ScreenController) (event : ControllerEvent) : Option Bool :=
  (c.surfaceEvent? event).bind c.surface.showing?

/-- Whether a screen has been loaded in a run and the controller has not been shut down since. -/
def isShowing (cache : ScreenCache) (events : List ControllerEvent) : Bool :=
  (noted step (fun c event => (c.showing? event).toList) { surface := { cache } } events).getLast?.getD
    false

theorem active_isSome (cache : ScreenCache) (events : List ControllerEvent) :
    (after cache events).surface.active.isSome = isShowing cache events := by
  unfold isShowing
  have surface : (after cache events).surface = _ := surface_embeds.view_after trivial events
  have own : ∀ (c : ScreenController) (event : ControllerEvent),
      (c.showing? event).toList =
        (c.surfaceEvent? event).elim [] fun event => (c.surface.showing? event).toList := by
    intro c event
    unfold showing?
    cases c.surfaceEvent? event <;> rfl
  have notes : noted step (fun c event => (c.showing? event).toList) { surface := { cache } }
      events = noted Surface.step (fun s event => (s.showing? event).toList) { cache }
        (projected step surfaceEvent? { surface := { cache } } events) :=
    surface_embeds.noted_eq (fun c event _ => own c event) trivial events
  rw [surface, Surface.active_after, notes]

/-- Where the active loader of a controller has seen all that was published for its screen. -/
def IsAtRest (c : ScreenController) : Prop :=
  ∀ generation loader, c.surface.active = some generation →
    c.surface.loader? generation = some loader →
    loader.seen = some (c.surface.channel loader.screen).version

/-- At rest a surface mirrors its cache.  Whatever callers, loaders, fetches and actions have done,
in any order: when a screen is shown, and its loader has seen the latest that was published, then the
view of the controller shows the latest result of that very screen in the cache, whatever was shown
before and however many results the loader has skipped. -/
theorem at_rest_mirrors_cache (cache : ScreenCache) (events : List ControllerEvent) (id : String)
    (current : (after cache events).surface.view.value.screen = some id)
    (shown : isShowing cache events = true) (rest : (after cache events).IsAtRest) :
    ∃ result, (after cache events).surface.cache.current? id = some result ∧
      (after cache events).surface.view.value.Mirrors id (published cache events id) result := by
  have active := active_isSome cache events
  rw [shown] at active
  obtain ⟨generation, isActive⟩ := Option.isSome_iff_exists.mp active
  have projection : (after cache events).surface = _ := surface_embeds.view_after trivial events
  have attuned : (after cache events).surface.Attuned := by
    rw [projection]
    exact Surface.attuned_after cache _
  obtain ⟨-, loader, found, -⟩ := attuned.active generation isActive
  refine Surface.mirrors_of_attuned (sound_surface cache events) attuned (fun other idle => ?_)
    current isActive found (rest generation loader isActive found)
  have channels : published cache events other = _ :=
    surface_embeds.published_eq (Surface.channel other) trivial events
  rw [channels]
  rw [projection] at idle
  exact Surface.eq_idle_of_mem_published cache _ other idle

/-- A screen that has been shown is fetched anew, without success, and its loader sees only that. -/
def failedReload : List ControllerEvent :=
  [.surface (.load "a" true), .surface (.cache (.call "a" 1)),
    .surface (.cache (.answer "a" 1 (.ok ⟨⟨"d", "n", "t"⟩, ⟨"a", "s", none, [], {}, []⟩⟩) 5)),
    .surface (.follow 1), .surface .reload, .surface (.cache (.call "a" 2)),
    .surface (.cache (.answer "a" 2 (.error (.notFound "a")) 7)), .surface (.follow 1)]

/-- The failure is shown over the screen as it was before. -/
theorem failed_reload_mirrors_cache :
    (after {} failedReload).surface.view.value.screen = some "a" ∧
      isShowing {} failedReload = true ∧ (after {} failedReload).IsAtRest ∧
      (after {} failedReload).surface.view.value.Mirrors "a" (published {} failedReload "a")
        (.failure (.notFound "a")) := by
  have atRest : (after {} failedReload).IsAtRest := by
    intro generation loader isActive found
    have active : (after {} failedReload).surface.active = some 1 := rfl
    obtain rfl := Option.some.inj (active.symm.trans isActive)
    have last : (after {} failedReload).surface.loader? 1 = some ⟨"a", 1, some 4, false, false⟩ := rfl
    obtain rfl := Option.some.inj (last.symm.trans found)
    rfl
  obtain ⟨result, held, mirrors⟩ := at_rest_mirrors_cache {} failedReload "a" rfl rfl atRest
  have failed : (after {} failedReload).surface.cache.current? "a" =
      some (.failure (.notFound "a")) := rfl
  obtain rfl := Option.some.inj (failed.symm.trans held)
  exact ⟨rfl, rfl, atRest, mirrors⟩

end ScreenController

end ServerDriven
