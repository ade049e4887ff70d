/-
Module: ServerDriven.Proofs.Screen.OwnScreen
Purpose: A surface shows of a screen only what was published for that screen, and nothing new once
  it has been shut down.
Main exports:
  ScreenView.DrawnFrom, Surface.Sound, Surface.sound_after, Surface.IsStopped,
  ScreenController.shows_own_screen
-/
import ServerDriven.Proofs.Screen.SurfaceRun

namespace ServerDriven

open Run

/-! ### Views -/

namespace ScreenView

/-- What a view shows of its screen was published for that very screen. -/
structure DrawnFrom (published : String → List ScreenResult) (view : ScreenView) : Prop where
  schema : ∀ schema, view.schema = some schema →
    ∃ id receivedAt, view.screen = some id ∧ view.lastUpdated = some receivedAt ∧
      .success schema receivedAt ∈ published id
  error : ∀ message, view.error = some message →
    ∃ id e, view.screen = some id ∧ message = e.message ∧ .failure e ∈ published id
  loading : view.isLoading = true → ∃ id, view.screen = some id ∧ .loading ∈ published id

variable {published published' : String → List ScreenResult} {view : ScreenView}

theorem drawnFrom_empty : ({} : ScreenView).DrawnFrom published := ⟨nofun, nofun, nofun⟩

theorem drawnFrom_blank (id : String) : (blank id).DrawnFrom published := ⟨nofun, nofun, nofun⟩

theorem DrawnFrom.mono (h : view.DrawnFrom published)
    (sub : ∀ id result, result ∈ published id → result ∈ published' id) :
    view.DrawnFrom published' where
  schema schema shown := by
    obtain ⟨id, receivedAt, screen, time, mem⟩ := h.schema schema shown
    exact ⟨id, receivedAt, screen, time, sub _ _ mem⟩
  error message shown := by
    obtain ⟨id, e, screen, text, mem⟩ := h.error message shown
    exact ⟨id, e, screen, text, sub _ _ mem⟩
  loading shown := by
    obtain ⟨id, screen, mem⟩ := h.loading shown
    exact ⟨id, screen, sub _ _ mem⟩

@[simp] theorem screen_apply (view : ScreenView) (result : ScreenResult) :
    (view.apply result).screen = view.screen := by
  cases result <;> rfl

/-- Taking in what was published for the screen of the view leaves nothing foreign in it. -/
theorem DrawnFrom.apply (h : view.DrawnFrom published) {id : String} (own : view.screen = some id)
    {result : ScreenResult} (mem : result ∈ published id) :
    (view.apply result).DrawnFrom published := by
  cases result with
  | idle =>
      exact h
  | loading =>
      exact ⟨h.schema, nofun, fun _ => ⟨id, own, mem⟩⟩
  | success schema receivedAt =>
      refine ⟨fun other shown => ?_, nofun, nofun⟩
      cases shown
      exact ⟨id, receivedAt, own, rfl, mem⟩
  | failure e =>
      refine ⟨h.schema, fun message shown => ?_, nofun⟩
      cases shown
      exact ⟨id, e, own, rfl, mem⟩

end ScreenView

/-! ### Surfaces -/

namespace Surface

/-- The view is drawn from what was published, and only a loader of the screen in the view may
write into it. -/
structure Sound (published : String → List ScreenResult) (s : Surface) : Prop where
  drawn : s.view.value.DrawnFrom published
  bounded : ∀ loader ∈ s.loaders, loader.generation ≤ s.generation
  own : ∀ loader ∈ s.loaders, loader.generation = s.generation →
    s.view.value.screen = some loader.screen

variable {published published' : String → List ScreenResult} {s s' : Surface}

theorem Sound.mono (h : s.Sound published)
    (sub : ∀ id result, result ∈ published id → result ∈ published' id) : s.Sound published' :=
  ⟨h.drawn.mono sub, h.bounded, h.own⟩

theorem bounded_of_loadersFrom (h : ∀ loader ∈ s.loaders, loader.generation ≤ s.generation)
    (from_s : s'.LoadersFrom s) : ∀ loader ∈ s'.loaders, loader.generation ≤ s.generation := by
  intro loader mem
  obtain ⟨old, oldMem, -, generation⟩ := from_s loader mem
  rw [generation]
  exact h old oldMem

/-- A load makes all earlier loaders strangers, whatever screen they were of. -/
theorem sound_load (drawn : s.view.value.DrawnFrom published)
    (bounded : ∀ loader ∈ s.loaders, loader.generation ≤ s.generation) (id : String)
    (anew : Bool) : (s.load id anew).Sound published := by
  have screen : (s.load id anew).view.value.screen = some id := by
    rw [view_load]
    split
    · rename_i same
      exact same
    · rfl
  refine ⟨?_, fun loader mem => ?_, fun loader mem newest => ?_⟩
  · rw [view_load]
    split
    · exact drawn
    · exact ScreenView.drawnFrom_blank id
  · rw [generation_load]
    rcases s.mem_loaders_load mem with ⟨-, generation⟩ | ⟨old, oldMem, -, generation⟩
    · exact Nat.le_of_eq generation
    · rw [generation]
      exact Nat.le_succ_of_le (bounded old oldMem)
  · rw [generation_load] at newest
    rcases s.mem_loaders_load mem with ⟨own, -⟩ | ⟨old, oldMem, -, generation⟩
    · rw [screen, own]
    · have := bounded old oldMem
      omega

/-- Only the loader of the latest load writes, and it writes what was published for its screen. -/
theorem Sound.follow (h : s.Sound published) (latest : ∀ id, (s.channel id).value ∈ published id)
    (generation : Nat) : (s.follow generation).Sound published := by
  obtain ⟨-, sameGeneration, from_s⟩ := s.follow_frame generation
  have screen : (s.follow generation).view.value.screen = s.view.value.screen := by
    rcases s.view_follow generation with same | ⟨loader, -, -, written⟩
    · rw [same]
    · rw [written]
      exact ScreenView.screen_apply _ _
  refine ⟨?_, ?_, fun loader mem newest => ?_⟩
  · rcases s.view_follow generation with same | ⟨loader, mem, newest, written⟩
    · rw [same]
      exact h.drawn
    · rw [written]
      exact h.drawn.apply (h.own loader mem newest) (latest loader.screen)
  · rw [sameGeneration]
    exact bounded_of_loadersFrom h.bounded from_s
  · obtain ⟨old, oldMem, same, sameOld⟩ := from_s loader mem
    rw [screen, same]
    exact h.own old oldMem (by rw [← sameOld, newest, sameGeneration])

theorem generation_stop (s : Surface) : s.stop.generation = s.generation + 1 := by
  simp [stop]

theorem view_stop (s : Surface) : s.stop.view = s.view := s.view_abort

theorem loadersFrom_stop (s : Surface) : s.stop.LoadersFrom s := s.loadersFrom_abort

/-- No event puts anything foreign into the view. -/
theorem Sound.step (h : s.Sound published) (latest : ∀ id, (s.channel id).value ∈ published id)
    (event : SurfaceEvent) : (s.step event).Sound published := by
  cases event with
  | load id anew =>
      exact sound_load h.drawn h.bounded id anew
  | navigate id clear =>
      obtain ⟨before, navigated, -, generation, loaders, view⟩ := s.navigate_cases id clear
      rw [Surface.step, navigated]
      refine sound_load ?_ (by rw [generation, loaders]; exact h.bounded) id _
      rcases view with same | empty
      · rw [same]
        exact h.drawn
      · rw [empty]
        exact ScreenView.drawnFrom_empty
  | back =>
      unfold Surface.step back?
      cases s.history with
      | nil =>
          exact h
      | cons id history =>
          exact sound_load (s := { s with history }) h.drawn h.bounded id false
  | reload =>
      rcases s.reload_cases with same | ⟨id, -, reloaded⟩
      · rw [Surface.step, same]
        exact h
      · rw [Surface.step, reloaded]
        exact ⟨h.drawn, h.bounded, h.own⟩
  | stop =>
      have bounded := bounded_of_loadersFrom h.bounded s.loadersFrom_stop
      refine ⟨by rw [Surface.step, view_stop]; exact h.drawn, fun loader mem => ?_,
        fun loader mem newest => ?_⟩
      · rw [Surface.step, generation_stop]
        exact Nat.le_succ_of_le (bounded loader mem)
      · rw [Surface.step, generation_stop] at newest
        have := bounded loader mem
        omega
  | follow generation =>
      exact h.follow latest generation
  | cache event =>
      exact ⟨h.drawn, h.bounded, h.own⟩

/-- Whatever happens to a surface, it shows of a screen only what was published for it. -/
theorem sound_after (cache : ScreenCache) (events : List SurfaceEvent) :
    (after step { cache } events).Sound fun id => Run.published step (channel id) { cache } events := by
  induction events using List.reverseRecOn with
  | nil =>
      exact ⟨ScreenView.drawnFrom_empty, nofun, nofun⟩
  | append_singleton events event ih =>
      rw [after_concat]
      have latest : ∀ id, (channel id (after step { cache } events)).value ∈
          Run.published step (channel id) { cache } events :=
        fun id => value_mem_published (fun s event => s.channel_follows id event) events
      exact (ih.step latest event).mono fun id _ mem => published_mono events [event] mem

/-! ### Surfaces that were stopped -/

/-- Every loader was overtaken. -/
def IsStopped (s : Surface) : Prop := ∀ loader ∈ s.loaders, loader.generation < s.generation

theorem isStopped_stop (bounded : ∀ loader ∈ s.loaders, loader.generation ≤ s.generation) :
    s.stop.IsStopped := by
  intro loader mem
  rw [generation_stop]
  exact Nat.lt_succ_of_le (bounded_of_loadersFrom bounded s.loadersFrom_stop loader mem)

/-- While nothing is loaded, a stopped surface stays stopped and shows what it did. -/
theorem IsStopped.step (h : s.IsStopped) {event : SurfaceEvent} (quiet : s.loads event = false) :
    (s.step event).IsStopped ∧ (s.step event).view = s.view := by
  cases event with
  | load id anew =>
      cases quiet
  | navigate id clear =>
      cases quiet
  | back =>
      have none : s.history = [] := by simpa [loads] using quiet
      unfold Surface.step back?
      rw [none]
      exact ⟨h, rfl⟩
  | reload =>
      rcases s.reload_cases with same | ⟨id, -, reloaded⟩
      · rw [Surface.step, same]
        exact ⟨h, rfl⟩
      · rw [Surface.step, reloaded]
        exact ⟨h, rfl⟩
  | stop =>
      exact ⟨isStopped_stop fun loader mem => Nat.le_of_lt (h loader mem), s.view_stop⟩
  | follow generation =>
      obtain ⟨-, sameGeneration, from_s⟩ := s.follow_frame generation
      refine ⟨fun loader mem => ?_, ?_⟩
      · obtain ⟨old, oldMem, -, own⟩ := from_s loader mem
        rw [own, Surface.step, sameGeneration]
        exact h old oldMem
      · rcases s.view_follow generation with same | ⟨loader, mem, newest, -⟩
        · exact same
        · exact absurd newest (Nat.ne_of_lt (h loader mem))
  | cache event =>
      exact ⟨h, rfl⟩

theorem IsStopped.view_after (h : s.IsStopped) {events : List SurfaceEvent}
    (quiet : hits Surface.step loads s events = []) :
    (after Surface.step s events).view = s.view := by
  induction events generalizing s with
  | nil =>
      rfl
  | cons event events ih =>
      obtain ⟨silent, rest⟩ := hits_cons_eq_nil.mp quiet
      obtain ⟨stopped, view⟩ := h.step silent
      rw [after_cons, ih stopped rest, view]

end Surface

/-! ### Controllers -/

namespace ScreenController

/-- A controller on a cache after some events. -/
def after (cache : ScreenCache) (events : List ControllerEvent) : ScreenController :=
  Run.after step { surface := { cache } } events

/-- What the cache of a controller publishes for a screen. -/
def published (cache : ScreenCache) (events : List ControllerEvent) (id : String) :
    List ScreenResult :=
  Run.published step (fun c => c.surface.channel id) { surface := { cache } } events

/-- Whether an event loads a screen, be it directly or in going to one. -/
def loads (c : ScreenController) (event : ControllerEvent) : Bool :=
  (c.surfaceEvent? event).any c.surface.loads

/-- The surface of a controller loads nothing when the controller does not. -/
theorem hits_surface {c : ScreenController} {events : List ControllerEvent}
    (quiet : hits step loads c events = []) :
    hits Surface.step Surface.loads c.surface (projected step surfaceEvent? c events) = [] :=
  (surface_embeds.hits_eq_nil_iff trivial events).mp quiet

theorem sound_surface (cache : ScreenCache) (events : List ControllerEvent) :
    (after cache events).surface.Sound (published cache events) := by
  have sound := Surface.sound_after cache
    (projected step surfaceEvent? { surface := { cache } } events)
  have surface : (after cache events).surface = _ := surface_embeds.view_after trivial events
  have channels : published cache events = _ :=
    funext fun id => surface_embeds.published_eq (Surface.channel id) trivial events
  rw [surface, channels]
  exact sound

/-- A surface shows its own screen.  Whatever callers, loaders, fetches and actions do, in any
order, all that the view of a controller shows of a screen was published for that very screen; and
once the controller has been shut down its view does not change before a screen is loaded. -/
theorem shows_own_screen (cache : ScreenCache) (events : List ControllerEvent) :
    (after cache events).surface.view.value.DrawnFrom (published cache events) ∧
      ∀ later, hits step loads (after cache events).shutdown later = [] →
        (after cache (events ++ .shutdown :: later)).surface.view =
          (after cache events).surface.view := by
  have sound := sound_surface cache events
  refine ⟨sound.drawn, fun later quiet => ?_⟩
  have shut := (after cache events).surface_shutdown
  have stopped : (after cache events).shutdown.surface.IsStopped := by
    rw [shut]
    exact Surface.isStopped_stop sound.bounded
  calc (after cache (events ++ .shutdown :: later)).surface.view
      = (Run.after step (after cache events).shutdown later).surface.view := by
        rw [after, after_append, after_cons]
        rfl
    _ = (Run.after Surface.step (after cache events).shutdown.surface
          (projected step surfaceEvent? (after cache events).shutdown later)).view := by
        rw [surface_embeds.view_after trivial later]
    _ = (after cache events).shutdown.surface.view := stopped.view_after (hits_surface quiet)
    _ = (after cache events).surface.view := by rw [shut, Surface.view_stop]

/-- A loader that was overtaken takes another round when its screen has failed. -/
example :
    (after {}
      [.surface (.load "a" true), .surface (.follow 1), .surface (.load "b" false),
        .surface (.cache (.call "a" 1)),
        .surface (.cache (.answer "a" 1 (.error (.notFound "a")) 0)),
        .surface (.follow 1)]).surface.view.value = .blank "b" := rfl

end ScreenController

end ServerDriven
