/-
Module: ServerDriven.Proofs.Screen.SurfaceRun
Purpose: The steps that callers, loaders, the cache and actions take on a surface, in any order.
Main exports:
  SurfaceEvent, Surface.step, Surface.cacheEvent?, Surface.loads, Surface.cache_step,
  ControllerEvent, ScreenController.step, ScreenController.surfaceEvent?,
  ScreenController.surface_embeds
-/
import ServerDriven.Proofs.Screen.CacheRun
import ServerDriven.Screen.Controller

namespace ServerDriven

open Run

/-! ### A surface -/

/-- What can happen to a surface. -/
inductive SurfaceEvent where
  | load (id : String) (anew : Bool)
  | navigate (id : String) (clear : Bool)
  | back
  | reload
  | stop
  /-- A loader takes a round. -/
  | follow (generation : Nat)
  /-- Something happens to the cache, be it of this surface's doing or not. -/
  | cache (event : CacheEvent)

namespace Surface

/-- What becomes of a surface.  An event that cannot happen changes nothing. -/
def step (s : Surface) : SurfaceEvent → Surface
  | .load id anew => s.load id anew
  | .navigate id clear => s.navigate id clear
  | .back => s.back?.getD s
  | .reload => s.reload
  | .stop => s.stop
  | .follow generation => s.follow generation
  | .cache event => { s with cache := s.cache.step event }

/-- What an event means to the cache. -/
def cacheEvent? (s : Surface) : SurfaceEvent → Option CacheEvent
  | .load id anew => some (.stream id anew)
  | .navigate id _ => some (.stream id (s.needsFetch id))
  | .back => s.history.head?.map fun id => .stream id false
  | .reload => s.current?.map .refresh
  | .stop | .follow _ => none
  | .cache event => some event

/-- Whether an event loads a screen. -/
def loads (s : Surface) : SurfaceEvent → Bool
  | .load .. | .navigate .. => true
  | .back => !s.history.isEmpty
  | .reload | .stop | .follow _ | .cache _ => false

/-- The channel of a screen in the cache of a surface. -/
def channel (id : String) (s : Surface) : Watched ScreenResult := (s.cache.slot id).result

/-- The loaders of one surface are those of another, but for how far they have come. -/
def LoadersFrom (after before : Surface) : Prop :=
  ∀ loader ∈ after.loaders,
    ∃ old ∈ before.loaders, loader.screen = old.screen ∧ loader.generation = old.generation

variable (s : Surface)

/-! ### What operations leave alone -/

@[simp] theorem cache_abort : s.abort.cache = s.cache := by
  unfold abort
  cases s.active <;> rfl

@[simp] theorem view_abort : s.abort.view = s.view := by
  unfold abort
  cases s.active <;> rfl

@[simp] theorem generation_abort : s.abort.generation = s.generation := by
  unfold abort
  cases s.active <;> rfl

theorem LoadersFrom.refl : s.LoadersFrom s := fun loader mem => ⟨loader, mem, rfl, rfl⟩

theorem LoadersFrom.trans {s₁ s₂ s₃ : Surface} (h : s₃.LoadersFrom s₂) (h' : s₂.LoadersFrom s₁) :
    s₃.LoadersFrom s₁ := by
  intro loader mem
  obtain ⟨old, oldMem, screen, generation⟩ := h loader mem
  obtain ⟨older, olderMem, screen', generation'⟩ := h' old oldMem
  exact ⟨older, olderMem, screen.trans screen', generation.trans generation'⟩

theorem loadersFrom_abort : s.abort.LoadersFrom s := by
  intro loader mem
  unfold abort at mem
  cases h : s.active with
  | none =>
      rw [h] at mem
      exact ⟨loader, mem, rfl, rfl⟩
  | some generation =>
      rw [h] at mem
      obtain ⟨old, oldMem, rfl⟩ := List.mem_map.mp mem
      refine ⟨old, oldMem, ?_⟩
      split
      · exact ⟨rfl, rfl⟩
      · exact ⟨rfl, rfl⟩

@[simp] theorem cache_load (id : String) (anew : Bool) :
    (s.load id anew).cache = s.cache.step (.stream id anew) := by
  simp [load, ScreenCache.step]

@[simp] theorem generation_load (id : String) (anew : Bool) :
    (s.load id anew).generation = s.generation + 1 := by
  simp [load]

/-- A load keeps the view if it is of the same screen, and else blanks it. -/
theorem view_load (id : String) (anew : Bool) :
    (s.load id anew).view =
      if s.current? = some id then s.view else s.view.publish (.blank id) := by
  unfold load current?
  dsimp only
  rw [view_abort]

/-- A load starts a loader of its own. -/
theorem mem_loaders_load {id : String} {anew : Bool} {loader : Loader}
    (mem : loader ∈ (s.load id anew).loaders) :
    (loader.screen = id ∧ loader.generation = s.generation + 1) ∨
      ∃ old ∈ s.loaders, loader.screen = old.screen ∧ loader.generation = old.generation := by
  rcases List.mem_cons.mp mem with rfl | mem
  · exact .inl ⟨rfl, by rw [generation_abort]⟩
  · exact .inr (s.loadersFrom_abort loader mem)

theorem needsFetch_remember (id other : String) :
    (s.remember id).needsFetch other = s.needsFetch other := by
  unfold remember
  cases s.current? with
  | none =>
      rfl
  | some current =>
      dsimp only
      split <;> rfl

theorem cache_remember (id : String) : (s.remember id).cache = s.cache := by
  unfold remember
  cases s.current? with
  | none =>
      rfl
  | some current =>
      dsimp only
      split <;> rfl

/-- Going to a screen is loading it on a surface whose way back has changed, and whose view is as
it was or shows nothing. -/
theorem navigate_cases (id : String) (clear : Bool) :
    ∃ before : Surface, s.navigate id clear = before.load id (s.needsFetch id) ∧
      before.cache = s.cache ∧ before.generation = s.generation ∧ before.loaders = s.loaders ∧
      (before.view = s.view ∨ before.view = s.view.publish {}) := by
  cases clear with
  | true =>
      exact ⟨s.forget, rfl, rfl, rfl, rfl, .inr rfl⟩
  | false =>
      refine ⟨s.remember id, ?_, s.cache_remember id, ?_⟩
      · rw [← s.needsFetch_remember id id]
        rfl
      · unfold remember
        cases s.current? with
        | none =>
            exact ⟨rfl, rfl, .inl rfl⟩
        | some current =>
            dsimp only
            split
            · exact ⟨rfl, rfl, .inl rfl⟩
            · exact ⟨rfl, rfl, .inl rfl⟩

/-- A reload is nothing but a refresh in the cache. -/
theorem reload_cases :
    s.reload = s ∨
      ∃ id, s.current? = some id ∧ s.reload = { s with cache := s.cache.refresh id } := by
  unfold reload
  cases s.current? with
  | none =>
      exact .inl rfl
  | some id =>
      exact .inr ⟨id, rfl, rfl⟩

theorem loadersFrom_changeLoader (generation : Nat) {f : Loader → Loader}
    (screen : ∀ loader, (f loader).screen = loader.screen)
    (own : ∀ loader, (f loader).generation = loader.generation) :
    (s.changeLoader generation f).LoadersFrom s := by
  intro loader mem
  obtain ⟨old, oldMem, rfl⟩ := List.mem_map.mp mem
  refine ⟨old, oldMem, ?_⟩
  split
  · exact ⟨screen old, own old⟩
  · exact ⟨rfl, rfl⟩

/-- A round of a loader. -/
theorem follow_frame (generation : Nat) :
    (s.follow generation).cache = s.cache ∧ (s.follow generation).generation = s.generation ∧
      (s.follow generation).LoadersFrom s := by
  unfold follow
  cases s.loader? generation with
  | none =>
      exact ⟨rfl, rfl, .refl s⟩
  | some loader =>
      dsimp only
      split
      · have seen := s.loadersFrom_changeLoader generation
          (f := fun old => { old with seen := some (s.cache.slot loader.screen).result.version })
          (fun _ => rfl) (fun _ => rfl)
        split
        · exact ⟨rfl, rfl, seen⟩
        · refine ⟨rfl, rfl, .trans ?_ seen⟩
          exact loadersFrom_changeLoader _ generation (f := fun old => { old with isOver := true })
            (fun _ => rfl) (fun _ => rfl)
      · exact ⟨rfl, rfl, .refl s⟩

/-- Only the loader of the latest load carries the latest result of its screen to the view. -/
theorem view_follow (generation : Nat) :
    (s.follow generation).view = s.view ∨
      ∃ loader ∈ s.loaders, loader.generation = s.generation ∧
        (s.follow generation).view =
          s.view.change fun view => view.apply (s.channel loader.screen).value := by
  unfold follow
  cases found : s.loader? generation with
  | none =>
      exact .inl rfl
  | some loader =>
      have mem : loader ∈ s.loaders := List.mem_of_find?_eq_some found
      have own : loader.generation = generation := by simpa using List.find?_some found
      dsimp only
      split
      · split
        · rename_i newest
          exact .inr ⟨loader, mem, own.trans newest.symm, rfl⟩
        · exact .inl rfl
      · exact .inl rfl

/-! ### The cache of a surface -/

/-- The cache of a surface is a machine of its own. -/
theorem cache_step (event : SurfaceEvent) :
    (s.step event).cache = (s.cacheEvent? event).elim s.cache s.cache.step := by
  cases event with
  | load id anew =>
      exact s.cache_load id anew
  | navigate id clear =>
      obtain ⟨before, navigated, cache, -⟩ := s.navigate_cases id clear
      rw [step, navigated, cache_load, cache]
      rfl
  | back =>
      unfold step back? cacheEvent?
      cases s.history with
      | nil =>
          rfl
      | cons id history =>
          exact cache_load _ id false
  | reload =>
      unfold step reload cacheEvent?
      cases s.current? <;> rfl
  | stop =>
      exact s.cache_abort
  | follow generation =>
      exact (s.follow_frame generation).1
  | cache event =>
      rfl

theorem channel_follows (id : String) (event : SurfaceEvent) :
    (s.channel id).Follows ((s.step event).channel id) := by
  unfold channel
  rw [cache_step]
  cases s.cacheEvent? event with
  | none =>
      exact .refl _
  | some event =>
      exact ScreenCache.follows_step id s.cache event

end Surface

/-! ### A controller -/

/-- What can happen to a screen controller. -/
inductive ControllerEvent where
  /-- Something happens to its surface, other than through an action. -/
  | surface (event : SurfaceEvent)
  | dispatch (action : Action)
  /-- The next step in performing actions is taken. -/
  | work
  | reply (r : Reply)
  /-- Whoever performs the actions waits. -/
  | wait
  | shutdown

namespace ScreenController

/-- What becomes of a controller. -/
def step (c : ScreenController) : ControllerEvent → ScreenController
  | .surface event => { c with surface := c.surface.step event }
  | .dispatch action => (c.dispatch action).2
  | .work =>
    match c.work with
    | .none => c
    | .step next | .ask _ next => next
  | .reply r => c.reply r
  | .wait => c.wait
  | .shutdown => c.shutdown

/-- No action is under way or in line. -/
def IsIdle (c : ScreenController) : Prop := c.job = none ∧ c.queue = []

/-- The leaf that is performed next. -/
def nextLeaf? (c : ScreenController) : Option Leaf :=
  match c.job with
  | some ⟨_, leaf :: _, false⟩ => some leaf
  | _ => none

theorem nextLeaf?_eq_some_iff {c : ScreenController} {leaf : Leaf} :
    c.nextLeaf? = some leaf ↔ ∃ kind todo, c.job = some ⟨kind, leaf :: todo, false⟩ := by
  unfold nextLeaf?
  rcases c.job with _ | ⟨kind, _ | ⟨first, todo⟩, _ | _⟩ <;> simp

/-! ### What waiting and shutting down come to -/

section Turns

variable {c : ScreenController}

theorem wait_of_busy (busy : c.mayWait = false) : c.wait = c := by
  unfold wait
  dsimp only
  rw [if_neg (ne_true_of_eq_false busy)]

theorem wait_of_open (mayWait : c.mayWait = true) (accepting : c.isOpen = true) :
    c.wait = { c with hasTurn := false } := by
  unfold wait
  dsimp only
  rw [if_pos mayWait, if_pos accepting]

/-- A shutdown takes effect when it comes to a wait. -/
theorem wait_of_shut (mayWait : c.mayWait = true) (shut : c.isOpen = false) :
    c.wait = { c with queue := [], job := none, hasTurn := false } := by
  unfold wait
  dsimp only
  rw [if_pos mayWait, if_neg (ne_true_of_eq_false shut)]
  rfl

/-- A shutdown takes effect at once while nobody has the turn. -/
theorem shutdown_of_rest (waiting : c.hasTurn = false) :
    c.shutdown =
      { c with surface := c.surface.stop, queue := [], job := none, isOpen := false } := by
  unfold shutdown
  dsimp only
  rw [if_neg (ne_true_of_eq_false waiting)]
  rfl

theorem shutdown_of_turn (performing : c.hasTurn = true) :
    c.shutdown = { c with surface := c.surface.stop, isOpen := false } := by
  unfold shutdown
  dsimp only
  rw [if_pos performing]

/-- Where there is nothing to do, a wait changes nothing about that. -/
theorem IsIdle.wait (idle : c.IsIdle) : c.wait.IsIdle := by
  obtain ⟨free, empty⟩ := idle
  have mayWait : c.mayWait = true := by
    unfold mayWait
    rw [free]
  cases isOpen : c.isOpen with
  | true =>
      rw [wait_of_open mayWait isOpen]
      exact ⟨free, empty⟩
  | false =>
      rw [wait_of_shut mayWait isOpen]
      exact ⟨rfl, rfl⟩

/-- Neither does a shutdown. -/
theorem IsIdle.shutdown (idle : c.IsIdle) : c.shutdown.IsIdle := by
  cases hasTurn : c.hasTurn with
  | true =>
      rw [shutdown_of_turn hasTurn]
      exact idle
  | false =>
      rw [shutdown_of_rest hasTurn]
      exact ⟨rfl, rfl⟩

theorem surface_wait (c : ScreenController) : c.wait.surface = c.surface := by
  cases mayWait : c.mayWait with
  | false =>
      rw [wait_of_busy mayWait]
  | true =>
      cases isOpen : c.isOpen with
      | true => rw [wait_of_open mayWait isOpen]
      | false => rw [wait_of_shut mayWait isOpen]

theorem surface_shutdown (c : ScreenController) : c.shutdown.surface = c.surface.stop := by
  cases hasTurn : c.hasTurn with
  | true => rw [shutdown_of_turn hasTurn]
  | false => rw [shutdown_of_rest hasTurn]

end Turns

/-! ### What performing actions comes to -/

section Work

variable {c : ScreenController} {kind : String} {leaf : Leaf} {todo : List Leaf}

/-- The first action in line begins. -/
theorem work_begin {action : Action} {queue : List Action} (free : c.job = none)
    (first : c.queue = action :: queue) :
    c.work =
      .step { c with queue, job := some ⟨action.kind, action.leaves, false⟩, hasTurn := true } := by
  unfold work
  rw [free, first]

theorem work_idle (idle : c.IsIdle) : c.work = .none := by
  obtain ⟨free, empty⟩ := idle
  unfold work
  rw [free, empty]

/-- An action of which nothing is left has succeeded. -/
theorem work_over {asking : Bool} (job : c.job = some ⟨kind, [], asking⟩) :
    c.work = .step (c.conclude ⟨kind, [], asking⟩ (.ok ())) := by
  unfold work
  rw [job]

/-- The host has not replied. -/
theorem work_asking (asking : c.job = some ⟨kind, leaf :: todo, true⟩) : c.work = .none := by
  unfold work
  rw [asking]

/-- The next leaf is performed by the surface. -/
theorem work_perform {c' : ScreenController} (next : c.job = some ⟨kind, leaf :: todo, false⟩)
    (performed : c.perform? leaf = some c') :
    c.work = .step { c' with job := some ⟨kind, todo, false⟩ } := by
  unfold work
  rw [next]
  dsimp only
  rw [performed]

/-- The host is asked to perform the next leaf. -/
theorem work_ask (next : c.job = some ⟨kind, leaf :: todo, false⟩)
    (foreign : c.perform? leaf = none) :
    c.work = .ask leaf { c with job := some ⟨kind, leaf :: todo, true⟩ } := by
  unfold work
  rw [next]
  dsimp only
  rw [foreign]

/-- Nothing but the next leaf is asked of the host. -/
theorem nextLeaf?_of_work {c' : ScreenController} (ask : c.work = .ask leaf c') :
    c.nextLeaf? = some leaf ∧ c.perform? leaf = none := by
  unfold nextLeaf?
  rcases job : c.job with _ | ⟨kind, _ | ⟨first, todo⟩, _ | _⟩
  · cases queue : c.queue with
    | nil =>
        cases (work_idle ⟨job, queue⟩).symm.trans ask
    | cons action queue =>
        cases (work_begin job queue).symm.trans ask
  · cases (work_over job).symm.trans ask
  · cases (work_over job).symm.trans ask
  · cases performed : c.perform? first with
    | none =>
        cases (work_ask job performed).symm.trans ask
        exact ⟨rfl, performed⟩
    | some next =>
        cases (work_perform job performed).symm.trans ask
  · cases (work_asking job).symm.trans ask

end Work

/-- What a leaf means to the surface. -/
def leafEvent? : Leaf → Option SurfaceEvent
  | .navigate id clear => some (.navigate id clear)
  | .navigateBack => some .back
  | .refresh => some .reload
  | _ => none

/-- What an event means to the surface. -/
def surfaceEvent? (c : ScreenController) : ControllerEvent → Option SurfaceEvent
  | .surface event => some event
  | .work => c.nextLeaf?.bind leafEvent?
  | .shutdown => some .stop
  | .dispatch _ | .reply _ | .wait => none

/-- Performing a leaf does to the surface what the leaf means to it. -/
theorem surface_perform? (c : ScreenController) (leaf : Leaf) :
    ((c.perform? leaf).getD c).surface = (leafEvent? leaf).elim c.surface c.surface.step := by
  cases leaf with
  | navigate id clear => rfl
  | navigateBack =>
      unfold perform? leafEvent?
      simp only [Option.elim_some, Surface.step]
      cases c.surface.back? <;> rfl
  | refresh => rfl
  | navigateExternal url => rfl
  | apiCall call => rfl
  | setState key value => rfl
  | toggleState key => rfl
  | showSnackbar snackbar => rfl
  | showDialog dialog => rfl
  | share share => rfl

theorem surface_work (c : ScreenController) :
    (c.step .work).surface = (c.surfaceEvent? .work).elim c.surface c.surface.step := by
  obtain ⟨surface, scratch, queue, job, outcomes, isOpen, hasTurn⟩ := c
  rcases job with _ | ⟨kind, _ | ⟨leaf, todo⟩, _ | _⟩
  · cases queue <;> rfl
  · rfl
  · rfl
  · have performed := surface_perform?
      ⟨surface, scratch, queue, some ⟨kind, leaf :: todo, false⟩, outcomes, isOpen, hasTurn⟩ leaf
    refine Eq.trans ?_ performed
    unfold step work
    dsimp only
    cases perform? _ leaf <;> rfl
  · rfl

/-- A reply is no matter of the surface. -/
theorem surface_reply (c : ScreenController) (r : Reply) : (c.reply r).surface = c.surface := by
  unfold reply
  rcases c.job with _ | ⟨kind, _ | ⟨leaf, todo⟩, _ | _⟩
  · rfl
  · rfl
  · rfl
  · rfl
  · cases r <;> rfl

/-- The surface of a controller is a machine of its own. -/
theorem surface_step (c : ScreenController) (event : ControllerEvent) :
    (c.step event).surface = (c.surfaceEvent? event).elim c.surface c.surface.step := by
  cases event with
  | surface event =>
      rfl
  | dispatch action =>
      change (c.dispatch action).2.surface = c.surface
      unfold dispatch
      split <;> rfl
  | work =>
      exact c.surface_work
  | reply r =>
      exact c.surface_reply r
  | wait =>
      exact c.surface_wait
  | shutdown =>
      exact c.surface_shutdown

theorem surface_embeds :
    Embeds (fun _ => True) step Surface.step ScreenController.surface surfaceEvent? where
  keeps _ _ _ := trivial
  view_step c event _ := c.surface_step event

end ScreenController

end ServerDriven
