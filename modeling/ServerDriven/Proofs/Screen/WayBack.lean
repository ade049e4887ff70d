/-
Module: ServerDriven.Proofs.Screen.WayBack
Purpose: Going back undoes going to a screen, and asks the host only when there is nothing to undo.
Main exports:
  Trail, Trail.step, Surface.trail_step, Move, AllUndone, Trail.behind_eq_nil_iff, Bracketed,
  ScreenController.asks, ScreenController.back_undoes_navigation
-/
import ServerDriven.Proofs.Screen.OwnScreen

namespace ServerDriven

open Run

/-! ### The trail of a surface -/

/-- Where a surface is: the screen that it shows, and those to go back to, the latest first. -/
structure Trail where
  current : Option String
  behind : List String

/-- All screens of a trail, the one that is shown first. -/
def Trail.screens (t : Trail) : List String := t.current.toList ++ t.behind

/-- What becomes of a trail.  Only going to a screen and going back change the way back. -/
def Trail.step (t : Trail) : SurfaceEvent → Trail
  | .load id _ => { t with current := some id }
  | .navigate id false => ⟨some id, (t.current.filter (· ≠ id)).toList ++ t.behind⟩
  | .navigate id true => ⟨some id, []⟩
  | .back =>
    match t.behind with
    | id :: behind => ⟨some id, behind⟩
    | [] => t
  | .reload | .stop | .follow _ | .cache _ => t

namespace Surface

def trail (s : Surface) : Trail := ⟨s.current?, s.history⟩

variable (s : Surface)

theorem history_abort : s.abort.history = s.history := by
  unfold abort
  cases s.active <;> rfl

/-- A load shows its screen, and leaves the way back alone. -/
theorem trail_load (id : String) (anew : Bool) : (s.load id anew).trail = ⟨some id, s.history⟩ := by
  have shown : (s.load id anew).current? = some id := by
    unfold current?
    rw [view_load]
    split
    · rename_i same
      exact same
    · rfl
  have kept : (s.load id anew).history = s.history := s.history_abort
  rw [trail, shown, kept]

theorem history_remember (id : String) :
    (s.remember id).history = (s.current?.filter (· ≠ id)).toList ++ s.history := by
  unfold remember
  cases s.current? with
  | none =>
      rfl
  | some current =>
      by_cases same : current = id <;> simp [same, Option.filter_some]

theorem trail_follow (generation : Nat) : (s.follow generation).trail = s.trail := by
  have shown : (s.follow generation).current? = s.current? := by
    unfold current?
    rcases s.view_follow generation with same | ⟨loader, -, -, written⟩
    · rw [same]
    · rw [written]
      exact ScreenView.screen_apply _ _
  have kept : (s.follow generation).history = s.history := by
    unfold follow
    cases s.loader? generation with
    | none =>
        rfl
    | some loader =>
        dsimp only
        split
        · split <;> rfl
        · rfl
  rw [trail, shown, kept]
  rfl

/-- The trail of a surface is a machine of its own. -/
theorem trail_step (event : SurfaceEvent) : (s.step event).trail = s.trail.step event := by
  cases event with
  | load id anew =>
      exact s.trail_load id anew
  | navigate id clear =>
      cases clear with
      | true =>
          exact s.forget.trail_load id _
      | false =>
          rw [step, navigate, trail_load]
          exact congrArg (Trail.mk (some id)) (s.history_remember id)
  | back =>
      unfold step back? Trail.step
      change Surface.trail _ = match s.history with
        | id :: behind => ⟨some id, behind⟩
        | [] => s.trail
      cases found : s.history with
      | nil =>
          rfl
      | cons id history =>
          exact trail_load _ id false
  | reload =>
      rcases s.reload_cases with same | ⟨id, -, reloaded⟩
      · rw [step, same]
        rfl
      · rw [step, reloaded]
        rfl
  | stop =>
      unfold step stop trail current?
      rw [Trail.step]
      simp [history_abort]
  | follow generation =>
      exact s.trail_follow generation
  | cache event =>
      rfl

end Surface

/-! ### Undoing -/

/-- What an event does to the way back. -/
inductive Move where
  /-- From the screen that is shown to a different one. -/
  | away
  | back
  /-- To a screen from which there is no way back. -/
  | afresh
deriving DecidableEq

namespace Trail

def moves (t : Trail) : SurfaceEvent → List Move
  | .navigate id false => if t.current.any (· ≠ id) then [.away] else []
  | .navigate _ true => [.afresh]
  | .back => [.back]
  | .load .. | .reload | .stop | .follow _ | .cache _ => []

end Trail

/-- A move was undone by one of those after it: up to that one, there are more moves back than
further moves away. -/
def IsUndone (later : List Move) : Prop :=
  ∃ part, part <+: later ∧ part.count .away < part.count .back

/-- Each move away since the way back was last forgotten has been undone. -/
def AllUndone (moves : List Move) : Prop :=
  ∀ earlier later, moves = earlier ++ .away :: later → .afresh ∉ later → IsUndone later

namespace Move

/-- How many screens there are to go back to after a move. -/
def depth (before : Nat) : Move → Nat
  | .away => before + 1
  | .back => before - 1
  | .afresh => 0

/-- So many moves away from before are undone, or the way back is forgotten. -/
def Settles (moves : List Move) (before : Nat) : Prop :=
  .afresh ∈ moves ∨ ∃ part, part <+: moves ∧ part.count .away + before ≤ part.count .back

theorem allUndone_nil : AllUndone [] := by
  intro earlier later split
  cases earlier <;> cases split

theorem allUndone_cons {move : Move} {moves : List Move} :
    AllUndone (move :: moves) ↔ AllUndone moves ∧ (move = .away → Settles moves 1) := by
  constructor
  · intro all
    constructor
    · intro earlier later split
      exact all (move :: earlier) later (congrArg (move :: ·) split)
    · rintro rfl
      exact Decidable.or_iff_not_imp_left.mpr (all [] moves rfl)
  · rintro ⟨others, first⟩ earlier later split
    cases earlier with
    | nil =>
        cases split
        exact Decidable.or_iff_not_imp_left.mp (first rfl)
    | cons head earlier =>
        cases split
        exact others earlier later rfl

theorem settles_zero (moves : List Move) : Settles moves 0 :=
  .inr ⟨[], List.nil_prefix, Nat.le_refl 0⟩

/-- The part that settles something is empty, or it begins as the moves do. -/
theorem settles_cons {move : Move} {moves : List Move} {before : Nat} :
    Settles (move :: moves) before ↔
      move = .afresh ∨ before = 0 ∨ .afresh ∈ moves ∨
        ∃ part, part <+: moves ∧
          (move :: part).count .away + before ≤ (move :: part).count .back := by
  constructor
  · rintro (forgotten | ⟨part, initial, enough⟩)
    · rcases List.mem_cons.mp forgotten with here | later
      · exact .inl here.symm
      · exact .inr (.inr (.inl later))
    · cases part with
      | nil =>
          exact .inr (.inl (by simpa using enough))
      | cons head part =>
          obtain ⟨rfl, rest⟩ := List.cons_prefix_cons.mp initial
          exact .inr (.inr (.inr ⟨part, rest, enough⟩))
  · rintro (rfl | rfl | later | ⟨part, initial, enough⟩)
    · exact .inl List.mem_cons_self
    · exact settles_zero _
    · exact .inl (List.mem_cons_of_mem _ later)
    · exact .inr ⟨move :: part, (List.prefix_cons_inj move).mpr initial, enough⟩

theorem settles_away {moves : List Move} {before : Nat} :
    Settles moves (before + 1) ↔ Settles moves 1 ∧ Settles (.away :: moves) before := by
  simp only [settles_cons, reduceCtorEq, false_or, List.count_cons_self, ne_eq, not_false_eq_true,
    List.count_cons_of_ne]
  constructor
  · rintro (forgotten | ⟨part, initial, enough⟩)
    · exact ⟨.inl forgotten, .inr (.inl forgotten)⟩
    · exact ⟨.inr ⟨part, initial, by omega⟩, .inr (.inr ⟨part, initial, by omega⟩)⟩
  · rintro ⟨one, rfl | forgotten | ⟨part, initial, enough⟩⟩
    · exact one
    · exact .inl forgotten
    · exact .inr ⟨part, initial, by omega⟩

theorem settles_back {moves : List Move} {before : Nat} :
    Settles moves (before - 1) ↔ Settles (.back :: moves) before := by
  simp only [settles_cons, reduceCtorEq, false_or, List.count_cons_self, ne_eq, not_false_eq_true,
    List.count_cons_of_ne]
  constructor
  · rintro (forgotten | ⟨part, initial, enough⟩)
    · exact .inr (.inl forgotten)
    · exact .inr (.inr ⟨part, initial, by omega⟩)
  · rintro (rfl | forgotten | ⟨part, initial, enough⟩)
    · exact settles_zero moves
    · exact .inl forgotten
    · cases before with
      | zero =>
          exact settles_zero moves
      | succ before =>
          exact .inr ⟨part, initial, by omega⟩

/-- There is no screen to go back to just when all that led away has been undone. -/
theorem foldl_depth_eq_zero_iff (moves : List Move) (before : Nat) :
    moves.foldl depth before = 0 ↔ AllUndone moves ∧ Settles moves before := by
  induction moves generalizing before with
  | nil =>
      simp [allUndone_nil, Settles]
  | cons move moves ih =>
      rw [List.foldl_cons, ih, allUndone_cons]
      cases move with
      | away =>
          rw [depth, settles_away]
          simp [and_assoc]
      | back =>
          rw [depth, settles_back]
          simp
      | afresh =>
          simp [depth, settles_zero, settles_cons]

end Move

namespace Trail

section Navigate

variable {id other : String} {behind : List String}

/-- Going to the screen that is shown leads nowhere. -/
theorem step_navigate_same :
    step ⟨some id, behind⟩ (.navigate id false) = ⟨some id, behind⟩ := by
  simp [step]

theorem step_navigate_other (different : other ≠ id) :
    step ⟨some id, behind⟩ (.navigate other false) = ⟨some other, id :: behind⟩ := by
  simp [step, Option.filter_some, different.symm]

end Navigate

theorem length_behind_step (t : Trail) (event : SurfaceEvent) :
    (t.step event).behind.length = (t.moves event).foldl Move.depth t.behind.length := by
  obtain ⟨current, behind⟩ := t
  cases event with
  | navigate id clear =>
      cases clear with
      | true =>
          rfl
      | false =>
          cases current with
          | none =>
              simp [step, moves]
          | some current =>
              by_cases same : id = current
              · subst same
                rw [step_navigate_same]
                simp [moves]
              · rw [step_navigate_other same]
                simp [moves, Ne.symm same, Move.depth]
  | back =>
      cases behind <;> rfl
  | _ =>
      rfl

theorem length_behind_after (t : Trail) (events : List SurfaceEvent) :
    (after step t events).behind.length =
      (noted step moves t events).foldl Move.depth t.behind.length := by
  induction events generalizing t with
  | nil =>
      rfl
  | cons event events ih =>
      rw [after_cons, ih, length_behind_step, noted_cons, List.foldl_append]

/-- There is nothing to go back to just when every move away has been undone. -/
theorem behind_eq_nil_iff {t : Trail} (start : t.behind = []) (events : List SurfaceEvent) :
    (after step t events).behind = [] ↔ AllUndone (noted step moves t events) := by
  rw [← List.length_eq_zero_iff, length_behind_after, start, List.length_nil,
    Move.foldl_depth_eq_zero_iff]
  simp [Move.settles_zero]

/-- A way back that the host has to find: going back is wanted, and there is no screen left. -/
def isStray (t : Trail) : SurfaceEvent → Bool
  | .back => t.behind.isEmpty
  | _ => false

/-- The screen that is shown when an event asks to fetch it anew. -/
def targets (t : Trail) : SurfaceEvent → List (Option String)
  | .reload => [t.current]
  | _ => []

/-- No two screens in a row are the same, and there is no way back to nothing. -/
structure Apart (t : Trail) : Prop where
  chain : t.screens.IsChain (· ≠ ·)
  shown : t.current = none → t.behind = []

theorem Apart.step {t : Trail} (apart : t.Apart) {event : SurfaceEvent}
    (noLoad : ∀ id anew, event ≠ .load id anew) : (t.step event).Apart := by
  obtain ⟨current, behind⟩ := t
  obtain ⟨chain, shown⟩ := apart
  cases event with
  | load id anew =>
      exact absurd rfl (noLoad id anew)
  | navigate id clear =>
      cases clear with
      | true =>
          exact ⟨.singleton id, nofun⟩
      | false =>
          refine ⟨?_, nofun⟩
          cases current with
          | none =>
              cases shown rfl
              exact .singleton id
          | some current =>
              by_cases same : id = current
              · subst same
                rw [step_navigate_same]
                exact chain
              · rw [step_navigate_other same]
                exact .cons_cons same chain
  | back =>
      cases behind with
      | nil =>
          exact ⟨chain, shown⟩
      | cons id behind =>
          refine ⟨?_, nofun⟩
          cases current with
          | none =>
              cases shown rfl
          | some current =>
              exact chain.of_cons
  | _ =>
      exact ⟨chain, shown⟩

end Trail

/-! ### Brackets -/

/-- While a screen is shown, events lead away from it and back again in pairs, one pair inside
another or after it.  In between, the screen that is shown may be gone to once more, or be fetched
anew; the screens that are to be fetched are given. -/
inductive Bracketed : String → List SurfaceEvent → List String → Prop where
  | nil {id : String} : Bracketed id [] []
  | reload {id : String} {events : List SurfaceEvent} {fetched : List String} :
      Bracketed id events fetched → Bracketed id (.reload :: events) (id :: fetched)
  | again {id : String} {events : List SurfaceEvent} {fetched : List String} :
      Bracketed id events fetched → Bracketed id (.navigate id false :: events) fetched
  | follow {id : String} {events : List SurfaceEvent} {fetched : List String} (generation : Nat) :
      Bracketed id events fetched → Bracketed id (.follow generation :: events) fetched
  | cache {id : String} {events : List SurfaceEvent} {fetched : List String} (event : CacheEvent) :
      Bracketed id events fetched → Bracketed id (.cache event :: events) fetched
  | around {id other : String} {inner events : List SurfaceEvent} {fetched fetched' : List String} :
      other ≠ id → Bracketed other inner fetched → Bracketed id events fetched' →
        Bracketed id (.navigate other false :: (inner ++ .back :: events)) (fetched ++ fetched')

namespace Bracketed

variable {id : String} {events : List SurfaceEvent} {fetched : List String}

/-- Going back undoes going to a screen. -/
theorem after_eq (bracketed : Bracketed id events fetched) (behind : List String) :
    after Trail.step ⟨some id, behind⟩ events = ⟨some id, behind⟩ := by
  induction bracketed generalizing behind with
  | nil =>
      rfl
  | reload _ ih =>
      exact ih behind
  | again _ ih =>
      rw [after_cons, Trail.step_navigate_same]
      exact ih behind
  | follow generation _ ih =>
      exact ih behind
  | cache event _ ih =>
      exact ih behind
  | around different _ _ ihInner ih =>
      rw [after_cons, Trail.step_navigate_other different, after_append, ihInner]
      exact ih behind

/-- What is fetched anew is the screen that is shown at its place. -/
theorem noted_targets (bracketed : Bracketed id events fetched) (behind : List String) :
    noted Trail.step Trail.targets ⟨some id, behind⟩ events = fetched.map some := by
  induction bracketed generalizing behind with
  | nil =>
      rfl
  | reload _ ih =>
      exact congrArg (some _ :: ·) (ih behind)
  | again _ ih =>
      rw [noted_cons, Trail.step_navigate_same]
      exact ih behind
  | follow generation _ ih =>
      exact ih behind
  | cache event _ ih =>
      exact ih behind
  | around different inner _ ihInner ih =>
      rw [noted_cons, Trail.step_navigate_other different, noted_append, ihInner,
        inner.after_eq, List.map_append, ← ih behind]
      rfl

/-- There always is a screen to go back to. -/
theorem hits_isStray (bracketed : Bracketed id events fetched) (behind : List String) :
    hits Trail.step Trail.isStray ⟨some id, behind⟩ events = [] := by
  induction bracketed generalizing behind with
  | nil =>
      rfl
  | reload _ ih =>
      exact ih behind
  | again _ ih =>
      rw [hits_cons_eq_nil, Trail.step_navigate_same]
      exact ⟨rfl, ih behind⟩
  | follow generation _ ih =>
      exact ih behind
  | cache event _ ih =>
      exact ih behind
  | around different inner _ ihInner ih =>
      rw [hits_cons_eq_nil, Trail.step_navigate_other different, hits_append, ihInner,
        inner.after_eq, List.nil_append, hits_cons_eq_nil]
      exact ⟨rfl, rfl, ih behind⟩

end Bracketed

/-! ### Controllers -/

namespace ControllerEvent

/-- Whether an event goes to a screen or back, or may lead to it. -/
def isAction : ControllerEvent → Bool
  | .surface (.navigate ..) | .surface .back | .dispatch _ => true
  | _ => false

/-- Whether a screen is loaded directly. -/
def isLoad : ControllerEvent → Bool
  | .surface (.load ..) => true
  | _ => false

end ControllerEvent

namespace ScreenController

/-- What the host is asked for. -/
def asks (c : ScreenController) : ControllerEvent → List Leaf
  | .work =>
    match c.work with
    | .ask leaf _ => [leaf]
    | _ => []
  | _ => []

/-- The cache before and after an event that asks to fetch the screen that is shown anew. -/
def fetches (c : ScreenController) (event : ControllerEvent) : List (ScreenCache × ScreenCache) :=
  match c.surfaceEvent? event with
  | some .reload => [(c.surface.cache, (c.step event).surface.cache)]
  | _ => []

/-- What an event does to the way back. -/
def moves (c : ScreenController) (event : ControllerEvent) : List Move :=
  (c.surfaceEvent? event).elim [] c.surface.trail.moves

/-- The trail of a controller is a machine of its own. -/
theorem trail_embeds :
    Embeds (fun _ => True) step Trail.step (fun c => c.surface.trail) surfaceEvent? where
  keeps _ _ _ := trivial
  view_step c event _ := by
    rw [c.surface_step event]
    cases c.surfaceEvent? event with
    | none =>
        rfl
    | some event' =>
        exact c.surface.trail_step event'

theorem perform?_navigateBack_eq_none_iff {c : ScreenController} :
    c.perform? .navigateBack = none ↔ c.surface.history = [] := by
  unfold perform? Surface.back?
  cases c.surface.history <;> simp

/-- The host is asked to go back just when it is the next thing to do and the surface cannot. -/
theorem asks_work_iff {c : ScreenController} (next : c.nextLeaf? = some .navigateBack) :
    c.asks .work = [.navigateBack] ↔ c.surface.history = [] := by
  rw [← perform?_navigateBack_eq_none_iff]
  obtain ⟨kind, todo, job⟩ := nextLeaf?_eq_some_iff.mp next
  unfold asks
  cases performed : c.perform? .navigateBack with
  | none =>
      rw [work_ask job performed]
      simp
  | some c' =>
      rw [work_perform job performed]
      simp

theorem isStray_of_asks {c : ScreenController} {event : ControllerEvent}
    (asked : .navigateBack ∈ c.asks event) :
    (c.surfaceEvent? event).any c.surface.trail.isStray = true := by
  cases event with
  | work =>
      unfold asks at asked
      cases work : c.work with
      | ask leaf c' =>
          rw [work] at asked
          cases List.mem_singleton.mp asked
          obtain ⟨next, foreign⟩ := nextLeaf?_of_work work
          have none : c.surface.history = [] := perform?_navigateBack_eq_none_iff.mp foreign
          unfold surfaceEvent?
          rw [next]
          exact List.isEmpty_iff.mpr none
      | none =>
          rw [work] at asked
          cases asked
      | step c' =>
          rw [work] at asked
          cases asked
  | _ =>
      cases asked

/-- What an event that asks to fetch the screen that is shown anew does to the cache. -/
theorem fetches_targets (c : ScreenController) (event : ControllerEvent) :
    List.Forall₂ (fun caches target => caches.2 = Option.elim target caches.1 caches.1.refresh)
      (c.fetches event) ((c.surfaceEvent? event).elim [] c.surface.trail.targets) := by
  unfold fetches
  cases means : c.surfaceEvent? event with
  | none =>
      exact .nil
  | some event' =>
      cases event' with
      | reload =>
          refine .cons ?_ .nil
          rw [c.surface_step event, means]
          change (c.surface.step .reload).cache = c.surface.current?.elim _ _
          rw [Surface.cache_step]
          unfold Surface.cacheEvent?
          cases c.surface.current? <;> rfl
      | _ =>
          exact .nil

/-- What leads away from a screen and back again is undone. -/
theorem bracketed_is_undone {c : ScreenController} {id : String}
    (shown : c.surface.current? = some id) {later : List ControllerEvent} {fetched : List String}
    (bracketed : Bracketed id (projected step surfaceEvent? c later) fetched) :
    (Run.after step c later).surface.trail = c.surface.trail ∧
      List.Forall₂ (fun caches id => caches.2 = caches.1.refresh id) (noted step fetches c later)
        fetched ∧
      .navigateBack ∉ noted step asks c later := by
  have start : c.surface.trail = ⟨some id, c.surface.history⟩ := by
    unfold Surface.trail
    rw [shown]
  refine ⟨?_, ?_, ?_⟩
  · rw [trail_embeds.view_after trivial, start]
    exact bracketed.after_eq c.surface.history
  · have targets : noted step (fun c event => (c.surfaceEvent? event).elim []
        c.surface.trail.targets) c later = fetched.map some := by
      rw [trail_embeds.noted_eq (fun _ _ _ => rfl) trivial, start, bracketed.noted_targets]
    have each : List.Forall₂ _ (noted step fetches c later) _ := forall₂_noted fetches_targets later
    rw [targets, List.forall₂_map_right_iff] at each
    exact each
  · apply not_mem_noted fun _ _ => isStray_of_asks
    rw [trail_embeds.hits_eq_nil_iff trivial, start]
    exact bracketed.hits_isStray c.surface.history

/-- The surface performs what concerns its screens, unless there is none to go back to. -/
theorem perform?_eq {c : ScreenController} {leaf : Leaf} {event : SurfaceEvent}
    (means : leafEvent? leaf = some event) (found : c.surface.trail.isStray event = false) :
    c.perform? leaf = some { c with surface := c.surface.step event } := by
  cases leaf with
  | navigate id clear =>
      cases means
      rfl
  | navigateBack =>
      cases means
      unfold Trail.isStray Surface.trail at found
      unfold perform? Surface.step Surface.back?
      cases history : c.surface.history with
      | nil =>
          rw [history] at found
          cases found
      | cons id behind =>
          rfl
  | refresh =>
      cases means
      rfl
  | _ =>
      cases means

/-- Leaves that concern the screens, and always find one to go back to, are performed one after
the other without the host. -/
theorem performs_leaves {c : ScreenController} {kind : String} {leaves : List Leaf}
    (job : c.job = some ⟨kind, leaves, false⟩) {events : List SurfaceEvent}
    (means : leaves.map leafEvent? = events.map some)
    (found : hits Trail.step Trail.isStray c.surface.trail events = []) :
    projected step surfaceEvent? c (List.replicate leaves.length .work) = events ∧
      Run.after step c (List.replicate leaves.length .work) =
        { c with
          surface := Run.after Surface.step c.surface events, job := some ⟨kind, [], false⟩ } := by
  induction leaves generalizing c events with
  | nil =>
      cases events with
      | nil =>
          refine ⟨rfl, ?_⟩
          rw [← job]
          rfl
      | cons event events =>
          cases means
  | cons leaf leaves ih =>
      cases events with
      | nil =>
          cases means
      | cons event events =>
          obtain ⟨first, others⟩ := List.cons.inj means
          obtain ⟨notStray, rest⟩ := hits_cons_eq_nil.mp found
          have now : c.surfaceEvent? .work = some event := by
            unfold surfaceEvent? nextLeaf?
            rw [job]
            exact first
          have next : c.step .work =
              { c with surface := c.surface.step event, job := some ⟨kind, leaves, false⟩ } := by
            unfold step
            rw [work_perform job (perform?_eq first notStray)]
          rw [← c.surface.trail_step event] at rest
          have later := ih (c := c.step .work) (by rw [next]) others (by rw [next]; exact rest)
          obtain ⟨events_eq, after_eq⟩ := later
          constructor
          · unfold projected at events_eq ⊢
            rw [List.length_cons, List.replicate_succ, noted_cons, events_eq, now]
            rfl
          · rw [List.length_cons, List.replicate_succ, after_cons, after_eq, next]
            rfl

/-- When nothing is under way, an action that leads away from a screen and back again is performed
at once, and succeeds. -/
theorem performs_bracketed {c : ScreenController} (isOpen : c.isOpen = true) (idle : c.IsIdle)
    {id : String} (shown : c.surface.current? = some id) {action : Action}
    {events : List SurfaceEvent} (means : action.leaves.map leafEvent? = events.map some)
    {fetched : List String} (bracketed : Bracketed id events fetched) :
    ∃ steps,
      let run := .dispatch action :: List.replicate steps .work
      projected step surfaceEvent? c run = events ∧
        (Run.after step c run).outcomes = ⟨action.kind, .ok ()⟩ :: c.outcomes := by
  obtain ⟨free, empty⟩ := idle
  have accepted : c.step (.dispatch action) = { c with queue := [action] } := by
    unfold step dispatch
    rw [isOpen, empty]
    rfl
  have first : ({ c with queue := [action] } : ScreenController).work =
      .step { c with
        queue := [], job := some ⟨action.kind, action.leaves, false⟩, hasTurn := true } :=
    work_begin free rfl
  have begun : (c.step (.dispatch action)).step .work =
      { c with job := some ⟨action.kind, action.leaves, false⟩, hasTurn := true } := by
    rw [accepted, step, first, ← empty]
  have found := bracketed.hits_isStray c.surface.history
  rw [← shown] at found
  obtain ⟨performed, ends⟩ := performs_leaves
    (c := { c with job := some ⟨action.kind, action.leaves, false⟩, hasTurn := true })
    rfl means found
  -- One step to begin, one for each leaf, and one to end.
  refine ⟨action.leaves.length + 1 + 1, ?_, ?_⟩
  · unfold projected at performed ⊢
    rw [List.replicate_succ, List.replicate_succ', noted_cons, noted_cons, begun, noted_append,
      performed, ends]
    simp [surfaceEvent?, nextLeaf?, accepted, free]
  · rw [List.replicate_succ, List.replicate_succ', after_cons, after_cons, begun, after_append,
      ends]
    rfl

/-- There is nothing to go back to just when each move away has been undone. -/
theorem history_eq_nil_iff (cache : ScreenCache) (events : List ControllerEvent) :
    (after cache events).surface.history = [] ↔
      AllUndone (noted step moves { surface := { cache } } events) := by
  have notes : noted step moves { surface := { cache } } events = _ :=
    trail_embeds.noted_eq (fun _ _ _ => rfl) trivial events
  have trail : (after cache events).surface.trail = _ := trail_embeds.view_after trivial events
  rw [notes, ← Trail.behind_eq_nil_iff rfl, ← trail]
  rfl

/-- Before the first action there is nothing to perform, and nothing to go back to. -/
def IsFresh (c : ScreenController) : Prop := c.IsIdle ∧ c.surface.history = []

theorem IsFresh.step {c : ScreenController} (fresh : c.IsFresh) {event : ControllerEvent}
    (noAction : event.isAction = false) : (c.step event).IsFresh := by
  obtain ⟨idle, nothing⟩ := fresh
  have same : c.work = .none := work_idle idle
  cases event with
  | surface event =>
      refine ⟨idle, ?_⟩
      have trail := congrArg Trail.behind (c.surface.trail_step event)
      refine trail.trans ?_
      cases event with
      | navigate id clear =>
          cases noAction
      | back =>
          cases noAction
      | _ =>
          exact nothing
  | dispatch action =>
      cases noAction
  | work =>
      unfold ScreenController.step
      rw [same]
      exact ⟨idle, nothing⟩
  | reply r =>
      unfold ScreenController.step reply
      rw [idle.1]
      exact ⟨idle, nothing⟩
  | wait =>
      refine ⟨idle.wait, ?_⟩
      rw [ScreenController.step, surface_wait]
      exact nothing
  | shutdown =>
      refine ⟨idle.shutdown, ?_⟩
      rw [ScreenController.step, surface_shutdown]
      exact c.surface.history_abort.trans nothing

theorem surfaceEvent?_ne_load {c : ScreenController} {event : ControllerEvent}
    (noLoad : event.isLoad = false) (id : String) (anew : Bool) :
    c.surfaceEvent? event ≠ some (.load id anew) := by
  intro means
  cases event with
  | surface event =>
      cases means
      cases noLoad
  | work =>
      obtain ⟨leaf, -, leads⟩ := Option.bind_eq_some_iff.mp means
      cases leaf <;> cases leads
  | _ =>
      cases means

/-- When no screen is loaded directly once actions may have begun, no two screens in a row are the
same. -/
theorem apart_after (cache : ScreenCache) {before later : List ControllerEvent}
    (noAction : ∀ event ∈ before, event.isAction = false)
    (noLoad : ∀ event ∈ later, event.isLoad = false) :
    (after cache (before ++ later)).surface.trail.Apart := by
  have fresh : (after cache before).IsFresh :=
    always_of_step (fun c event mem holds => holds.step (noAction event mem)) ⟨⟨rfl, rfl⟩, rfl⟩
      before List.prefix_rfl
  have start : (after cache before).surface.trail.Apart := by
    obtain ⟨-, nothing⟩ := fresh
    refine ⟨?_, fun _ => nothing⟩
    unfold Trail.screens Surface.trail
    rw [nothing, List.append_nil]
    cases (after cache before).surface.current? with
    | none =>
        exact .nil
    | some id =>
        exact .singleton id
  rw [after, after_append]
  have keeps : ∀ c : ScreenController, ∀ event ∈ later, c.surface.trail.Apart →
      (c.step event).surface.trail.Apart := by
    intro c event mem holds
    rw [trail_embeds.view_step c event trivial]
    cases means : c.surfaceEvent? event with
    | none =>
        exact holds
    | some event' =>
        apply holds.step
        rintro id anew rfl
        exact surfaceEvent?_ne_load (noLoad event mem) id anew means
  exact always_of_step keeps start later List.prefix_rfl

/-- Going back undoes going to a screen.

Whatever has happened to a controller: whatever leads away from the screen that is shown and back
again in pairs, in whichever actions, ends with the same screen and the same way back; all that is
fetched anew in between is the screen that is shown at its place; and the host is not asked to go
back.  When nothing is under way, an action made of it is performed to its end.

When an action goes back, the host is asked to do so just when each move away from a screen since
the way back was last forgotten has been undone; it is asked once, and the surface stays as it is.

When no screen is loaded directly once actions may have begun, no two neighbours among the screens
to go back to and the one that is shown are the same. -/
theorem back_undoes_navigation (cache : ScreenCache) (events : List ControllerEvent) :
    let c := after cache events
    (∀ id, c.surface.current? = some id →
      (∀ later fetched, Bracketed id (projected step surfaceEvent? c later) fetched →
        (Run.after step c later).surface.current? = some id ∧
        (Run.after step c later).surface.history = c.surface.history ∧
        List.Forall₂ (fun caches id => caches.2 = caches.1.refresh id) (noted step fetches c later)
          fetched ∧
        .navigateBack ∉ noted step asks c later) ∧
      ∀ action means fetched, c.isOpen = true → c.IsIdle →
        action.leaves.map leafEvent? = means.map some → Bracketed id means fetched →
        ∃ steps,
          let run := .dispatch action :: List.replicate steps .work
          projected step surfaceEvent? c run = means ∧
            (Run.after step c run).outcomes = ⟨action.kind, .ok ()⟩ :: c.outcomes) ∧
    (∀ kind todo, c.job = some ⟨kind, .navigateBack :: todo, false⟩ →
      (c.asks .work = [.navigateBack] ↔
        AllUndone (noted step moves { surface := { cache } } events)) ∧
      (c.asks .work = [.navigateBack] →
        (c.step .work).surface = c.surface ∧ (c.step .work).work = .none ∧
        ∀ r, ((c.step .work).step (.reply r)).surface = c.surface ∧
          ((c.step .work).step (.reply r)).job =
            if r = .done then some ⟨kind, todo, false⟩ else none)) ∧
    ∀ before later, events = before ++ later → (∀ event ∈ before, event.isAction = false) →
      (∀ event ∈ later, event.isLoad = false) →
      (c.surface.current?.toList ++ c.surface.history).IsChain (· ≠ ·) := by
  intro c
  refine ⟨fun id shown => ⟨fun later fetched bracketed => ?_, ?_⟩, ?_, ?_⟩
  · obtain ⟨trail, caches, unasked⟩ := bracketed_is_undone shown bracketed
    have same : (Run.after step c later).surface.current? = c.surface.current? :=
      congrArg Trail.current trail
    exact ⟨same.trans shown, congrArg Trail.behind trail, caches, unasked⟩
  · intro action means fetched isOpen idle same bracketed
    exact performs_bracketed isOpen idle shown same bracketed
  · intro kind todo job
    have asks : c.asks .work = [.navigateBack] ↔ c.surface.history = [] :=
      asks_work_iff (nextLeaf?_eq_some_iff.mpr ⟨kind, todo, job⟩)
    refine ⟨asks.trans (history_eq_nil_iff cache events), fun asked => ?_⟩
    have foreign : c.perform? .navigateBack = none :=
      perform?_navigateBack_eq_none_iff.mpr (asks.mp asked)
    have asking : c.step .work = { c with job := some ⟨kind, .navigateBack :: todo, true⟩ } := by
      unfold step
      rw [work_ask job foreign]
    rw [asking]
    refine ⟨rfl, work_asking rfl, fun r => ⟨surface_reply _ r, ?_⟩⟩
    cases r <;> rfl
  · rintro before later rfl noAction noLoad
    exact (apart_after cache noAction noLoad).chain

/-- An action goes to another screen, and then back twice; the second time is still to come. -/
def roundTrip : List ControllerEvent :=
  [.surface (.load "a" true),
    .dispatch (.batch [.leaf (.navigate "b" false), .leaf .navigateBack, .leaf .navigateBack]),
    .work, .work, .work]

/-- The other screen is gone to once more, fetched anew, and left. -/
def detour : List ControllerEvent :=
  [.surface (.navigate "b" false), .surface .reload, .surface .back]

/-- The first screen is shown again, and going back is now up to the host. -/
theorem round_trip_is_undone :
    (after {} roundTrip).surface.current? = some "a" ∧
      Bracketed "a" (projected step surfaceEvent? (after {} roundTrip) detour) ["b"] ∧
      (Run.after step (after {} roundTrip) detour).surface.current? = some "a" ∧
      (after {} roundTrip).asks .work = [.navigateBack] ∧
      AllUndone (noted step moves {} roundTrip) := by
  have shown : (after {} roundTrip).surface.current? = some "a" := by decide
  have bracketed : Bracketed "a" [.navigate "b" false, .reload, .back] ["b"] :=
    .around (by decide) (.reload .nil) .nil
  obtain ⟨undone, host, -⟩ := back_undoes_navigation {} roundTrip
  obtain ⟨asked, -⟩ := host "batch" [] rfl
  exact ⟨shown, bracketed, ((undone "a" shown).1 detour ["b"] bracketed).1, rfl, asked.mp rfl⟩

end ScreenController

end ServerDriven
