/-
Module: ServerDriven.Proofs.Screen.ActionsInTurn
Purpose: Actions are performed one after the other in the order in which they were accepted, each
  once, and nothing more is done once the controller has been shut down.
Main exports:
  ScreenController.UnderWay, ScreenController.Standing, ScreenController.Stands.of_does,
  ScreenController.Stands.after, ScreenController.actions_are_performed_in_turn
-/
import ServerDriven.Proofs.Screen.WorkerRun

namespace ServerDriven

open Run

namespace ScreenController

/-! ### An action under way -/

/-- When some performances are over, some leaves of an action have been performed, and others are
left; the scratch is what these have made of it. -/
structure UnderWay (scratch : Scratch) (finished : List Performance) (action : Action)
    (acts : List Act) (todo : List Leaf) : Prop where
  leaves : action.leaves = acts.map Act.leaf ++ todo
  succeeded : ∀ act ∈ acts, act.reply = .done
  performed : ∃ before, Performed finished before ∧
    scratch = (acts.map Act.leaf).foldl Scratch.after before

namespace UnderWay

variable {scratch : Scratch} {finished : List Performance} {action : Action} {acts : List Act}
  {leaf : Leaf} {todo : List Leaf}

theorem start (performed : Performed finished scratch) (action : Action) :
    UnderWay scratch finished action [] action.leaves :=
  ⟨rfl, List.forall_mem_nil _, scratch, performed, rfl⟩

/-- One more leaf is performed. -/
theorem concat (way : UnderWay scratch finished action acts (leaf :: todo)) (act : Act)
    (own : act.leaf = leaf) (succeeds : act.reply = .done) :
    UnderWay (scratch.after leaf) finished action (acts ++ [act]) todo := by
  subst own
  obtain ⟨before, performed, kept⟩ := way.performed
  refine ⟨?_, ?_, before, performed, ?_⟩
  · rw [way.leaves, List.map_append, List.append_assoc]
    rfl
  · intro other mem
    rcases List.mem_append.mp mem with earlier | last
    · exact way.succeeded other earlier
    · rw [List.mem_singleton.mp last]
      exact succeeds
  · rw [kept, List.map_append, List.foldl_append]
    rfl

/-- Nothing is left. -/
theorem ends (way : UnderWay scratch finished action acts []) :
    Performed (finished ++ [⟨action, acts, .ok ()⟩]) scratch := by
  obtain ⟨before, performed, kept⟩ := way.performed
  have leaves := way.leaves
  rw [List.append_nil] at leaves
  rw [kept]
  exact performed.concat (Performance.leads_of_all way.succeeded leaves before)

/-- A leaf does not succeed. -/
theorem stops (way : UnderWay scratch finished action acts (leaf :: todo))
    (effect : leaf.isEffect = true) {r : Reply} (fails : r ≠ .done) :
    Performed (finished ++ [⟨action, acts ++ [.asked leaf effect r], r.result⟩]) scratch := by
  obtain ⟨before, performed, kept⟩ := way.performed
  rw [kept]
  exact performed.concat (Performance.leads_of_stop way.succeeded way.leaves effect fails before)

end UnderWay

/-! ### Where a controller stands -/

/-- What the pending actions of a controller are, and what has been done of the first of them, when
some performances are over. -/
inductive Standing (c : ScreenController) (finished : List Performance) :
    List Action → List Deed → Prop where
  | free (job : c.job = none) (performed : Performed finished c.scratch) :
      Standing c finished c.queue []
  /-- An action is under way. -/
  | working {action : Action} {acts : List Act} {todo : List Leaf}
      (job : c.job = some ⟨action.kind, todo, false⟩)
      (way : UnderWay c.scratch finished action acts todo) :
      Standing c finished (action :: c.queue) (acts.flatMap Act.deeds)
  /-- The host has been asked for the next of its leaves. -/
  | asking {action : Action} {acts : List Act} {leaf : Leaf} {todo : List Leaf}
      (job : c.job = some ⟨action.kind, leaf :: todo, true⟩) (effect : leaf.isEffect = true)
      (way : UnderWay c.scratch finished action acts (leaf :: todo)) :
      Standing c finished (action :: c.queue) (acts.flatMap Act.deeds ++ [.asked leaf])
  /-- It has been shut down, whatever was pending. -/
  | closed (closed : c.IsClosed) {scratch : Scratch} (performed : Performed finished scratch)
      {pending : List Action} {unfinished : List Deed} (left : Unfinished pending unfinished) :
      Standing c finished pending unfinished

namespace Standing

variable {c c' : ScreenController} {finished : List Performance} {pending : List Action}
  {unfinished : List Deed}

theorem performed (standing : c.Standing finished pending unfinished) :
    ∃ scratch, Performed finished scratch := by
  cases standing with
  | free _ performed =>
      exact ⟨_, performed⟩
  | working _ way =>
      obtain ⟨scratch, performed, -⟩ := way.performed
      exact ⟨scratch, performed⟩
  | asking _ _ way =>
      obtain ⟨scratch, performed, -⟩ := way.performed
      exact ⟨scratch, performed⟩
  | closed _ performed _ =>
      exact ⟨_, performed⟩

theorem left (standing : c.Standing finished pending unfinished) :
    Unfinished pending unfinished := by
  cases standing with
  | free _ _ =>
      exact .nil
  | working _ way =>
      exact .of_acts way.leaves
  | asking _ _ way =>
      exact .of_asked way.leaves
  | closed _ _ left =>
      exact left

/-- Only the actions and what is kept of them matter, and that what was shut down stays so. -/
theorem frame (standing : c.Standing finished pending unfinished) (job : c'.job = c.job)
    (queue : c'.queue = c.queue) (scratch : c'.scratch = c.scratch)
    (shut : c.isOpen = false → c'.isOpen = false) : c'.Standing finished pending unfinished := by
  cases standing with
  | free free performed =>
      rw [← queue]
      rw [← scratch] at performed
      exact .free (job.trans free) performed
  | working working way =>
      rw [← queue]
      rw [← scratch] at way
      exact .working (job.trans working) way
  | asking asking effect way =>
      rw [← queue]
      rw [← scratch] at way
      exact .asking (job.trans asking) effect way
  | closed closed performed left =>
      obtain ⟨never, free, empty⟩ := closed
      exact .closed ⟨shut never, job.trans free, queue.trans empty⟩ performed left

/-- An action that is accepted is the last of those that are pending. -/
theorem accept (standing : c.Standing finished pending unfinished) (accepting : c.isOpen = true)
    (action : Action) :
    ({ c with queue := c.queue ++ [action] } : ScreenController).Standing finished
      (pending ++ [action]) unfinished := by
  cases standing with
  | free job performed =>
      exact free (c := { c with queue := c.queue ++ [action] }) job performed
  | working job way =>
      exact working (c := { c with queue := c.queue ++ [action] }) job way
  | asking job effect way =>
      exact asking (c := { c with queue := c.queue ++ [action] }) job effect way
  | closed closed _ _ =>
      cases accepting.symm.trans closed.1

/-- What was pending when all was dropped stays pending for good, and so does what was done of the
first of it. -/
theorem drop (standing : c.Standing finished pending unfinished) (closed : c'.IsClosed) :
    c'.Standing finished pending unfinished := by
  obtain ⟨scratch, performed⟩ := standing.performed
  exact .closed closed performed standing.left

theorem of_free (standing : c.Standing finished pending unfinished) (job : c.job = none)
    {action : Action} {queue : List Action} (first : c.queue = action :: queue) :
    pending = c.queue ∧ unfinished = [] ∧ Performed finished c.scratch := by
  cases standing with
  | free _ performed =>
      exact ⟨rfl, rfl, performed⟩
  | working working _ =>
      cases working.symm.trans job
  | asking asking _ _ =>
      cases asking.symm.trans job
  | closed closed _ _ =>
      cases first.symm.trans closed.2.2

theorem of_working (standing : c.Standing finished pending unfinished) {kind : String}
    {todo : List Leaf} (job : c.job = some ⟨kind, todo, false⟩) :
    ∃ action acts, kind = action.kind ∧ pending = action :: c.queue ∧
      unfinished = acts.flatMap Act.deeds ∧ UnderWay c.scratch finished action acts todo := by
  cases standing with
  | free free _ =>
      cases job.symm.trans free
  | working working way =>
      cases job.symm.trans working
      exact ⟨_, _, rfl, rfl, rfl, way⟩
  | asking asking _ _ =>
      cases job.symm.trans asking
  | closed closed _ _ =>
      cases job.symm.trans closed.2.1

theorem of_asking (standing : c.Standing finished pending unfinished) {kind : String} {leaf : Leaf}
    {todo : List Leaf} (job : c.job = some ⟨kind, leaf :: todo, true⟩) :
    ∃ action acts, kind = action.kind ∧ pending = action :: c.queue ∧ leaf.isEffect = true ∧
      unfinished = acts.flatMap Act.deeds ++ [.asked leaf] ∧
      UnderWay c.scratch finished action acts (leaf :: todo) := by
  cases standing with
  | free free _ =>
      cases job.symm.trans free
  | working working _ =>
      cases job.symm.trans working
  | asking asking effect way =>
      cases job.symm.trans asking
      exact ⟨_, _, rfl, rfl, effect, rfl, way⟩
  | closed closed _ _ =>
      cases job.symm.trans closed.2.1

theorem isAsking_of_over (standing : c.Standing finished pending unfinished) {kind : String}
    {asking : Bool} (job : c.job = some ⟨kind, [], asking⟩) : asking = false := by
  cases standing with
  | free free _ =>
      cases job.symm.trans free
  | working working _ =>
      cases job.symm.trans working
      rfl
  | asking asking _ _ =>
      cases job.symm.trans asking
  | closed closed _ _ =>
      cases job.symm.trans closed.2.1

end Standing

/-! ### Steps and runs -/

/-- A controller stands in turn after some deeds. -/
def Stands (c : ScreenController) (past : List Deed) : Prop :=
  ∃ finished pending unfinished, c.Standing finished pending unfinished ∧
    InTurn past c.outcomes.reverse finished pending unfinished

namespace Stands

variable {c c' : ScreenController} {past done : List Deed} {event : WorkerEvent}

theorem start (cache : ScreenCache) : ({ surface := { cache } } : ScreenController).Stands [] :=
  ⟨[], [], [], .free rfl .nil, .start⟩

/-- An action is over. -/
theorem finish {finished : List Performance} {p : Performance}
    (turn : InTurn past c.outcomes.reverse finished (p.action :: c.queue)
      (p.acts.flatMap Act.deeds))
    (performed : Performed (finished ++ [p]) c.scratch) {job : Job}
    (kind : job.kind = p.action.kind) :
    (c.conclude job p.result).Stands (past ++ [.sent p.outcome]) := by
  refine ⟨finished ++ [p], _, _, .free rfl performed, ?_⟩
  rw [conclude, List.reverse_cons, kind]
  exact turn.finish

/-- Whatever is done, the controller stands in turn. -/
theorem of_does (stands : c.Stands past) (does : c.Does event c' done) :
    c'.Stands (past ++ done) := by
  obtain ⟨finished, pending, unfinished, standing, turn⟩ := id stands
  cases does with
  | refuses o =>
      exact ⟨finished, pending, unfinished, standing, turn.refuse⟩
  | accepts accepting offered =>
      exact ⟨finished, _, unfinished, standing.accept accepting _, turn.accept _⟩
  | surface event surface =>
      rw [List.append_nil]
      exact ⟨finished, pending, unfinished, standing.frame rfl rfl rfl id, turn⟩
  | rests nothing =>
      rw [List.append_nil]
      exact stands
  | begins free first =>
      obtain ⟨rfl, rfl, performed⟩ := standing.of_free free first
      rw [first] at turn
      rw [List.append_nil]
      exact ⟨finished, _, _, .working rfl (.start performed _), turn⟩
  | ends job =>
      obtain rfl := standing.isAsking_of_over job
      obtain ⟨action, acts, rfl, rfl, rfl, way⟩ := standing.of_working job
      exact finish (p := ⟨action, acts, .ok ()⟩) turn way.ends rfl
  | @performs kind leaf todo job surface =>
      obtain ⟨action, acts, rfl, rfl, rfl, way⟩ := standing.of_working job
      have told : InTurn (past ++ [.performed leaf]) _ _ _ _ := turn.work rfl
      refine ⟨finished, _, _, .working rfl (way.concat (.alone leaf) rfl rfl), ?_⟩
      rw [Act.flatMap_deeds_concat]
      exact told
  | asks job effect =>
      obtain ⟨action, acts, rfl, rfl, rfl, way⟩ := standing.of_working job
      exact ⟨finished, _, _, .asking rfl effect way, turn.work rfl⟩
  | ignores r unawaited =>
      rw [List.append_nil]
      exact stands
  | @goesOn kind leaf todo job =>
      obtain ⟨action, acts, rfl, rfl, effect, rfl, way⟩ := standing.of_asking job
      have told : InTurn (past ++ [.replied .done]) _ _ _ _ := turn.work rfl
      have next := way.concat (.asked leaf effect .done) rfl rfl
      rw [Scratch.after_of_isEffect c.scratch effect] at next
      refine ⟨finished, _, _, .working rfl next, ?_⟩
      rw [Act.flatMap_deeds_concat]
      rw [List.append_assoc] at told
      exact told
  | @stops kind leaf todo job r fails =>
      obtain ⟨action, acts, rfl, rfl, effect, rfl, way⟩ := standing.of_asking job
      have told : InTurn (past ++ [.replied r]) _ _ _ _ := turn.work rfl
      rw [List.append_assoc] at told
      rw [List.append_cons]
      refine finish (p := ⟨action, acts ++ [.asked leaf effect r], r.result⟩) ?_
        (way.stops effect fails) rfl
      rw [Act.flatMap_deeds_concat]
      exact told
  | stays busy =>
      rw [List.append_nil]
      exact stands
  | waits mayWait accepting =>
      rw [List.append_nil]
      exact ⟨finished, pending, unfinished, standing.frame rfl rfl rfl id, turn⟩
  | drops mayWait shut =>
      rw [List.append_nil]
      exact ⟨finished, pending, unfinished, standing.drop ⟨shut, rfl, rfl⟩, turn⟩
  | shuts waiting surface =>
      rw [List.append_nil]
      exact ⟨finished, pending, unfinished, standing.drop ⟨rfl, rfl, rfl⟩, turn⟩
  | closes performing surface =>
      rw [List.append_nil]
      exact ⟨finished, pending, unfinished, standing.frame rfl rfl rfl fun _ => rfl, turn⟩

/-- In any run, the controller stands in turn. -/
theorem after (stands : c.Stands past) (events : List WorkerEvent) :
    (Run.after act c events).Stands (past ++ noted act deeds c events) := by
  induction events generalizing c past with
  | nil =>
      rw [noted_nil, List.append_nil]
      exact stands
  | cons event events ih =>
      rw [after_cons, noted_cons, ← List.append_assoc]
      exact ih (stands.of_does (c.does event))

end Stands

/-- An action that fails does not keep the next one from being performed, and neither does a
shutdown by the host that is asked for an effect; but the call that is then waited for never
ends. -/
example (call : ApiCall) :
    (Run.after act {}
      [.offer (.plain (.leaf .navigateBack)), .offer (.plain (.leaf (.setState "key" "on"))),
        .offer (.plain (.leaf (.apiCall call))), .work, .work, .shutdown,
        .reply (.failed (.callback "no")), .work, .work, .work, .work, .work, .wait, .reply .done,
        .work]).outcomes.reverse =
      [⟨"navigate_back", .error (.callback "no")⟩, ⟨"set_state", .ok ()⟩] := rfl

end ScreenController

end ServerDriven
