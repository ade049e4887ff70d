/-
Module: ServerDriven.Proofs.Screen.WorkerRun
Purpose: What there is to see of a controller that performs actions, and what each of its steps can
  do.
Main exports:
  Offer, WorkerEvent, ScreenController.act, ScreenController.deeds, ScreenController.Does,
  ScreenController.does, ScreenController.goesOn, ScreenController.toil_after,
  ScreenController.isOpen_after, ScreenController.IsClosed, ScreenController.IsClosed.after,
  ScreenController.KeepsTurns, ScreenController.keepsTurns_after
-/
import Mathlib.Algebra.Ring.Nat
import ServerDriven.Proofs.Dispatch.Performance
import ServerDriven.Proofs.Screen.SurfaceRun

namespace ServerDriven

open Run

/-! ### Controllers that perform actions -/

/-- What a caller may offer for an action. -/
inductive Offer where
  | plain (action : Action)
  | json (raw : Json)
  | node (n : Node)

/-- The action in an offer. -/
def Offer.action? : Offer → Option Action
  | .plain action => some action
  | .json raw => Action.ofJson? raw
  | .node n => n.parsedAction?

/-- What can happen to a controller. -/
inductive WorkerEvent where
  | offer (o : Offer)
  /-- Something happens to its surface, other than through an action. -/
  | surface (event : SurfaceEvent)
  /-- The next step in performing actions is taken. -/
  | work
  | reply (r : Reply)
  /-- Whoever performs the actions waits. -/
  | wait
  | shutdown

namespace ScreenController

def offer (c : ScreenController) : Offer → Bool × ScreenController
  | .plain action => c.dispatch action
  | .json raw => c.dispatchJson raw
  | .node n => c.dispatchNode n

/-- What becomes of a controller. -/
def act (c : ScreenController) : WorkerEvent → ScreenController
  | .offer o => (c.offer o).2
  | .surface event => c.step (.surface event)
  | .work => c.step .work
  | .reply r => c.step (.reply r)
  | .wait => c.step .wait
  | .shutdown => c.step .shutdown

/-- The leaf that the host has been asked to perform, and of which it has not told the end. -/
def awaited? (c : ScreenController) : Option Leaf :=
  match c.job with
  | some ⟨_, leaf :: _, true⟩ => some leaf
  | _ => none

/-- What is done at an event, but for the outcomes that are sent. -/
def doings (c : ScreenController) : WorkerEvent → List Deed
  | .offer o => if (c.offer o).1 then o.action?.toList.map .accepted else [.refused]
  | .work =>
    match c.work with
    | .none => []
    | .step _ => c.nextLeaf?.toList.map .performed
    | .ask leaf _ => [.asked leaf]
  | .reply r => if c.awaited?.isSome then [.replied r] else []
  | .surface _ | .wait | .shutdown => []

/-- The outcomes that have been sent between two moments. -/
def sentSince (before after : ScreenController) : List Outcome :=
  (after.outcomes.take (after.outcomes.length - before.outcomes.length)).reverse

/-- What is done at an event. -/
def deeds (c : ScreenController) (event : WorkerEvent) : List Deed :=
  c.doings event ++ (c.sentSince (c.act event)).map .sent

theorem offer_eq (c : ScreenController) (o : Offer) :
    c.offer o = (o.action?.map c.dispatch).getD (false, c) := by
  cases o with
  | plain action =>
      rfl
  | json raw =>
      change c.dispatchJson raw = ((Action.ofJson? raw).map c.dispatch).getD (false, c)
      unfold dispatchJson
      cases Action.ofJson? raw <;> rfl
  | node n =>
      change c.dispatchNode n = (n.parsedAction?.map c.dispatch).getD (false, c)
      unfold dispatchNode
      cases n.parsedAction? <;> rfl

theorem offer_of_closed {c : ScreenController} (closed : c.isOpen = false) (o : Offer) :
    c.offer o = (false, c) := by
  rw [offer_eq]
  cases o.action? with
  | none =>
      rfl
  | some action =>
      change c.dispatch action = (false, c)
      unfold dispatch
      rw [closed]
      rfl

/-- An offer is refused and changes nothing, or its action stands last in line. -/
theorem offer_cases (c : ScreenController) (o : Offer) :
    c.offer o = (false, c) ∨
      ∃ action, c.isOpen = true ∧ o.action? = some action ∧
        c.offer o = (true, { c with queue := c.queue ++ [action] }) := by
  cases isOpen : c.isOpen with
  | false =>
      exact .inl (offer_of_closed isOpen o)
  | true =>
      rw [offer_eq]
      cases offered : o.action? with
      | none =>
          exact .inl rfl
      | some action =>
          refine .inr ⟨action, rfl, rfl, ?_⟩
          change c.dispatch action = _
          unfold dispatch
          rw [isOpen]
          rfl

/-! ### What a step can do -/

/-- What becomes of a controller at an event, and what is done. -/
inductive Does (c : ScreenController) : WorkerEvent → ScreenController → List Deed → Prop where
  | refuses (o : Offer) : Does c (.offer o) c [.refused]
  | accepts {o : Offer} {action : Action} (accepting : c.isOpen = true)
      (offered : o.action? = some action) :
      Does c (.offer o) { c with queue := c.queue ++ [action] } [.accepted action]
  | surface (event : SurfaceEvent) (surface : Surface) :
      Does c (.surface event) { c with surface } []
  | rests (nothing : c.work = .none) : Does c .work c []
  /-- The first action in line begins. -/
  | begins {action : Action} {queue : List Action} (free : c.job = none)
      (first : c.queue = action :: queue) :
      Does c .work
        { c with queue, job := some ⟨action.kind, action.leaves, false⟩, hasTurn := true } []
  /-- Nothing is left of the action under way. -/
  | ends {kind : String} {asking : Bool} (finished : c.job = some ⟨kind, [], asking⟩) :
      Does c .work (c.conclude ⟨kind, [], asking⟩ (.ok ())) [.sent ⟨kind, .ok ()⟩]
  | performs {kind : String} {leaf : Leaf} {todo : List Leaf}
      (next : c.job = some ⟨kind, leaf :: todo, false⟩) (surface : Surface) :
      Does c .work
        { c with surface, scratch := c.scratch.after leaf, job := some ⟨kind, todo, false⟩ }
        [.performed leaf]
  | asks {kind : String} {leaf : Leaf} {todo : List Leaf}
      (next : c.job = some ⟨kind, leaf :: todo, false⟩) (effect : leaf.isEffect = true) :
      Does c .work { c with job := some ⟨kind, leaf :: todo, true⟩ } [.asked leaf]
  /-- The host has nothing to reply to. -/
  | ignores (r : Reply) (unawaited : c.awaited? = none) : Does c (.reply r) c []
  | goesOn {kind : String} {leaf : Leaf} {todo : List Leaf}
      (asking : c.job = some ⟨kind, leaf :: todo, true⟩) :
      Does c (.reply .done) { c with job := some ⟨kind, todo, false⟩, hasTurn := true }
        [.replied .done]
  /-- The first leaf that does not succeed ends the action. -/
  | stops {kind : String} {leaf : Leaf} {todo : List Leaf}
      (asking : c.job = some ⟨kind, leaf :: todo, true⟩) {r : Reply} (fails : r ≠ .done) :
      Does c (.reply r) ({ c with hasTurn := true }.conclude ⟨kind, leaf :: todo, true⟩ r.result)
        [.replied r, .sent ⟨kind, r.result⟩]
  /-- There is nothing to wait for. -/
  | stays (busy : c.mayWait = false) : Does c .wait c []
  | waits (mayWait : c.mayWait = true) (accepting : c.isOpen = true) :
      Does c .wait { c with hasTurn := false } []
  /-- A shutdown takes effect when it comes to a wait. -/
  | drops (mayWait : c.mayWait = true) (shut : c.isOpen = false) :
      Does c .wait { c with queue := [], job := none, hasTurn := false } []
  /-- A shutdown takes effect at once while nobody has the turn. -/
  | shuts (waiting : c.hasTurn = false) (surface : Surface) :
      Does c .shutdown { c with surface, queue := [], job := none, isOpen := false } []
  /-- A shutdown within a turn. -/
  | closes (performing : c.hasTurn = true) (surface : Surface) :
      Does c .shutdown { c with surface, isOpen := false } []

section Does

variable {c c' : ScreenController} {event : WorkerEvent} {done : List Deed}

/-- An event at which no outcome is sent. -/
theorem does_of_quiet (next : c.act event = c') (same : c'.outcomes = c.outcomes)
    (doings : c.doings event = done) (does : c.Does event c' done) :
    c.Does event (c.act event) (c.deeds event) := by
  have none : c.sentSince c' = [] := by
    unfold sentSince
    rw [same, Nat.sub_self]
    rfl
  rw [deeds, doings, next, none, List.map_nil, List.append_nil]
  exact does

/-- An event at which an outcome is sent. -/
theorem does_of_sent {outcome : Outcome} (next : c.act event = c')
    (one : c'.outcomes = outcome :: c.outcomes) (doings : c.doings event = done)
    (does : c.Does event c' (done ++ [.sent outcome])) :
    c.Does event (c.act event) (c.deeds event) := by
  have sent : c.sentSince c' = [outcome] := by
    unfold sentSince
    rw [one, List.length_cons, Nat.add_sub_cancel_left]
    rfl
  rw [deeds, doings, next, sent, List.map_singleton]
  exact does

/-- What the surface or the scratch makes of a leaf. -/
theorem perform?_cases {leaf : Leaf} (performed : c.perform? leaf = some c') :
    ∃ surface, c' = { c with surface, scratch := c.scratch.after leaf } := by
  cases leaf with
  | navigate id clear =>
      cases performed
      exact ⟨_, rfl⟩
  | navigateBack =>
      obtain ⟨surface, -, rfl⟩ := Option.map_eq_some_iff.mp performed
      exact ⟨surface, rfl⟩
  | refresh =>
      cases performed
      exact ⟨_, rfl⟩
  | setState key value =>
      cases performed
      exact ⟨c.surface, rfl⟩
  | toggleState key =>
      cases performed
      exact ⟨c.surface, rfl⟩
  | _ =>
      cases performed

theorem isEffect_of_perform?_none {leaf : Leaf} (foreign : c.perform? leaf = none) :
    leaf.isEffect = true := by
  cases leaf with
  | setState key value =>
      cases foreign
  | toggleState key =>
      cases foreign
  | _ =>
      rfl

theorem does_offer (c : ScreenController) (o : Offer) :
    c.Does (.offer o) (c.act (.offer o)) (c.deeds (.offer o)) := by
  rcases c.offer_cases o with refused | ⟨action, accepting, offered, accepted⟩
  · have doings : c.doings (.offer o) = [.refused] := by
      rw [doings, refused]
      rfl
    exact does_of_quiet (congrArg Prod.snd refused) rfl doings (.refuses o)
  · have doings : c.doings (.offer o) = [.accepted action] := by
      rw [doings, accepted, offered]
      rfl
    exact does_of_quiet (congrArg Prod.snd accepted) rfl doings (.accepts accepting offered)

theorem does_of_rest (work : c.work = .none) : c.Does .work (c.act .work) (c.deeds .work) :=
  does_of_quiet (by rw [act, step, work]) rfl (by rw [doings, work]) (.rests work)

theorem does_of_step (work : c.work = .step c') (same : c'.outcomes = c.outcomes)
    (does : c.Does .work c' (c.nextLeaf?.toList.map .performed)) :
    c.Does .work (c.act .work) (c.deeds .work) :=
  does_of_quiet (by rw [act, step, work]) same (by rw [doings, work]) does

theorem does_of_over {kind : String} {asking : Bool} (job : c.job = some ⟨kind, [], asking⟩) :
    c.Does .work (c.act .work) (c.deeds .work) := by
  have work := work_over job
  have nothing : c.doings .work = [] := by
    rw [doings, work, nextLeaf?, job]
    rfl
  exact does_of_sent (by rw [act, step, work]) rfl nothing (.ends job)

theorem does_of_leaf {kind : String} {leaf : Leaf} {todo : List Leaf}
    (job : c.job = some ⟨kind, leaf :: todo, false⟩) :
    c.Does .work (c.act .work) (c.deeds .work) := by
  have next : c.nextLeaf? = some leaf := nextLeaf?_eq_some_iff.mpr ⟨kind, todo, job⟩
  cases performed : c.perform? leaf with
  | none =>
      have work := work_ask job performed
      have asking : c.act .work = { c with job := some ⟨kind, leaf :: todo, true⟩ } := by
        rw [act, step, work]
      have asked : c.doings .work = [.asked leaf] := by
        rw [doings, work]
      exact does_of_quiet asking rfl asked (.asks job (isEffect_of_perform?_none performed))
  | some c' =>
      obtain ⟨surface, rfl⟩ := perform?_cases performed
      refine does_of_step (work_perform job performed) rfl ?_
      rw [next]
      exact .performs job surface

theorem does_work (c : ScreenController) : c.Does .work (c.act .work) (c.deeds .work) := by
  rcases job : c.job with _ | ⟨kind, _ | ⟨leaf, todo⟩, _ | _⟩
  · cases first : c.queue with
    | nil =>
        exact does_of_rest (work_idle ⟨job, first⟩)
    | cons action queue =>
        refine does_of_step (work_begin job first) rfl ?_
        rw [nextLeaf?, job]
        exact .begins job first
  · exact does_of_over job
  · exact does_of_over job
  · exact does_of_leaf job
  · exact does_of_rest (work_asking job)

theorem awaited?_eq_some_iff {leaf : Leaf} :
    c.awaited? = some leaf ↔ ∃ kind todo, c.job = some ⟨kind, leaf :: todo, true⟩ := by
  unfold awaited?
  rcases c.job with _ | ⟨kind, _ | ⟨first, todo⟩, _ | _⟩ <;> simp

/-- A reply to nothing changes nothing. -/
theorem reply_of_unawaited (unawaited : c.awaited? = none) (r : Reply) : c.reply r = c := by
  unfold awaited? at unawaited
  unfold reply
  rcases job : c.job with _ | ⟨kind, _ | ⟨leaf, todo⟩, _ | _⟩
  · rfl
  · rfl
  · rfl
  · rfl
  · rw [job] at unawaited
    cases unawaited

theorem does_reply (c : ScreenController) (r : Reply) :
    c.Does (.reply r) (c.act (.reply r)) (c.deeds (.reply r)) := by
  cases awaited : c.awaited? with
  | none =>
      have nothing : c.doings (.reply r) = [] := by
        rw [doings, awaited]
        rfl
      exact does_of_quiet (reply_of_unawaited awaited r) rfl nothing (.ignores r awaited)
  | some leaf =>
      obtain ⟨kind, todo, job⟩ := awaited?_eq_some_iff.mp awaited
      have replied : c.doings (.reply r) = [.replied r] := by
        rw [doings, awaited]
        rfl
      by_cases succeeds : r = .done
      · subst succeeds
        have next : c.act (.reply .done) =
            { c with job := some ⟨kind, todo, false⟩, hasTurn := true } := by
          rw [act, step, reply, job]
        exact does_of_quiet next rfl replied (.goesOn job)
      · have next : c.act (.reply r) =
            { c with hasTurn := true }.conclude ⟨kind, leaf :: todo, true⟩ r.result := by
          rw [act, step, reply, job]
          cases r with
          | done =>
              exact absurd rfl succeeds
          | failed e =>
              rfl
          | panicked p =>
              rfl
        exact does_of_sent next rfl replied (.stops job succeeds)

theorem does_wait (c : ScreenController) : c.Does .wait (c.act .wait) (c.deeds .wait) := by
  cases mayWait : c.mayWait with
  | false =>
      exact does_of_quiet (wait_of_busy mayWait) rfl rfl (.stays mayWait)
  | true =>
      cases isOpen : c.isOpen with
      | true =>
          exact does_of_quiet (wait_of_open mayWait isOpen) rfl rfl (.waits mayWait isOpen)
      | false =>
          exact does_of_quiet (wait_of_shut mayWait isOpen) rfl rfl (.drops mayWait isOpen)

theorem does_shutdown (c : ScreenController) :
    c.Does .shutdown (c.act .shutdown) (c.deeds .shutdown) := by
  cases hasTurn : c.hasTurn with
  | true =>
      exact does_of_quiet (shutdown_of_turn hasTurn) rfl rfl (.closes hasTurn _)
  | false =>
      exact does_of_quiet (shutdown_of_rest hasTurn) rfl rfl (.shuts hasTurn _)

/-- No more than that is done, whatever happens. -/
theorem does (c : ScreenController) (event : WorkerEvent) :
    c.Does event (c.act event) (c.deeds event) := by
  cases event with
  | offer o =>
      exact c.does_offer o
  | surface event =>
      exact does_of_quiet rfl rfl rfl (.surface event _)
  | work =>
      exact c.does_work
  | reply r =>
      exact c.does_reply r
  | wait =>
      exact c.does_wait
  | shutdown =>
      exact c.does_shutdown

end Does

end ScreenController

/-! ### Coming to rest -/

/-- How many steps an action takes at most: it begins, it ends, and each leaf is asked for and
replied to. -/
def Action.cost (action : Action) : Nat := 2 * action.leaves.length + 2

/-- How many steps are left of an action under way, at most. -/
def Job.toil : Job → Nat
  | ⟨_, [], _⟩ => 1
  | ⟨_, _ :: todo, false⟩ => 2 * todo.length + 3
  | ⟨_, _ :: todo, true⟩ => 2 * todo.length + 2

@[simp] theorem Job.toil_free (kind : String) (todo : List Leaf) :
    Job.toil ⟨kind, todo, false⟩ = 2 * todo.length + 1 := by
  cases todo with
  | nil =>
      rfl
  | cons leaf todo =>
      rw [List.length_cons, Job.toil]
      omega

@[simp] theorem Job.toil_asking (kind : String) (leaf : Leaf) (todo : List Leaf) :
    Job.toil ⟨kind, leaf :: todo, true⟩ = 2 * todo.length + 2 := rfl

@[simp] theorem Job.toil_over (kind : String) (asking : Bool) :
    Job.toil ⟨kind, [], asking⟩ = 1 := rfl

namespace ScreenController

/-- Whether something is done towards ending an action. -/
def goesOn (c : ScreenController) : WorkerEvent → Bool
  | .work =>
    match c.work with
    | .none => false
    | .step _ | .ask .. => true
  | .reply _ => c.awaited?.isSome
  | .offer _ | .surface _ | .wait | .shutdown => false

/-- How many steps are left, at most. -/
def toil (c : ScreenController) : Nat :=
  (c.job.map Job.toil).getD 0 + (c.queue.map Action.cost).sum

section GoesOn

variable {c c' : ScreenController} {event : WorkerEvent} {done : List Deed}

theorem toil_free (free : c.job = none) : c.toil = (c.queue.map Action.cost).sum := by
  rw [toil, free]
  exact Nat.zero_add _

theorem toil_busy {job : Job} (busy : c.job = some job) :
    c.toil = job.toil + (c.queue.map Action.cost).sum := by
  rw [toil, busy]
  rfl

/-- What goes on comes off what is left, and only an action that is accepted adds to it. -/
theorem Does.toil (does : c.Does event c' done) :
    (if c.goesOn event then [event] else []).length + c'.toil ≤
      c.toil + ((done.filterMap Deed.accepted?).map Action.cost).sum := by
  have one : (if c.goesOn event then [event] else []).length ≤ 1 := by
    split <;> simp
  cases does with
  | refuses o =>
      simp [ScreenController.goesOn]
  | accepts accepting offered =>
      simp [ScreenController.goesOn, ScreenController.toil, Deed.accepted?, Nat.add_assoc]
  | surface event surface =>
      simp [ScreenController.goesOn, ScreenController.toil]
  | rests nothing =>
      simp [ScreenController.goesOn, nothing]
  | begins free first =>
      rw [toil_free free, first, toil_busy rfl, Job.toil_free, List.map_cons, List.sum_cons,
        Action.cost]
      dsimp only
      omega
  | ends finished =>
      rw [toil_busy finished, toil_free rfl, Job.toil_over]
      dsimp only [conclude]
      omega
  | performs next surface =>
      rw [toil_busy next, toil_busy rfl, Job.toil_free, Job.toil_free, List.length_cons]
      dsimp only
      omega
  | asks next effect =>
      rw [toil_busy next, toil_busy rfl, Job.toil_free, Job.toil_asking, List.length_cons]
      dsimp only
      omega
  | ignores r unawaited =>
      simp [ScreenController.goesOn, unawaited]
  | goesOn asking =>
      rw [toil_busy asking, toil_busy rfl, Job.toil_asking, Job.toil_free]
      dsimp only
      omega
  | stops asking fails =>
      rw [toil_busy asking, toil_free rfl, Job.toil_asking]
      dsimp only [conclude]
      omega
  | stays busy =>
      simp [ScreenController.goesOn]
  | waits mayWait accepting =>
      simp [ScreenController.goesOn, ScreenController.toil]
  | drops mayWait shut =>
      simp [ScreenController.goesOn, ScreenController.toil]
  | shuts waiting surface =>
      simp [ScreenController.goesOn, ScreenController.toil]
  | closes performing surface =>
      simp [ScreenController.goesOn, ScreenController.toil]

end GoesOn

section Closed

variable {c c' : ScreenController} {event : WorkerEvent} {done : List Deed}

/-- Nothing but a shutdown ends accepting. -/
theorem Does.isOpen (does : c.Does event c' done) (other : event ≠ .shutdown) :
    c'.isOpen = c.isOpen := by
  cases does with
  | shuts waiting surface =>
      exact absurd rfl other
  | closes performing surface =>
      exact absurd rfl other
  | _ =>
      rfl

/-- It accepts nothing, and nothing is under way. -/
def IsClosed (c : ScreenController) : Prop := c.isOpen = false ∧ c.IsIdle

/-- Nothing is done any more, and nothing is sent. -/
theorem Does.of_closed (does : c.Does event c' done) (closed : c.IsClosed) :
    c'.IsClosed ∧ c'.outcomes = c.outcomes ∧ ∀ deed ∈ done, deed = .refused := by
  obtain ⟨shut, free, empty⟩ := closed
  cases does with
  | refuses o =>
      exact ⟨⟨shut, free, empty⟩, rfl, fun deed mem => List.mem_singleton.mp mem⟩
  | accepts accepting offered =>
      cases accepting.symm.trans shut
  | begins _ first =>
      cases first.symm.trans empty
  | ends finished =>
      cases finished.symm.trans free
  | performs next surface =>
      cases next.symm.trans free
  | asks next effect =>
      cases next.symm.trans free
  | goesOn asking =>
      cases asking.symm.trans free
  | stops asking fails =>
      cases asking.symm.trans free
  | drops mayWait shut =>
      exact ⟨⟨shut, rfl, rfl⟩, rfl, List.forall_mem_nil _⟩
  | shuts waiting surface =>
      exact ⟨⟨rfl, rfl, rfl⟩, rfl, List.forall_mem_nil _⟩
  | closes performing surface =>
      exact ⟨⟨rfl, free, empty⟩, rfl, List.forall_mem_nil _⟩
  | _ =>
      exact ⟨⟨shut, free, empty⟩, rfl, List.forall_mem_nil _⟩

theorem IsClosed.after (closed : c.IsClosed) (events : List WorkerEvent) :
    (Run.after act c events).IsClosed ∧ (Run.after act c events).outcomes = c.outcomes ∧
      ∀ deed ∈ noted act deeds c events, deed = .refused := by
  induction events generalizing c with
  | nil =>
      exact ⟨closed, rfl, List.forall_mem_nil _⟩
  | cons event events ih =>
      obtain ⟨next, same, refused⟩ := (c.does event).of_closed closed
      obtain ⟨last, same', refused'⟩ := ih next
      refine ⟨last, same'.trans same, fun deed mem => ?_⟩
      rcases List.mem_append.mp mem with now | later
      · exact refused deed now
      · exact refused' deed later

end Closed

/-! ### Turns -/

section Turns

variable {c c' : ScreenController} {event : WorkerEvent} {done : List Deed}

/-- While nobody has the turn, there is something to wait for. -/
def KeepsTurns (c : ScreenController) : Prop := c.hasTurn = false → c.mayWait = true

theorem not_mayWait_of_working {kind : String} {todo : List Leaf}
    (job : c.job = some ⟨kind, todo, false⟩) : c.mayWait = false := by
  unfold mayWait
  rw [job]
  rcases todo with _ | ⟨leaf, todo⟩
  · rfl
  · cases leaf <;> rfl

theorem not_mayWait_of_over {kind : String} {asking : Bool}
    (job : c.job = some ⟨kind, [], asking⟩) : c.mayWait = false := by
  unfold mayWait
  rw [job]

/-- Whoever does not wait has the turn. -/
theorem KeepsTurns.hasTurn (keeps : c.KeepsTurns) (busy : c.mayWait = false) :
    c.hasTurn = true := by
  cases hasTurn : c.hasTurn with
  | true => rfl
  | false => cases busy.symm.trans (keeps hasTurn)

theorem KeepsTurns.of_does (keeps : c.KeepsTurns) (does : c.Does event c' done) :
    c'.KeepsTurns := by
  intro waiting
  cases does with
  | ends job =>
      cases (keeps.hasTurn (not_mayWait_of_over job)).symm.trans waiting
  | performs job surface =>
      cases (keeps.hasTurn (not_mayWait_of_working job)).symm.trans waiting
  | asks job effect =>
      cases (keeps.hasTurn (not_mayWait_of_working job)).symm.trans waiting
  | begins free first =>
      cases waiting
  | goesOn asking =>
      cases waiting
  | stops asking fails =>
      cases waiting
  | waits mayWait accepting =>
      exact mayWait
  | drops mayWait shut =>
      rfl
  | shuts waiting surface =>
      rfl
  | closes performing surface =>
      cases performing.symm.trans waiting
  | _ =>
      exact keeps waiting

end Turns

end ScreenController

end ServerDriven
