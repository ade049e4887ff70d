/-
Module: ServerDriven.Proofs.Dispatch.Performance
Purpose: Actions that are performed one after the other: what each comes to, what there is to see of
  it, and what there is to see of all of them in turn.
Main exports:
  Act, Performance, Performance.Leads, Performed, Deed, Unfinished, InTurn
-/
import ServerDriven.Proofs.Dispatch.LeavesInTurn
import ServerDriven.Screen.Controller

namespace ServerDriven

/-! ### Performances -/

/-- A leaf that has been performed. -/
inductive Act where
  /-- Without the host, and with success. -/
  | alone (leaf : Leaf)
  /-- The host was asked for an effect, and has replied. -/
  | asked (leaf : Leaf) (effect : leaf.isEffect = true) (r : Reply)

namespace Act

def leaf : Act → Leaf
  | .alone leaf => leaf
  | .asked leaf _ _ => leaf

/-- How it went. -/
def reply : Act → Reply
  | .alone _ => .done
  | .asked _ _ r => r

/-- Those that are effects. -/
def effects (acts : List Act) : List Act := acts.filter fun act => act.leaf.isEffect

end Act

/-- An action that has been performed as far as it goes, and how it ended. -/
structure Performance where
  action : Action
  acts : List Act
  result : DispatchResult

def Performance.outcome (p : Performance) : Outcome := ⟨p.action.kind, p.result⟩

namespace Action

/-- A host that replies by a script, and keeps a record of what it is asked for. -/
def scripted (leaf : Leaf) : StateM (List Reply × List Leaf) Reply :=
  modifyGet fun (replies, record) => (replies.headD .done, replies.tail, record ++ [leaf])

theorem play_scripted {leaf : Leaf} (effect : leaf.isEffect = true) (scratch : Scratch) (r : Reply)
    (replies : List Reply) (record : List Leaf) :
    play (performLeaf scripted leaf) scratch (r :: replies, record) =
      ((r, scratch), replies, record ++ [leaf]) :=
  play_effect scripted effect scratch (r :: replies, record)

theorem performLeaves_cons {m : Type → Type} [Monad m] (effects : Leaf → m Reply) (leaf : Leaf)
    (leaves : List Leaf) :
    performLeaves effects (leaf :: leaves) =
      andThen (performLeaf effects leaf) (performLeaves effects leaves) := rfl

/-- After leaves that have succeeded come those that are left. -/
theorem play_acts {acts : List Act} (succeeded : ∀ act ∈ acts, act.reply = .done)
    (todo : List Leaf) (scratch : Scratch) (replies : List Reply) (record : List Leaf) :
    play (performLeaves scripted (acts.map Act.leaf ++ todo)) scratch
        ((Act.effects acts).map Act.reply ++ replies, record) =
      play (performLeaves scripted todo) ((acts.map Act.leaf).foldl Scratch.after scratch)
        (replies, record ++ (Act.effects acts).map Act.leaf) := by
  induction acts generalizing scratch record with
  | nil =>
      simp [Act.effects]
  | cons act acts ih =>
      obtain ⟨first, others⟩ := List.forall_mem_cons.mp succeeded
      rw [List.map_cons, List.cons_append, performLeaves_cons]
      cases effect : act.leaf.isEffect with
      | false =>
          have inner := play_inner scripted effect scratch
            ((Act.effects acts).map Act.reply ++ replies, record)
          have rest : Act.effects (act :: acts) = Act.effects acts := by
            simp [Act.effects, effect]
          rw [rest, play_andThen_done inner]
          exact ih others (scratch.after act.leaf) record
      | true =>
          have done := play_scripted effect scratch act.reply
            ((Act.effects acts).map Act.reply ++ replies) record
          rw [first] at done
          have rest : Act.effects (act :: acts) = act :: Act.effects acts := by
            simp [Act.effects, effect]
          rw [rest, List.map_cons, List.map_cons, List.cons_append, first, play_andThen_done done,
            List.foldl_cons, Scratch.after_of_isEffect scratch effect, ih others, List.append_assoc,
            List.singleton_append]

end Action

namespace Performance

section Leads

open ServerDriven.Action

/-- A performance is what dispatching its action comes to from a scratch, when the host replies as
it did: the host is asked for the very same effects, and it all ends the same. -/
def Leads (p : Performance) (scratch scratch' : Scratch) : Prop :=
  play (p.action.dispatch scripted) scratch ((Act.effects p.acts).map Act.reply, []) =
    ((p.result, scratch'), [], (Act.effects p.acts).map Act.leaf)

theorem leads_of_play {action : Action} {acts : List Act} {scratch scratch' : Scratch}
    {reply : Reply}
    (played : play (performLeaves scripted action.leaves) scratch
      ((Act.effects acts).map Act.reply, []) =
        ((reply, scratch'), [], (Act.effects acts).map Act.leaf)) :
    (⟨action, acts, reply.result⟩ : Performance).Leads scratch scratch' := by
  rw [← perform_eq_performLeaves] at played
  unfold play at played
  unfold Leads play dispatch
  rw [StateT.run_map, StateT.run_map, played]
  rfl

/-- All leaves have succeeded. -/
theorem leads_of_all {action : Action} {acts : List Act}
    (succeeded : ∀ act ∈ acts, act.reply = .done) (leaves : action.leaves = acts.map Act.leaf)
    (scratch : Scratch) :
    (⟨action, acts, .ok ()⟩ : Performance).Leads scratch
      ((acts.map Act.leaf).foldl Scratch.after scratch) := by
  have played := play_acts succeeded [] scratch [] []
  rw [List.append_nil, List.append_nil] at played
  have ended : (.ok () : DispatchResult) = Reply.done.result := rfl
  rw [ended]
  apply leads_of_play
  rw [leaves]
  exact played

/-- The host was asked for a leaf that has not succeeded. -/
theorem leads_of_stop {action : Action} {acts : List Act}
    (succeeded : ∀ act ∈ acts, act.reply = .done) {leaf : Leaf} {todo : List Leaf}
    (leaves : action.leaves = acts.map Act.leaf ++ leaf :: todo) (effect : leaf.isEffect = true)
    {r : Reply} (stops : r ≠ .done) (scratch : Scratch) :
    (⟨action, acts ++ [.asked leaf effect r], r.result⟩ : Performance).Leads scratch
      ((acts.map Act.leaf).foldl Scratch.after scratch) := by
  have played := play_acts succeeded (leaf :: todo) scratch [r] []
  have effects : Act.effects (acts ++ [.asked leaf effect r]) =
      Act.effects acts ++ [.asked leaf effect r] := by
    simp [Act.effects, Act.leaf, effect]
  apply leads_of_play
  rw [effects, List.map_append, List.map_append, List.map_singleton, List.map_singleton, leaves]
  refine played.trans ?_
  rw [performLeaves_cons]
  exact play_andThen_stop (play_scripted effect _ r [] _) stops _

end Leads

end Performance

/-- Performances one after the other, from an empty scratch. -/
inductive Performed : List Performance → Scratch → Prop where
  | nil : Performed [] []
  | concat {done : List Performance} {p : Performance} {scratch scratch' : Scratch} :
      Performed done scratch → p.Leads scratch scratch' → Performed (done ++ [p]) scratch'

/-! ### What there is to see -/

/-- What can be seen of a controller that performs actions. -/
inductive Deed where
  /-- An action was offered, and accepted. -/
  | accepted (action : Action)
  /-- Something else was offered, or the controller has been shut down. -/
  | refused
  /-- A leaf was performed without the host. -/
  | performed (leaf : Leaf)
  /-- The host was asked to perform a leaf. -/
  | asked (leaf : Leaf)
  | replied (r : Reply)
  | sent (outcome : Outcome)

namespace Deed

def accepted? : Deed → Option Action
  | .accepted action => some action
  | _ => none

/-- Whether it is a part of performing an action. -/
def isWork : Deed → Bool
  | .accepted _ | .refused => false
  | .performed _ | .asked _ | .replied _ | .sent _ => true

/-- The leaf that is begun. -/
def begun? : Deed → Option Leaf
  | .performed leaf | .asked leaf => some leaf
  | _ => none

def isSent : Deed → Bool
  | .sent _ => true
  | _ => false

end Deed

def Act.deeds : Act → List Deed
  | .alone leaf => [.performed leaf]
  | .asked leaf _ r => [.asked leaf, .replied r]

def Performance.deeds (p : Performance) : List Deed :=
  p.acts.flatMap Act.deeds ++ [.sent p.outcome]

namespace Act

theorem flatMap_deeds_concat (acts : List Act) (act : Act) :
    (acts ++ [act]).flatMap deeds = acts.flatMap deeds ++ act.deeds := by
  simp

theorem work_of_mem_deeds {acts : List Act} :
    ∀ deed ∈ acts.flatMap deeds, deed.isWork = true ∧ deed.isSent = false := by
  intro deed mem
  obtain ⟨act, -, mem⟩ := List.mem_flatMap.mp mem
  cases act with
  | alone leaf =>
      cases List.mem_singleton.mp mem
      exact ⟨rfl, rfl⟩
  | asked leaf effect r =>
      rcases List.mem_cons.mp mem with rfl | last
      · exact ⟨rfl, rfl⟩
      · cases List.mem_singleton.mp last
        exact ⟨rfl, rfl⟩

theorem begun_deeds (acts : List Act) :
    (acts.flatMap deeds).filterMap Deed.begun? = acts.map leaf := by
  induction acts with
  | nil =>
      rfl
  | cons act acts ih =>
      rw [List.flatMap_cons, List.filterMap_append, ih]
      cases act <;> rfl

end Act

/-- Deeds by which the first of some actions has been begun, but not ended. -/
structure Unfinished (pending : List Action) (deeds : List Deed) : Prop where
  work : ∀ deed ∈ deeds, deed.isWork = true ∧ deed.isSent = false
  begun : deeds.filterMap Deed.begun? <+: (pending.head?.map Action.leaves).getD []

namespace Unfinished

variable {action : Action} {acts : List Act} {todo : List Leaf} {pending : List Action}

theorem nil : Unfinished pending [] := ⟨List.forall_mem_nil _, List.nil_prefix⟩

theorem of_acts (leaves : action.leaves = acts.map Act.leaf ++ todo) :
    Unfinished (action :: pending) (acts.flatMap Act.deeds) := by
  refine ⟨Act.work_of_mem_deeds, ?_⟩
  rw [Act.begun_deeds]
  exact ⟨todo, leaves.symm⟩

theorem of_asked {leaf : Leaf} (leaves : action.leaves = acts.map Act.leaf ++ leaf :: todo) :
    Unfinished (action :: pending) (acts.flatMap Act.deeds ++ [.asked leaf]) := by
  constructor
  · intro deed mem
    rcases List.mem_append.mp mem with before | last
    · exact Act.work_of_mem_deeds deed before
    · cases List.mem_singleton.mp last
      exact ⟨rfl, rfl⟩
  · rw [List.filterMap_append, Act.begun_deeds]
    refine ⟨todo, Eq.trans ?_ leaves.symm⟩
    exact List.append_assoc _ [leaf] todo

end Unfinished

/-- Actions are performed in the order in which they were accepted.  Those that are done are a
prefix of them, and their performances make up all that was done, up to what was done of the first
of those that are pending; an outcome was sent of each, and nothing else was sent. -/
structure InTurn (deeds : List Deed) (outcomes : List Outcome) (done : List Performance)
    (pending : List Action) (unfinished : List Deed) : Prop where
  accepted : deeds.filterMap Deed.accepted? = done.map (·.action) ++ pending
  worked : deeds.filter Deed.isWork = done.flatMap Performance.deeds ++ unfinished
  sent : outcomes = done.map Performance.outcome

namespace InTurn

variable {deeds : List Deed} {outcomes : List Outcome} {done : List Performance}
  {pending : List Action} {unfinished : List Deed}

theorem start : InTurn [] [] [] [] [] := ⟨rfl, rfl, rfl⟩

theorem refuse (turn : InTurn deeds outcomes done pending unfinished) :
    InTurn (deeds ++ [.refused]) outcomes done pending unfinished := by
  constructor
  · rw [List.filterMap_append, turn.accepted]
    exact List.append_nil _
  · rw [List.filter_append, turn.worked]
    exact List.append_nil _
  · exact turn.sent

theorem accept (turn : InTurn deeds outcomes done pending unfinished) (action : Action) :
    InTurn (deeds ++ [.accepted action]) outcomes done (pending ++ [action]) unfinished := by
  constructor
  · rw [List.filterMap_append, turn.accepted, List.append_assoc]
    rfl
  · rw [List.filter_append, turn.worked]
    exact List.append_nil _
  · exact turn.sent

theorem work (turn : InTurn deeds outcomes done pending unfinished) {deed : Deed}
    (isWork : deed.isWork = true) :
    InTurn (deeds ++ [deed]) outcomes done pending (unfinished ++ [deed]) := by
  have noOffer : deed.accepted? = none := by
    cases deed with
    | accepted action =>
        cases isWork
    | _ =>
        rfl
  constructor
  · simp [turn.accepted, noOffer]
  · simp [turn.worked, isWork]
  · exact turn.sent

/-- The first of the pending actions is over. -/
theorem finish {p : Performance}
    (turn : InTurn deeds outcomes done (p.action :: pending) (p.acts.flatMap Act.deeds)) :
    InTurn (deeds ++ [.sent p.outcome]) (outcomes ++ [p.outcome]) (done ++ [p]) pending [] := by
  constructor
  · simp [turn.accepted, Deed.accepted?]
  · simp [turn.worked, Deed.isWork, Performance.deeds]
  · simp [turn.sent]

end InTurn

end ServerDriven
