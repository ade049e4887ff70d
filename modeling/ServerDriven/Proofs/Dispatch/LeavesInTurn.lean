/-
Module: ServerDriven.Proofs.Dispatch.LeavesInTurn
Purpose: An action is performed as its leaves are, one after the other, up to the first that does
  not succeed; how they are nested makes no difference.
Main exports:
  Leaf.isEffect, Scratch.after, Action.performLeaves, Action.perform_eq_performLeaves, Ends,
  dispatch_performs_leaves_in_turn
-/
import ServerDriven.Dispatch.Basic

namespace ServerDriven

/-! ### One leaf -/

/-- Whether a leaf is an effect of the host.  The others concern the scratch and nothing else. -/
def Leaf.isEffect : Leaf → Bool
  | .setState .. | .toggleState _ => false
  | _ => true

/-- The scratch after a leaf. -/
def Scratch.after (scratch : Scratch) : Leaf → Scratch
  | .setState key value => Entries.put key value scratch
  | .toggleState key =>
    Entries.put key (if Entries.get? scratch key = some "true" then "false" else "true") scratch
  | _ => scratch

theorem Leaf.scratchChange?_eq_none {leaf : Leaf} (effect : leaf.isEffect = true) :
    leaf.scratchChange? = none := by
  cases leaf with
  | setState key value =>
      cases effect
  | toggleState key =>
      cases effect
  | _ =>
      rfl

theorem Leaf.scratchChange?_eq_some {leaf : Leaf} (inner : leaf.isEffect = false) :
    leaf.scratchChange? = some fun scratch => scratch.after leaf := by
  cases leaf with
  | setState key value =>
      rfl
  | toggleState key =>
      rfl
  | _ =>
      cases inner

theorem Scratch.after_of_isEffect (scratch : Scratch) {leaf : Leaf} (effect : leaf.isEffect = true) :
    scratch.after leaf = scratch := by
  cases leaf with
  | setState key value =>
      cases effect
  | toggleState key =>
      cases effect
  | _ =>
      rfl

namespace Action

/-! ### Leaves in turn -/

section InTurn

variable {m : Type → Type} [Monad m]

/-- Do something, and something else if that has succeeded. -/
def andThen (first next : StateT Scratch m Reply) : StateT Scratch m Reply := do
  match ← first with
  | .done => next
  | reply => pure reply

/-- Perform leaves one after the other, up to the first that does not succeed. -/
def performLeaves (effects : Leaf → m Reply) (leaves : List Leaf) : StateT Scratch m Reply :=
  leaves.foldr (fun leaf next => andThen (performLeaf effects leaf) next) (pure .done)

variable [LawfulMonad m]

@[simp] theorem pure_done_andThen (next : StateT Scratch m Reply) :
    andThen (pure .done) next = next := by
  simp [andThen]

@[simp] theorem andThen_pure_done (first : StateT Scratch m Reply) :
    andThen first (pure .done) = first := by
  have same : (fun reply : Reply => match reply with
      | .done => pure .done
      | reply => pure reply) = (pure : Reply → StateT Scratch m Reply) := by
    funext reply
    cases reply <;> rfl
  unfold andThen
  rw [same]
  exact bind_pure first

theorem andThen_assoc (first second third : StateT Scratch m Reply) :
    andThen (andThen first second) third = andThen first (andThen second third) := by
  simp only [andThen, bind_assoc]
  refine bind_congr fun reply => ?_
  cases reply with
  | done =>
      rfl
  | failed e =>
      simp
  | panicked p =>
      simp

variable (effects : Leaf → m Reply)

theorem performLeaves_append (leaves more : List Leaf) :
    performLeaves effects (leaves ++ more) =
      andThen (performLeaves effects leaves) (performLeaves effects more) := by
  induction leaves with
  | nil =>
      exact (pure_done_andThen _).symm
  | cons leaf rest ih =>
      change andThen (performLeaf effects leaf) (performLeaves effects (rest ++ more)) = _
      rw [ih, ← andThen_assoc]
      rfl

mutual

/-- How the leaves of an action are nested makes no difference. -/
theorem perform_eq_performLeaves :
    ∀ action : Action, perform effects action = performLeaves effects action.leaves
  | .leaf l => by
      unfold perform
      exact (andThen_pure_done (performLeaf effects l)).symm
  | .batch actions => by
      unfold perform leaves
      exact performAll_eq_performLeaves actions

/-- A batch performs the leaves of its actions. -/
theorem performAll_eq_performLeaves :
    ∀ actions : List Action, performAll effects actions = performLeaves effects (leavesOfAll actions)
  | [] => rfl
  | action :: rest => by
      unfold leavesOfAll
      rw [performLeaves_append, ← perform_eq_performLeaves action,
        ← performAll_eq_performLeaves rest]
      rfl

end

end InTurn

/-! ### What there is to see of it -/

/-- How a row of leaves ends of which some have been performed and the rest has not, when the host
has given so many replies. -/
inductive Ends : (ran rest : List Leaf) → (replies : List Reply) → DispatchResult → Prop where
  /-- All have succeeded. -/
  | all {ran : List Leaf} {replies : List Reply} (succeeded : ∀ reply ∈ replies, reply = .done) :
      Ends ran [] replies (.ok ())
  /-- All but the last that was performed have succeeded, and that one fails. -/
  | failed {ran rest : List Leaf} {replies : List Reply}
      (succeeded : ∀ reply ∈ replies, reply = .done) {leaf : Leaf} (effect : leaf.isEffect = true)
      (e : DispatchError) :
      Ends (ran ++ [leaf]) rest (replies ++ [.failed e]) (.error e)
  /-- All but the last that was performed have succeeded, and that one breaks down with a text. -/
  | panicked {ran rest : List Leaf} {replies : List Reply}
      (succeeded : ∀ reply ∈ replies, reply = .done) {leaf : Leaf} (effect : leaf.isEffect = true)
      (text : String) :
      Ends (ran ++ [leaf]) rest (replies ++ [.panicked (.text text)]) (.error (.panicked text))
  /-- The same, but that one breaks down with something that cannot be read. -/
  | panickedMutely {ran rest : List Leaf} {replies : List Reply}
      (succeeded : ∀ reply ∈ replies, reply = .done) {leaf : Leaf} (effect : leaf.isEffect = true) :
      Ends (ran ++ [leaf]) rest (replies ++ [.panicked .other])
        (.error (.panicked "unknown panic"))

namespace Ends

variable {ran rest : List Leaf} {replies : List Reply} {result : DispatchResult}

/-- A leaf that concerns the scratch goes before. -/
theorem cons_inner (leaf : Leaf) (ending : Ends ran rest replies result) :
    Ends (leaf :: ran) rest replies result := by
  cases ending with
  | all succeeded =>
      exact .all succeeded
  | failed succeeded effect e =>
      rw [← List.cons_append]
      exact .failed succeeded effect e
  | panicked succeeded effect text =>
      rw [← List.cons_append]
      exact .panicked succeeded effect text
  | panickedMutely succeeded effect =>
      rw [← List.cons_append]
      exact .panickedMutely succeeded effect

/-- An effect that succeeds goes before. -/
theorem cons_effect (leaf : Leaf) (ending : Ends ran rest replies result) :
    Ends (leaf :: ran) rest (.done :: replies) result := by
  cases ending with
  | all succeeded =>
      exact .all (List.forall_mem_cons.mpr ⟨rfl, succeeded⟩)
  | failed succeeded effect e =>
      rw [← List.cons_append, ← List.cons_append]
      exact .failed (List.forall_mem_cons.mpr ⟨rfl, succeeded⟩) effect e
  | panicked succeeded effect text =>
      rw [← List.cons_append, ← List.cons_append]
      exact .panicked (List.forall_mem_cons.mpr ⟨rfl, succeeded⟩) effect text
  | panickedMutely succeeded effect =>
      rw [← List.cons_append, ← List.cons_append]
      exact .panickedMutely (List.forall_mem_cons.mpr ⟨rfl, succeeded⟩) effect

/-- The first effect does not succeed. -/
theorem stop {leaf : Leaf} (effect : leaf.isEffect = true) {reply : Reply} (stops : reply ≠ .done)
    (rest : List Leaf) : Ends [leaf] rest [reply] reply.result := by
  have before : ∀ reply ∈ ([] : List Reply), reply = .done := nofun
  cases reply with
  | done =>
      exact absurd rfl stops
  | failed e =>
      change Ends ([] ++ [leaf]) rest ([] ++ [.failed e]) (.error e)
      exact .failed before effect e
  | panicked p =>
      cases p with
      | text text =>
          change Ends ([] ++ [leaf]) rest ([] ++ [.panicked (.text text)]) (.error (.panicked text))
          exact .panicked before effect text
      | other =>
          change Ends ([] ++ [leaf]) rest ([] ++ [.panicked .other])
            (.error (.panicked "unknown panic"))
          exact .panickedMutely before effect

end Ends

section Host

variable {H : Type} (host : Leaf → StateM H Reply)

/-- What a program leads to from a scratch and a host. -/
def play {α : Type} (program : StateT Scratch (StateM H) α) (scratch : Scratch) (h : H) :
    (α × Scratch) × H :=
  (program.run scratch).run h

theorem play_effect {leaf : Leaf} (effect : leaf.isEffect = true) (scratch : Scratch) (h : H) :
    play (performLeaf host leaf) scratch h =
      ((((host leaf).run h).1, scratch), ((host leaf).run h).2) := by
  unfold performLeaf
  rw [Leaf.scratchChange?_eq_none effect]
  rfl

theorem play_inner {leaf : Leaf} (inner : leaf.isEffect = false) (scratch : Scratch) (h : H) :
    play (performLeaf host leaf) scratch h = ((.done, scratch.after leaf), h) := by
  unfold performLeaf
  rw [Leaf.scratchChange?_eq_some inner]
  rfl

/-- After something that succeeds the rest is done. -/
theorem play_andThen_done {first : StateT Scratch (StateM H) Reply} {scratch scratch' : Scratch}
    {h h' : H} (done : play first scratch h = ((.done, scratch'), h'))
    (next : StateT Scratch (StateM H) Reply) :
    play (andThen first next) scratch h = play next scratch' h' := by
  unfold play at done ⊢
  simp only [andThen, StateT.run_bind, done]
  rfl

/-- After something that does not succeed nothing is done. -/
theorem play_andThen_stop {first : StateT Scratch (StateM H) Reply} {scratch scratch' : Scratch}
    {h h' : H} {reply : Reply} (stop : play first scratch h = ((reply, scratch'), h'))
    (notDone : reply ≠ .done) (next : StateT Scratch (StateM H) Reply) :
    play (andThen first next) scratch h = ((reply, scratch'), h') := by
  unfold play at stop ⊢
  simp only [andThen, StateT.run_bind, stop]
  cases reply with
  | done =>
      exact absurd rfl notDone
  | failed e =>
      rfl
  | panicked p =>
      rfl

/-- A host that is asked for one thing more, before the others. -/
theorem run_mapM_cons {leaf : Leaf} {leaves : List Leaf} {reply : Reply} {replies : List Reply}
    {h h₁ h' : H} (replied : (host leaf).run h = (reply, h₁))
    (asked : (leaves.mapM host).run h₁ = (replies, h')) :
    ((leaf :: leaves).mapM host).run h = (reply :: replies, h') := by
  rw [List.mapM_cons, StateT.run_bind, replied]
  change StateT.run (leaves.mapM host >>= fun replies => pure (reply :: replies)) h₁ = _
  rw [StateT.run_bind, asked]
  rfl

/-- Leaves in turn: which are performed, what the host is asked for, and what is left. -/
theorem play_performLeaves (leaves : List Leaf) (scratch : Scratch) (h : H) :
    ∃ ran rest replies reply h',
      leaves = ran ++ rest ∧
      ((ran.filter Leaf.isEffect).mapM host).run h = (replies, h') ∧
      play (performLeaves host leaves) scratch h = ((reply, ran.foldl Scratch.after scratch), h') ∧
      Ends ran rest replies reply.result := by
  induction leaves generalizing scratch h with
  | nil =>
      exact ⟨[], [], [], .done, h, rfl, rfl, rfl, .all nofun⟩
  | cons leaf leaves ih =>
      cases effect : leaf.isEffect with
      | false =>
          obtain ⟨ran, rest, replies, reply, h', all, asked, played, ends⟩ :=
            ih (scratch.after leaf) h
          refine ⟨leaf :: ran, rest, replies, reply, h', by rw [all]; rfl, ?_, ?_,
            ends.cons_inner leaf⟩
          · rw [List.filter_cons_of_neg (by simp [effect])]
            exact asked
          · exact (play_andThen_done (play_inner host effect scratch h) _).trans played
      | true =>
          have first := play_effect host effect scratch h
          have asks : ∀ ran, ((leaf :: ran).filter Leaf.isEffect) =
              leaf :: ran.filter Leaf.isEffect :=
            fun ran => List.filter_cons_of_pos effect
          rcases replied : (host leaf).run h with ⟨reply, h₁⟩
          rw [replied] at first
          by_cases done : reply = .done
          · subst done
            obtain ⟨ran, rest, replies, reply, h', all, asked, played, ends⟩ := ih scratch h₁
            refine ⟨leaf :: ran, rest, .done :: replies, reply, h', by rw [all]; rfl, ?_, ?_,
              ends.cons_effect leaf⟩
            · rw [asks]
              exact run_mapM_cons host replied asked
            · rw [List.foldl_cons, Scratch.after_of_isEffect scratch effect]
              exact (play_andThen_done first _).trans played
          · refine ⟨[leaf], leaves, [reply], reply, h₁, rfl, ?_, ?_, .stop effect done leaves⟩
            · rw [asks]
              exact run_mapM_cons host replied rfl
            · rw [List.foldl_cons, Scratch.after_of_isEffect scratch effect]
              exact play_andThen_stop first done _

end Host

end Action

open ServerDriven.Action in
/-- An action is performed as its leaves are from left to right, up to the first that fails or
breaks down.  For any host, in any state: the host is asked for the effects among the leaves that
are performed, each once and in their order, and for nothing else; the scratch is what these leaves
make of it; and the result is the failure of the last of them, or success if all have succeeded.  If
that one breaks down, the failure tells the text that is left of it, or that nothing is known of it.
Actions with the same leaves are performed alike, however these are nested. -/
theorem dispatch_performs_leaves_in_turn {H : Type} (host : Leaf → StateM H Reply) (action : Action)
    (scratch : Scratch) (h : H) :
    (∃ ran rest replies result h',
      action.leaves = ran ++ rest ∧
      ((ran.filter Leaf.isEffect).mapM host).run h = (replies, h') ∧
      ((action.dispatch host).run scratch).run h =
        ((result, ran.foldl Scratch.after scratch), h') ∧
      Ends ran rest replies result) ∧
    ∀ other : Action, other.leaves = action.leaves → other.dispatch host = action.dispatch host := by
  constructor
  · obtain ⟨ran, rest, replies, reply, h', all, asked, played, ends⟩ :=
      play_performLeaves host action.leaves scratch h
    refine ⟨ran, rest, replies, reply.result, h', all, asked, ?_, ends⟩
    rw [← perform_eq_performLeaves] at played
    unfold play at played
    rw [dispatch, StateT.run_map, StateT.run_map, played]
    rfl
  · intro other same
    unfold dispatch
    rw [perform_eq_performLeaves host other, perform_eq_performLeaves host action, same]

end ServerDriven
