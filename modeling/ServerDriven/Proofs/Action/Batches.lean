/-
Module: ServerDriven.Proofs.Action.Batches
Purpose: What stands inside the batches of an action, at any depth, when it was read from a value;
  and that elements which ask for nothing make no difference to it.
Main exports:
  Action.at?, Json.listed, Json.at?, Json.at?_of_ofJson?, Action.leaves_ne_nil,
  Action.dispatch_begins, Sifted, Json.SameButJunk, Action.batches_hold_what_is_asked
-/
import ServerDriven.Proofs.Action.Grammar
import ServerDriven.Proofs.Dispatch.LeavesInTurn

namespace ServerDriven

/-! ### Places -/

namespace Action

/-- The action at a place, which is a place in a batch, a place in the batch that stands there, and
so on. -/
def at? (action : Action) : List Nat → Option Action
  | [] => some action
  | n :: place =>
    match action with
    | .batch actions => actions[n]?.bind fun inner => inner.at? place
    | .leaf _ => none

end Action

namespace Json

open ServerDriven.Action

/-- The elements of a batch; nothing else has any. -/
def elements : Json → List Json
  | .object members =>
    if (text? members "type").bind Verb.ofText? = some .batch then
      ((Entries.get? members "actions").bind asArray?).getD []
    else []
  | _ => []

/-- The elements of a batch that ask for something, in their order. -/
def listed (v : Json) : List Json := v.elements.filter fun item => (ofJson? item).isSome

/-- The value at a place, where elements that ask for nothing are passed over. -/
def at? (v : Json) : List Nat → Option Json
  | [] => some v
  | n :: place => v.listed[n]?.bind fun inner => inner.at? place

/-- What is kept of a list stands where its origin stands among what is kept. -/
theorem getElem?_filterMap {α β : Type} (f : α → Option β) (items : List α) (n : Nat) :
    (items.filterMap f)[n]? = (items.filter fun item => (f item).isSome)[n]?.bind f := by
  induction items generalizing n with
  | nil =>
      rfl
  | cons item items ih =>
      cases made : f item with
      | none =>
          rw [List.filterMap_cons_none made, List.filter_cons_of_neg (by simp [made])]
          exact ih n
      | some b =>
          rw [List.filterMap_cons_some made, List.filter_cons_of_pos (by simp [made])]
          cases n with
          | zero =>
              exact made.symm
          | succ n =>
              exact ih n

variable {v : Json} {action : Action} {actions : List Action} {leaf : Leaf}

/-- A batch is read from the list of an object that names it, and holds what the elements of that
list ask for. -/
theorem batch_of_ofJson? (asked : ofJson? v = some (.batch actions)) :
    actions ≠ [] ∧ ∃ members items, v = .object members ∧ Names members .batch ∧
      Entries.get? members "actions" = some (.array items) ∧
      actions = items.filterMap ofJson? := by
  cases v with
  | object members =>
      rcases ofJson?_object_eq_some_iff.mp asked with
        ⟨verb, leaf, -, -, other⟩ | ⟨items, names, held, some, same⟩
      · cases other
      · cases same
        exact ⟨some, members, items, rfl, names, held, rfl⟩
  | _ =>
      rw [ofJson?_of_asObject?_eq_none rfl] at asked
      cases asked

theorem listed_of_batch (asked : ofJson? v = some (.batch actions)) (n : Nat) :
    actions[n]? = v.listed[n]?.bind ofJson? := by
  obtain ⟨-, members, items, rfl, names, held, rfl⟩ := batch_of_ofJson? asked
  have all : elements (.object members) = items := by
    rw [elements, if_pos (verb?_eq_some_iff.mpr names), held]
    rfl
  rw [listed, all]
  exact getElem?_filterMap ofJson? items n

theorem listed_of_leaf (asked : ofJson? v = some (.leaf leaf)) : v.listed = [] := by
  cases v with
  | object members =>
      rcases ofJson?_object_eq_some_iff.mp asked with
        ⟨verb, leaf, names, gives, -⟩ | ⟨items, -, -, -, other⟩
      · have single : (text? members "type").bind Verb.ofText? ≠ some .batch := by
          rw [verb?_eq_some_iff.mpr names]
          rintro ⟨⟩
          cases gives
        rw [listed, elements, if_neg single]
        rfl
      · cases other
  | _ =>
      rfl

/-- The action at a place is what the value at that place asks for. -/
theorem at?_of_ofJson? (asked : ofJson? v = some action) (place : List Nat) :
    action.at? place = (v.at? place).bind ofJson? := by
  induction place generalizing v action with
  | nil =>
      exact asked.symm
  | cons n place ih =>
      rw [Json.at?]
      cases action with
      | leaf leaf =>
          rw [listed_of_leaf asked]
          rfl
      | batch actions =>
          rw [Action.at?, listed_of_batch asked]
          cases found : v.listed[n]? with
          | none =>
              rfl
          | some item =>
              obtain ⟨inner, made⟩ := Option.isSome_iff_exists.mp
                (List.mem_filter.mp (List.mem_of_getElem? found)).2
              rw [Option.bind_some, Option.bind_some, made]
              exact ih made

end Json

/-! ### Leaves -/

namespace Action

open Json

theorem leavesOfAll_ne_nil {actions : List Action} {action : Action} (mem : action ∈ actions)
    (some : action.leaves ≠ []) : leavesOfAll actions ≠ [] := by
  induction actions with
  | nil =>
      cases mem
  | cons first rest ih =>
      unfold leavesOfAll
      rcases List.mem_cons.mp mem with rfl | later
      · exact List.append_ne_nil_of_left_ne_nil some _
      · exact List.append_ne_nil_of_right_ne_nil _ (ih later)

/-- Whatever a value asks for, there is something to do. -/
theorem leaves_ne_nil {v : Json} {action : Action} (asked : ofJson? v = some action) :
    action.leaves ≠ [] := by
  induction v using Action.induction generalizing action with
  | object members ih =>
      rcases ofJson?_object_eq_some_iff.mp asked with
        ⟨verb, leaf, -, -, rfl⟩ | ⟨items, -, held, some, rfl⟩
      · exact List.cons_ne_nil leaf []
      · obtain ⟨item, mem, accepted⟩ := filterMap_ne_nil_iff.mp some
        obtain ⟨inner, made⟩ := Option.isSome_iff_exists.mp accepted
        have inside : inner ∈ items.filterMap ofJson? := List.mem_filterMap.mpr ⟨item, mem, made⟩
        unfold leaves
        exact leavesOfAll_ne_nil inside (ih items held item mem made)
  | other v noObject =>
      rw [ofJson?_of_asObject?_eq_none noObject] at asked
      cases asked

/-- Where nothing has been performed, nothing is left. -/
theorem Ends.rest_eq_nil {ran rest : List Leaf} {replies : List Reply} {result : DispatchResult}
    (ends : Ends ran rest replies result) (nothing : ran = []) : rest = [] := by
  cases ends with
  | all =>
      rfl
  | _ =>
      cases List.append_ne_nil_of_right_ne_nil _ (List.cons_ne_nil _ _) nothing

/-- When there is something to do, dispatching an action performs the first of it at least: the host
is asked for what it has to perform of some leaves, the first among them, and the scratch is what
these leaves make of it. -/
theorem dispatch_begins {H : Type} (host : Leaf → StateM H Reply) {action : Action}
    {first : Leaf} {others : List Leaf} (begins : action.leaves = first :: others)
    (scratch : Scratch) (h : H) :
    ∃ ran rest replies result h',
      others = ran ++ rest ∧
      (((first :: ran).filter Leaf.isEffect).mapM host).run h = (replies, h') ∧
      ((action.dispatch host).run scratch).run h =
        ((result, (first :: ran).foldl Scratch.after scratch), h') := by
  obtain ⟨ran, rest, replies, reply, h', all, asked, played, ends⟩ :=
    play_performLeaves host action.leaves scratch h
  rw [← perform_eq_performLeaves] at played
  have result : ((action.dispatch host).run scratch).run h =
      ((reply.result, ran.foldl Scratch.after scratch), h') := by
    unfold play at played
    rw [dispatch, StateT.run_map, StateT.run_map, played]
    rfl
  rw [begins] at all
  cases ran with
  | nil =>
      cases all.trans (ends.rest_eq_nil rfl)
  | cons leaf ran =>
      obtain ⟨rfl, split⟩ := List.cons.inj all
      exact ⟨ran, rest, replies, reply.result, h', split, asked, result⟩

end Action

/-! ### Elements that ask for nothing -/

/-- Lists that are alike but for junk, which either may have anywhere. -/
inductive Sifted {α : Type} (junk : α → Prop) (alike : α → α → Prop) : List α → List α → Prop where
  | nil : Sifted junk alike [] []
  | kept {a b : α} {as bs : List α} (same : alike a b) (rest : Sifted junk alike as bs) :
      Sifted junk alike (a :: as) (b :: bs)
  | dropped {a : α} {as bs : List α} (nothing : junk a) (rest : Sifted junk alike as bs) :
      Sifted junk alike (a :: as) bs
  | added {b : α} {as bs : List α} (nothing : junk b) (rest : Sifted junk alike as bs) :
      Sifted junk alike as (b :: bs)

/-- Of junk nothing is made. -/
theorem Sifted.filterMap_eq {α β : Type} {alike : α → α → Prop} {f : α → Option β} {as bs : List α}
    (sifted : Sifted (fun a => f a = none) alike as bs)
    (same : ∀ a ∈ as, ∀ b, alike a b → f a = f b) : as.filterMap f = bs.filterMap f := by
  induction sifted with
  | nil =>
      rfl
  | kept alike rest ih =>
      obtain ⟨first, others⟩ := List.forall_mem_cons.mp same
      rw [List.filterMap_cons, List.filterMap_cons, first _ alike, ih others]
  | dropped nothing rest ih =>
      rw [List.filterMap_cons_none nothing, ih (List.forall_mem_cons.mp same).2]
  | added nothing rest ih =>
      rw [List.filterMap_cons_none nothing, ih same]

namespace Json

open ServerDriven.Action

/-- Values that differ at most in elements of their `actions` that ask for nothing, and in such
elements further inside. -/
inductive SameButJunk : Json → Json → Prop where
  | same (v : Json) : SameButJunk v v
  | object {members : Members} {items items' : List Json}
      (held : Entries.get? members "actions" = some (.array items))
      (sifted : Sifted (fun item => ofJson? item = none) SameButJunk items items') :
      SameButJunk (.object members) (.object (Entries.put "actions" (.array items') members))

/-- Only a batch looks at its `actions`. -/
theorem ofJson?_put_actions {members : Members} {items items' : List Json}
    (held : Entries.get? members "actions" = some (.array items))
    (same : items.filterMap ofJson? = items'.filterMap ofJson?) :
    ofJson? (.object members) =
      ofJson? (.object (Entries.put "actions" (.array items') members)) := by
  have type : Entries.get? members "type" =
      Entries.get? (Entries.put "actions" (.array items') members) "type" := by
    rw [Entries.get?_put, if_neg (by decide)]
  by_cases named : ∃ verb, Names members verb
  · obtain ⟨verb, names⟩ := named
    have names' := (names_congr type).mp names
    by_cases single : verb = .batch
    · subst single
      rw [ofJson?_batch names, ofJson?_batch names', held, Entries.get?_put, if_pos rfl]
      exact congrArg batch? same
    · have others : "actions" ∉ verb.keys := by
        cases verb with
        | batch =>
            exact absurd rfl single
        | _ =>
            decide
      rw [ofJson?_leaf names single, ofJson?_leaf names' single]
      refine congrArg _ (Verb.leaf?_congr fun key own => ?_)
      rw [Entries.get?_put, if_neg]
      rintro rfl
      exact others own
  · have named' : ∀ verb, ¬Names (Entries.put "actions" (.array items') members) verb :=
      fun verb names => named ⟨verb, (names_congr type).mpr names⟩
    rw [ofJson?_unnamed (not_exists.mp named), ofJson?_unnamed named']

theorem ofJson?_of_sameButJunk {v w : Json} (alike : SameButJunk v w) : ofJson? v = ofJson? w := by
  induction v using Action.induction generalizing w with
  | object members ih =>
      cases alike with
      | same =>
          rfl
      | object held sifted =>
          exact ofJson?_put_actions held
            (sifted.filterMap_eq fun item mem w alike => ih _ held item mem alike)
  | other v noObject =>
      cases alike with
      | same => rfl
      | object => cases noObject

end Json

namespace Action

open Json

/-- Batches hold what their elements ask for.

When an action is read from a value, then at every place inside it there is what the value at that
place asks for; so every batch, at any depth, holds what the elements of the list that it was read
from ask for, in their order, without those that ask for nothing, and it is never empty.  The action
has leaves, and dispatching it performs the first of them at least, on whatever host.

Elements that ask for nothing may be put into the lists of actions in a value and taken out of them,
at any depth: the value asks for the same action, or for none as before. -/
theorem batches_hold_what_is_asked :
    (∀ v action, ofJson? v = some action →
      (∀ place, action.at? place = (v.at? place).bind ofJson?) ∧
      (∀ place actions, action.at? place = some (.batch actions) →
        actions ≠ [] ∧ ∃ members items, v.at? place = some (.object members) ∧
          Entries.get? members "actions" = some (.array items) ∧
          actions = items.filterMap ofJson?) ∧
      ∃ first others, action.leaves = first :: others ∧
        ∀ (H : Type) (host : Leaf → StateM H Reply) (scratch : Scratch) (h : H),
          ∃ ran rest replies result h',
            others = ran ++ rest ∧
            (((first :: ran).filter Leaf.isEffect).mapM host).run h = (replies, h') ∧
            ((action.dispatch host).run scratch).run h =
              ((result, (first :: ran).foldl Scratch.after scratch), h')) ∧
    ∀ v w, SameButJunk v w → ofJson? v = ofJson? w := by
  constructor
  · intro v action asked
    have places := at?_of_ofJson? asked
    refine ⟨places, fun place actions found => ?_, ?_⟩
    · rw [places] at found
      obtain ⟨w, there, made⟩ := Option.bind_eq_some_iff.mp found
      obtain ⟨some, members, items, rfl, -, held, all⟩ := batch_of_ofJson? made
      exact ⟨some, members, items, there, held, all⟩
    · obtain ⟨first, others, leaves⟩ := List.exists_cons_of_ne_nil (leaves_ne_nil asked)
      exact ⟨first, others, leaves, fun H host => dispatch_begins host leaves⟩
  · intro v w alike
    exact ofJson?_of_sameButJunk alike

/-- A batch that holds another, from each of which something that asks for nothing is taken out. -/
def tidied (members : Members) : Members :=
  Entries.put "actions" (.array [.object members]) (batchOf members)

theorem ofJson?_batchOf {members : Members} {action : Action}
    (asked : ofJson? (.object members) = some action) :
    ofJson? (.object (batchOf members)) = some (.batch [action]) := by
  have names : Names (batchOf members) .batch := verb?_eq_some_iff.mp rfl
  have junk : ofJson? (.string "home") = none := ofJson?_of_asObject?_eq_none rfl
  refine ofJson?_object_eq_some_iff.mpr (.inr ⟨_, names, rfl, ?_⟩)
  simp [asked, junk]

theorem sameButJunk_batchOf {members members' : Members}
    (alike : SameButJunk (.object members) (.object members')) :
    SameButJunk (.object (batchOf members))
      (.object (Entries.put "actions" (.array [.object members']) (batchOf members))) := by
  have junk : ofJson? (.string "home") = none := ofJson?_of_asObject?_eq_none rfl
  exact .object rfl (.kept alike (.dropped junk .nil))

/-- What stands inside of both batches is what its origin asks for, and without the junk in either
the same is asked for. -/
theorem nested_batches_hold_home :
    ofJson? (.object (batchOf (batchOf goHome))) =
        some (.batch [.batch [.leaf (.navigate "home" false)]]) ∧
      ((Json.object (batchOf (batchOf goHome))).at? [0, 0]).bind ofJson? =
        some (.leaf (.navigate "home" false)) ∧
      SameButJunk (.object (batchOf (batchOf goHome))) (.object (tidied (tidied goHome))) ∧
      ofJson? (.object (tidied (tidied goHome))) =
        some (.batch [.batch [.leaf (.navigate "home" false)]]) := by
  obtain ⟨inside, sifting⟩ := batches_hold_what_is_asked
  have names : Names goHome .navigate := verb?_eq_some_iff.mp (by decide)
  have home : ofJson? (.object goHome) = some (.leaf (.navigate "home" false)) := by
    rw [ofJson?_leaf names nofun]
    rfl
  have asked := ofJson?_batchOf (ofJson?_batchOf home)
  have alike := sameButJunk_batchOf (sameButJunk_batchOf (.same (.object goHome)))
  have tidy := sifting _ _ alike
  exact ⟨asked, ((inside _ _ asked).1 [0, 0]).symm, alike, tidy.symm.trans asked⟩

end Action

end ServerDriven
