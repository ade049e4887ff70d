/-
Module: ServerDriven.Proofs.Session.Kept
Purpose: What is kept of a session in any storage that gives back what was put into it.
Main exports:
  LawfulStorage, Session.id?_clear, Session.id?_setWorkflowId, Session.id?_obtainId,
  WorkflowSession.sessionId_request, WorkflowSession.id?_settle_ok
-/
import ServerDriven.Storage.File
import ServerDriven.Workflow.Session

namespace ServerDriven

/-! ### Storages -/

/-- A storage in which a write is found again, and touches no other key. -/
class LawfulStorage (σ : Type) [Storage σ] : Prop where
  get?_put : ∀ (store : σ) (key value other : String),
    Storage.get? (Storage.put store key value) other =
      if other = key then some value else Storage.get? store other
  get?_remove : ∀ (store : σ) (key other : String),
    Storage.get? (Storage.remove store key) other =
      if other = key then none else Storage.get? store other

namespace Dictionary

variable {α : Type}

theorem lookup_cons_ite (k : String) (v : α) (rest : List (String × α)) (key : String) :
    ((k, v) :: rest).lookup key = if key = k then some v else rest.lookup key := by
  rw [List.lookup_cons]
  by_cases here : key = k
  · simp [here]
  · simp [here, beq_eq_false_iff_ne.mpr here]

theorem lookup_insert (key : String) (value : α) (entries : List (String × α)) (other : String) :
    (insert key value entries).lookup other =
      if other = key then some value else entries.lookup other := by
  induction entries with
  | nil =>
      rw [insert, lookup_cons_ite]
  | cons head rest ih =>
      obtain ⟨k, v⟩ := head
      unfold insert
      split
      · rw [lookup_cons_ite]
      · split
        · rename_i same
          subst same
          rw [lookup_cons_ite, lookup_cons_ite]
          by_cases here : other = key
          · rw [if_pos here, if_pos here]
          · rw [if_neg here, if_neg here, if_neg here]
        · rename_i away
          rw [lookup_cons_ite, lookup_cons_ite, ih]
          by_cases here : other = k
          · rw [if_pos here, if_pos here, if_neg (here ▸ Ne.symm away)]
          · rw [if_neg here, if_neg here]

theorem get?_put (d : Dictionary α) (key : String) (value : α) (other : String) :
    (d.put key value).get? other = if other = key then some value else d.get? other :=
  lookup_insert key value d.entries other

theorem lookup_filter (key : String) (entries : List (String × α)) (other : String) :
    (entries.filter fun entry => entry.1 ≠ key).lookup other =
      if other = key then none else entries.lookup other := by
  induction entries with
  | nil =>
      simp
  | cons head rest ih =>
      obtain ⟨k, v⟩ := head
      rw [List.filter_cons, lookup_cons_ite]
      by_cases same : k = key
      · subst same
        rw [if_neg (by simp), ih]
        by_cases here : other = k
        · rw [if_pos here, if_pos here]
        · rw [if_neg here, if_neg here, if_neg here]
      · rw [if_pos (by simpa using same), lookup_cons_ite, ih]
        by_cases here : other = k
        · rw [if_pos here, if_pos here, if_neg (here ▸ same)]
        · rw [if_neg here, if_neg here]

theorem get?_erase (d : Dictionary α) (key other : String) :
    (d.erase key).get? other = if other = key then none else d.get? other :=
  lookup_filter key d.entries other

end Dictionary

instance : LawfulStorage Memory where
  get?_put := Dictionary.get?_put
  get?_remove := Dictionary.get?_erase

/-- Reading never looks into the file, so that a write that fails is found again all the same. -/
instance : LawfulStorage FileStorage where
  get?_put store := store.entries.get?_put
  get?_remove store := store.entries.get?_erase

/-! ### The ids of a session -/

namespace Session

variable {σ : Type} [Storage σ] [LawfulStorage σ] (store : σ)

theorem idKey_ne : idKey ≠ workflowIdKey := by decide

theorem kept?_put (key value other : String) :
    kept? (Storage.put store key value) other =
      if other = key then (some value).filter (!·.isEmpty) else kept? store other := by
  unfold kept?
  rw [LawfulStorage.get?_put]
  split
  · rfl
  · rfl

theorem kept?_remove (key other : String) :
    kept? (Storage.remove store key) other =
      if other = key then none else kept? store other := by
  unfold kept?
  rw [LawfulStorage.get?_remove]
  split
  · rfl
  · rfl

/-- An empty id is as good as none. -/
theorem id?_setId (id : String) : id? (setId store id) = (some id).filter (!·.isEmpty) := by
  simp [id?, setId, kept?_put]

@[simp] theorem id?_clear : id? (clear store) = none := by
  simp [id?, clear, kept?_remove]

@[simp] theorem id?_setWorkflowId (id : String) :
    id? (setWorkflowId store id) = id? store := by
  simp [id?, setWorkflowId, kept?_put, idKey_ne]

/-- Whoever obtains the id of a session finds it kept afterwards. -/
theorem id?_obtainId {fresh : String} (named : fresh ≠ "") :
    id? (obtainId store fresh).2 = some (obtainId store fresh).1 := by
  unfold obtainId
  cases found : id? store with
  | some id =>
      exact found
  | none =>
      rw [id?_setId]
      simp [named]

end Session

/-! ### The id of a session and its calls -/

namespace WorkflowSession

variable {σ : Type} [Storage σ] (s : WorkflowSession σ) (fresh : Nat → String) (pending : Pending)

/-- A request carries the id that is kept, and a fresh one only if none is. -/
theorem sessionId_request :
    (s.request fresh pending).1.sessionId = s.id?.getD (fresh s.minted) := by
  unfold request Session.obtainId id?
  cases Session.id? s.store <;> rfl

variable {s}

/-- A session that has an id keeps it when a request is made. -/
theorem id?_request_of_some {id : String} (kept : s.id? = some id) :
    (s.request fresh pending).2.id? = some id := by
  unfold id? request Session.obtainId at *
  rw [kept]
  exact kept

variable (s) [LawfulStorage σ]

/-- A good answer decides on the id. -/
theorem id?_settle_ok (response : ExecutionResponse) :
    (s.settle pending (.ok response)).2.id? = (some response.sessionId).filter (!·.isEmpty) := by
  have kept := Session.id?_setId s.store response.sessionId
  unfold settle id?
  dsimp only
  split
  · exact (Session.id?_setWorkflowId _ _).trans kept
  · exact kept

end WorkflowSession

end ServerDriven
