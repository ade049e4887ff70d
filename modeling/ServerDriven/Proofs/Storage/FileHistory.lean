/-
Module: ServerDriven.Proofs.Storage.FileHistory
Purpose: A storage in a file, held through any number of handles, answers as one in memory does
  while writes fail and succeed, and the file holds what there was at the last write that succeeded.
Main exports:
  StorageEvent, Shared, Shared.step, Shared.answers, Shared.saves, Medium.Holds,
  FileStorage.embeds_memory, FileStorage.content_step, FileStorage.entries_reopened,
  FileStorage.outlives_its_handles
-/
import ServerDriven.Proofs.Run
import ServerDriven.Proofs.Storage.Reopened

namespace ServerDriven

/-! ### Handles -/

/-- What is done through a handle.  `saved` is whether the file, where there is one, can be
written. -/
inductive StorageCall where
  | get (key : String)
  | put (key value : String) (saved : Bool)
  | remove (key : String) (saved : Bool)
  | clone
deriving Repr, DecidableEq

/-- A call writes the file. -/
def StorageCall.saves : StorageCall → Bool
  | .put _ _ saved | .remove _ saved => saved
  | .get _ | .clone => false

/-- A call through one of the handles, which are numbered. -/
structure StorageEvent where
  handle : Nat
  call : StorageCall
deriving Repr, DecidableEq

/-- A storage and the number of its handles.  A clone of a handle is one more handle of the same
storage. -/
structure Shared (σ : Type) where
  storage : σ
  handles : Nat := 1
deriving Repr, DecidableEq

namespace Shared

variable {σ : Type} [Storage σ]

/-- The storage after a call.  Before each write it learns whether files can be written. -/
def call (learn : Bool → σ → σ) (storage : σ) : StorageCall → σ
  | .get _ | .clone => storage
  | .put key value saved => Storage.put (learn saved storage) key value
  | .remove key saved => Storage.remove (learn saved storage) key

/-- One event.  Nothing happens through a handle that there is not. -/
def step (learn : Bool → σ → σ) (s : Shared σ) (event : StorageEvent) : Shared σ :=
  if event.handle < s.handles then
    ⟨call learn s.storage event.call, if event.call = .clone then s.handles + 1 else s.handles⟩
  else s

/-- What a reading finds. -/
def answers (s : Shared σ) (event : StorageEvent) : List (Option String) :=
  match event.call with
  | .get key => if event.handle < s.handles then [Storage.get? s.storage key] else []
  | _ => []

/-- An event writes the file. -/
def saves (s : Shared σ) (event : StorageEvent) : Bool :=
  event.handle < s.handles && event.call.saves

end Shared

/-! ### In memory and in a file -/

/-- The entries that a file is taken to hold: those of an object of texts, and none if there is no
text to read or it is anything else. -/
inductive Medium.Holds : Medium → Memory → Prop where
  | missing {medium : Medium} (unread : medium.content = none) : Holds medium .empty
  | malformed {medium : Medium} {text : String} {e : TextError} (read : medium.content = some text)
      (failed : (Codec.dictionary Codec.string).readText text = .error e) : Holds medium .empty
  | valid {medium : Medium} {text : String} {entries : Memory} (read : medium.content = some text)
      (done : (Codec.dictionary Codec.string).readText text = .ok entries) : Holds medium entries

namespace FileStorage

theorem holds_openAt (medium : Medium) : medium.Holds (openAt medium).entries := by
  cases read : medium.content with
  | none =>
      simpa [openAt, read] using Medium.Holds.missing read
  | some text =>
      cases result : (Codec.dictionary Codec.string).readText text with
      | error e =>
          simpa [openAt, read, load, result] using Medium.Holds.malformed read result
      | ok entries =>
          simpa [openAt, read, load, result] using Medium.Holds.valid read result

theorem holds_iff {medium : Medium} {entries : Memory} :
    medium.Holds entries ↔ (openAt medium).entries = entries := by
  constructor
  · intro holds
    cases holds with
    | missing unread => simp [openAt, unread]
    | malformed read failed => simp [openAt, read, load, failed]
    | valid read done => simp [openAt, read, load, done]
  · rintro rfl
    exact holds_openAt medium

/-- What was written to a file is found in it. -/
theorem entries_openAt_of_render {medium : Medium} {entries : Memory}
    (written : medium.content = some (render entries)) : (openAt medium).entries = entries := by
  rw [openAt, written, Option.map_some, Option.getD_some, load_render]

/-- What is found in a file depends on its text alone. -/
theorem entries_openAt {medium medium' : Medium} (same : medium.content = medium'.content) :
    (openAt medium).entries = (openAt medium').entries := by
  unfold openAt
  rw [same]

/-- From now on files can be written, or they cannot. -/
def learn (saved : Bool) (s : FileStorage) : FileStorage :=
  { s with medium := { s.medium with isWritable := saved } }

/-- What a storage in a file makes of the events. -/
abbrev fileStep : Shared FileStorage → StorageEvent → Shared FileStorage := Shared.step learn

/-- What a storage in memory makes of them. -/
abbrev memoryStep : Shared Memory → StorageEvent → Shared Memory := Shared.step fun _ => id

/-- The entries without their file. -/
def inMemory (s : Shared FileStorage) : Shared Memory := ⟨s.storage.entries, s.handles⟩

theorem entries_call (s : FileStorage) (call : StorageCall) :
    (Shared.call learn s call).entries = Shared.call (fun _ => id) s.entries call := by
  cases call with
  | get key => rfl
  | put key value saved => rfl
  | remove key saved => rfl
  | clone => rfl

/-- The file has no part in what becomes of the entries. -/
theorem inMemory_step (s : Shared FileStorage) (event : StorageEvent) :
    inMemory (fileStep s event) = memoryStep (inMemory s) event := by
  by_cases held : event.handle < s.handles
  · have held' : event.handle < (inMemory s).handles := held
    rw [fileStep, memoryStep, Shared.step, Shared.step, if_pos held, if_pos held', inMemory,
      entries_call]
    rfl
  · have held' : ¬event.handle < (inMemory s).handles := held
    rw [fileStep, memoryStep, Shared.step, Shared.step, if_neg held, if_neg held']

theorem embeds_memory :
    Run.Embeds (fun _ => True) fileStep memoryStep inMemory fun _ event => some event where
  keeps := fun _ _ _ => trivial
  view_step := fun s event _ => inMemory_step s event

theorem inMemory_after (s : Shared FileStorage) (events : List StorageEvent) :
    inMemory (Run.after fileStep s events) = Run.after memoryStep (inMemory s) events := by
  have view := embeds_memory.view_after (s := s) trivial events
  rwa [Run.projected_filterMap, List.filterMap_some] at view

theorem saves_after (s : Shared FileStorage) (events : List StorageEvent) (event : StorageEvent) :
    (Run.after fileStep s events).saves event =
      (Run.after memoryStep (inMemory s) events).saves event := by
  rw [← inMemory_after]
  rfl

theorem answers_inMemory (s : Shared FileStorage) (event : StorageEvent) :
    s.answers event = (inMemory s).answers event := by
  unfold Shared.answers
  cases event.call with
  | get key => rfl
  | _ => rfl

theorem noted_answers (s : Shared FileStorage) (events : List StorageEvent) :
    Run.noted fileStep Shared.answers s events =
      Run.noted memoryStep Shared.answers (inMemory s) events := by
  have notes : Run.noted fileStep Shared.answers s events =
      Run.noted memoryStep Shared.answers (inMemory s)
        (Run.projected fileStep (fun _ event => some event) s events) :=
    embeds_memory.noted_eq (fun s event _ => answers_inMemory s event) trivial events
  rwa [Run.projected_filterMap, List.filterMap_some] at notes

/-! ### What the file holds -/

/-- A write that succeeds leaves all entries in the file, those included whose own write failed.
Nothing else changes what is in the file. -/
theorem content_call (s : FileStorage) (call : StorageCall) :
    (Shared.call learn s call).medium.content =
      if call.saves then some (render (Shared.call learn s call).entries) else s.medium.content := by
  -- Both kinds of writing go on with other entries, and write all of them.
  have written : ∀ (entries : Memory) (saved : Bool),
      ((s.learn saved).update entries).medium.content =
        if saved then some (render entries) else s.medium.content := by
    intro entries saved
    cases saved with
    | false => rfl
    | true => rfl
  cases call with
  | get key => rfl
  | put key value saved => exact written _ saved
  | remove key saved => exact written _ saved
  | clone => rfl

theorem content_step (s : Shared FileStorage) (event : StorageEvent) :
    (fileStep s event).storage.medium.content =
      if s.saves event then some (render (fileStep s event).storage.entries)
      else s.storage.medium.content := by
  unfold fileStep Shared.step Shared.saves
  by_cases held : event.handle < s.handles
  · simp only [held, decide_true, Bool.true_and]
    exact content_call s.storage event.call
  · simp [held]

/-- The entries at each write that succeeds. -/
def snapshots (s : Shared Memory) (events : List StorageEvent) : List Memory :=
  Run.noted memoryStep
    (fun s event => if s.saves event then [(memoryStep s event).storage] else []) s events

/-- Whoever opens the file finds the latest of the entries that were written to it. -/
theorem entries_reopened (s : Shared FileStorage) (events : List StorageEvent) :
    (openAt (Run.after fileStep s events).storage.medium).entries =
      (snapshots (inMemory s) events).getLast?.getD (openAt s.storage.medium).entries := by
  induction events using List.reverseRecOn with
  | nil =>
      rfl
  | append_singleton events event ih =>
      have content := content_step (Run.after fileStep s events) event
      have next := inMemory_step (Run.after fileStep s events) event
      rw [Run.after_concat, snapshots, Run.noted_concat, ← saves_after, ← inMemory_after, ← next]
      -- What the last event has not written was there before it.
      by_cases saved : (Run.after fileStep s events).saves event = true
      · rw [if_pos saved] at content ⊢
        rw [entries_openAt_of_render content, List.getLast?_concat]
        rfl
      · rw [if_neg saved] at content ⊢
        rw [entries_openAt content, ih, List.append_nil]
        rfl

/-- A storage in a file is one in memory that can be opened again.  Whatever stands in the file at
first, and whichever writes fail, what is read through any handle is what would be read from memory;
a write that succeeds leaves all entries in the file, in a text that is read as those entries; and
whoever opens the file again finds the entries as of the last such write, or else the first ones. -/
theorem outlives_its_handles (medium : Medium) :
    ∃ m, medium.Holds m ∧
      (∀ events, Run.noted fileStep Shared.answers ⟨openAt medium, 1⟩ events =
        Run.noted memoryStep Shared.answers ⟨m, 1⟩ events) ∧
      (∀ events event, (Run.after memoryStep ⟨m, 1⟩ events).saves event = true →
        ∃ entries, (Run.after memoryStep ⟨m, 1⟩ (events ++ [event])).storage = entries ∧
          (Run.after fileStep ⟨openAt medium, 1⟩ (events ++ [event])).storage.medium.content =
            some (render entries) ∧
          (Run.after fileStep ⟨openAt medium, 1⟩ (events ++ [event])).storage.medium.Holds
            entries) ∧
      ∀ events key,
        Storage.get? (openAt (Run.after fileStep ⟨openAt medium, 1⟩ events).storage.medium) key =
          ((snapshots ⟨m, 1⟩ events).getLast?.getD m).get? key := by
  refine ⟨(openAt medium).entries, holds_openAt medium, ?_, ?_, ?_⟩
  · exact noted_answers ⟨openAt medium, 1⟩
  · intro events event saved
    have last : Run.after fileStep ⟨openAt medium, 1⟩ (events ++ [event]) =
        fileStep (Run.after fileStep ⟨openAt medium, 1⟩ events) event :=
      Run.after_concat events event
    have same := inMemory_after ⟨openAt medium, 1⟩ (events ++ [event])
    have content := content_step (Run.after fileStep ⟨openAt medium, 1⟩ events) event
    rw [if_pos ((saves_after ⟨openAt medium, 1⟩ events event).trans saved), ← last] at content
    refine ⟨_, (congrArg Shared.storage same).symm, content, ?_⟩
    exact holds_iff.mpr (entries_openAt_of_render content)
  · intro events key
    have reopened := entries_reopened ⟨openAt medium, 1⟩ events
    exact congrArg (·.get? key) reopened

/-- Where there is no file yet, one entry is not saved, another is through a clone, and the removal
of the first is not saved again. -/
def mishaps : List StorageEvent :=
  [⟨0, .put "k" "v" false⟩, ⟨0, .clone⟩, ⟨1, .put "l" "w" true⟩, ⟨1, .remove "k" false⟩,
    ⟨0, .get "k"⟩]

/-- The removal shows in memory, and the saved entry has taken the other along into the file. -/
theorem mishaps_outlived :
    Run.noted fileStep Shared.answers ⟨openAt {}, 1⟩ mishaps = [none] ∧
      (Run.after fileStep ⟨openAt {}, 1⟩ (mishaps.take 3)).storage.medium.Holds
        (Dictionary.ofList [("k", "v"), ("l", "w")]) ∧
      Storage.get? (openAt (Run.after fileStep ⟨openAt {}, 1⟩ mishaps).storage.medium) "k" =
        some "v" := by
  obtain ⟨m, holds, answers, written, reopened⟩ := outlives_its_handles {}
  obtain rfl : Dictionary.empty = m := holds_iff.mp holds
  refine ⟨(answers mishaps).trans ?_, ?_, (reopened mishaps "k").trans ?_⟩
  · decide
  · obtain ⟨entries, rfl, -, held⟩ :=
      written [⟨0, .put "k" "v" false⟩, ⟨0, .clone⟩] ⟨1, .put "l" "w" true⟩ (by decide)
    exact held
  · decide

end FileStorage

end ServerDriven
