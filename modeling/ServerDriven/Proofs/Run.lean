/-
Module: ServerDriven.Proofs.Run
Purpose: Runs of a machine that takes one step for each event, what an observer notes along them,
  and what they publish on a channel.
Main exports:
  Run.after, Run.noted, Run.noted_filter, Run.Along, Run.hits, Run.along_noted, Run.Always,
  Run.always_of_step, Run.always_iff, Run.published, Run.getLast?_published, Run.Embeds,
  Run.Embeds.view_after, Run.Embeds.noted_eq, Run.Embeds.published_eq
-/
import Mathlib.Data.List.Forall2
import Mathlib.Data.List.Induction
import ServerDriven.Watched

namespace ServerDriven

namespace Watched

variable {α : Type}

/-- What was published between two moments that are at most one publication apart. -/
def since (before after : Watched α) : List α :=
  if before.version < after.version then [after.value] else []

/-- Nothing was published in between, or just one value. -/
def Follows (before after : Watched α) : Prop :=
  after = before ∨ ∃ value, after = before.publish value

@[simp] theorem since_self (w : Watched α) : w.since w = [] := by
  simp [since]

@[simp] theorem since_publish (w : Watched α) (value : α) : w.since (w.publish value) = [value] := by
  simp [since]

theorem Follows.refl (w : Watched α) : w.Follows w := .inl rfl

theorem Follows.publish (w : Watched α) (value : α) : w.Follows (w.publish value) :=
  .inr ⟨value, rfl⟩

theorem Follows.version_eq {before after : Watched α} (h : before.Follows after) :
    after.version = before.version + (before.since after).length := by
  rcases h with rfl | ⟨value, rfl⟩
  · simp
  · simp

end Watched

namespace Run

variable {State Event Note α : Type}

/-- The state after some events. -/
def after (step : State → Event → State) (s : State) (events : List Event) : State :=
  events.foldl step s

/-- What an observer has noted after some events, who sees each event and the state it meets. -/
def noted (step : State → Event → State) (note : State → Event → List Note) :
    State → List Event → List Note
  | _, [] => []
  | s, event :: events => note s event ++ noted step note (step s event) events

/-- What a run publishes on a channel, after the value that is there from the start. -/
def published (step : State → Event → State) (channel : State → Watched α) (s : State)
    (events : List Event) : List α :=
  (channel s).value ::
    noted step (fun s event => (channel s).since (channel (step s event))) s events

section After

variable {step : State → Event → State} {s : State}

@[simp] theorem after_nil : after step s [] = s := rfl

@[simp] theorem after_cons (event : Event) (events : List Event) :
    after step s (event :: events) = after step (step s event) events := rfl

theorem after_append (events later : List Event) :
    after step s (events ++ later) = after step (after step s events) later :=
  List.foldl_append

@[simp] theorem after_concat (events : List Event) (event : Event) :
    after step s (events ++ [event]) = step (after step s events) event := by
  simp [after_append]

end After

section Noted

variable {step : State → Event → State} {note : State → Event → List Note} {s : State}

@[simp] theorem noted_nil : noted step note s [] = [] := rfl

@[simp] theorem noted_cons (event : Event) (events : List Event) :
    noted step note s (event :: events) = note s event ++ noted step note (step s event) events :=
  rfl

theorem noted_append (events later : List Event) :
    noted step note s (events ++ later) =
      noted step note s events ++ noted step note (after step s events) later := by
  induction events generalizing s with
  | nil =>
      rfl
  | cons event events ih =>
      simp [ih]

@[simp] theorem noted_concat (events : List Event) (event : Event) :
    noted step note s (events ++ [event]) =
      noted step note s events ++ note (after step s events) event := by
  simp [noted_append]

/-- Two observers whose notes of each event match have notes that match. -/
theorem forall₂_noted {note' : State → Event → List α} {matching : Note → α → Prop}
    (each : ∀ s event, List.Forall₂ matching (note s event) (note' s event)) (events : List Event) :
    List.Forall₂ matching (noted step note s events) (noted step note' s events) := by
  induction events generalizing s with
  | nil =>
      exact .nil
  | cons event events ih =>
      exact List.rel_append (each s event) ih

/-- Picking from all that was noted is picking from each note. -/
theorem filterMap_noted (pick : Note → Option α) (events : List Event) :
    (noted step note s events).filterMap pick =
      noted step (fun s event => (note s event).filterMap pick) s events := by
  induction events generalizing s with
  | nil =>
      rfl
  | cons event events ih =>
      simp [ih]

/-- Two runs stay alike, and an observer notes the same of both, where one of them leaves out
events: as long as an event that is left out keeps the states alike and is not noted, and any other
event is noted alike in states that are alike and leads to such states again. -/
theorem noted_filter {alike : State → State → Prop} {kept : Event → Bool}
    (keeps : ∀ s t event, kept event = true → alike s t →
      note s event = note t event ∧ alike (step s event) (step t event))
    (drops : ∀ s t event, kept event = false → alike s t →
      note s event = [] ∧ alike (step s event) t)
    {s t : State} (start : alike s t) (events : List Event) :
    noted step note s events = noted step note t (events.filter kept) ∧
      alike (after step s events) (after step t (events.filter kept)) := by
  induction events generalizing s t with
  | nil =>
      exact ⟨rfl, start⟩
  | cons event events ih =>
      cases keep : kept event with
      | false =>
          obtain ⟨silent, next⟩ := drops s t event keep start
          obtain ⟨notes, ends⟩ := ih next
          rw [noted_cons, silent, List.nil_append, after_cons,
            List.filter_cons_of_neg (by simp [keep])]
          exact ⟨notes, ends⟩
      | true =>
          obtain ⟨same, next⟩ := keeps s t event keep start
          obtain ⟨notes, ends⟩ := ih next
          rw [List.filter_cons_of_pos keep, noted_cons, noted_cons, after_cons, after_cons, same,
            notes]
          exact ⟨rfl, ends⟩

end Noted

/-! ### Notes in view of earlier ones -/

section Along

/-- Each element of a list passes a test, which is put to it in view of all that comes before. -/
def Along (test : List Note → Note → Prop) (past notes : List Note) : Prop :=
  ∀ earlier note later, notes = earlier ++ note :: later → test (past ++ earlier) note

variable {test : List Note → Note → Prop} {past : List Note}

theorem along_nil : Along test past [] := by
  intro earlier note later split
  cases earlier <;> cases split

theorem along_cons {note : Note} {notes : List Note} :
    Along test past (note :: notes) ↔ test past note ∧ Along test (past ++ [note]) notes := by
  constructor
  · intro along
    constructor
    · have first := along [] note notes rfl
      rwa [List.append_nil] at first
    · intro earlier note' later split
      have other := along (note :: earlier) note' later (congrArg (note :: ·) split)
      rwa [List.append_cons] at other
  · rintro ⟨first, others⟩ earlier note' later split
    cases earlier with
    | nil =>
        cases split
        rwa [List.append_nil]
    | cons head earlier =>
        cases split
        rw [List.append_cons]
        exact others earlier note' later rfl

theorem along_append {notes notes' : List Note} :
    Along test past (notes ++ notes') ↔
      Along test past notes ∧ Along test (past ++ notes) notes' := by
  induction notes generalizing past with
  | nil =>
      simp [along_nil]
  | cons note notes ih =>
      rw [List.cons_append, along_cons, along_cons, ih, and_assoc, ← List.append_cons]

theorem along_singleton {note : Note} : Along test past [note] ↔ test past note := by
  rw [along_cons, and_iff_left along_nil]

end Along

/-! ### Events that make a difference -/

section Hits

/-- The events of a run that pass a test, which is put to each in the state that it meets. -/
def hits (step : State → Event → State) (test : State → Event → Bool) : State → List Event →
    List Event :=
  noted step fun s event => if test s event then [event] else []

/-- Something holds at every moment of a run, its end included. -/
def Always (step : State → Event → State) (inv : State → Prop) (s : State) (events : List Event) :
    Prop :=
  ∀ earlier, earlier <+: events → inv (after step s earlier)

variable {step : State → Event → State} {test : State → Event → Bool} {s : State}

theorem hits_cons_eq_nil {event : Event} {events : List Event} :
    hits step test s (event :: events) = [] ↔
      test s event = false ∧ hits step test (step s event) events = [] := by
  simp [hits]

theorem hits_append (events later : List Event) :
    hits step test s (events ++ later) =
      hits step test s events ++ hits step test (after step s events) later :=
  noted_append events later

theorem hits_false (events : List Event) : hits step (fun _ _ => false) s events = [] := by
  induction events generalizing s with
  | nil =>
      rfl
  | cons event events ih =>
      exact hits_cons_eq_nil.mpr ⟨rfl, ih⟩

/-- A test that is harder to pass is passed no more often. -/
theorem hits_eq_nil_of_imp {harder : State → Event → Bool}
    (implies : ∀ s event, harder s event = true → test s event = true) {events : List Event}
    (none : hits step test s events = []) : hits step harder s events = [] := by
  induction events generalizing s with
  | nil =>
      rfl
  | cons event events ih =>
      obtain ⟨failed, rest⟩ := hits_cons_eq_nil.mp none
      refine hits_cons_eq_nil.mpr ⟨Bool.eq_false_iff.mpr fun passed => ?_, ih rest⟩
      exact Bool.false_ne_true (failed.symm.trans (implies s event passed))

/-- What is noted of no other events than those that pass a test is not noted without them. -/
theorem not_mem_noted {note : State → Event → List Note} {value : Note}
    (tested : ∀ s event, value ∈ note s event → test s event = true) {events : List Event}
    (none : hits step test s events = []) : value ∉ noted step note s events := by
  induction events generalizing s with
  | nil =>
      exact List.not_mem_nil
  | cons event events ih =>
      obtain ⟨failed, rest⟩ := hits_cons_eq_nil.mp none
      intro mem
      rcases List.mem_append.mp mem with now | later
      · exact Bool.false_ne_true (failed.symm.trans (tested s event now))
      · exact ih rest later

/-- If what an observer notes of each event that fails a test is in order as long as an invariant
holds of the state and of all that was noted, then so is all that is noted in a run whose events all
fail the test. -/
theorem along_noted_of_hits {note : State → Event → List Note} {order : List Note → Note → Prop}
    {past : List Note} {inv : State → List Note → Prop}
    (steps : ∀ s past event, test s event = false → inv s past →
      Along order past (note s event) ∧ inv (step s event) (past ++ note s event))
    (start : inv s past) {events : List Event} (none : hits step test s events = []) :
    Along order past (noted step note s events) ∧
      inv (after step s events) (past ++ noted step note s events) := by
  induction events generalizing s past with
  | nil =>
      rw [noted_nil, List.append_nil]
      exact ⟨along_nil, start⟩
  | cons event events ih =>
      obtain ⟨failed, rest⟩ := hits_cons_eq_nil.mp none
      obtain ⟨now, next⟩ := steps s past event failed start
      obtain ⟨later, ends⟩ := ih next rest
      rw [noted_cons, along_append, ← List.append_assoc]
      exact ⟨⟨now, later⟩, ends⟩

/-- The same for the events of any run. -/
theorem along_noted {note : State → Event → List Note} {order : List Note → Note → Prop}
    {past : List Note} {inv : State → List Note → Prop}
    (steps : ∀ s past event, inv s past →
      Along order past (note s event) ∧ inv (step s event) (past ++ note s event))
    (start : inv s past) (events : List Event) :
    Along order past (noted step note s events) ∧
      inv (after step s events) (past ++ noted step note s events) :=
  along_noted_of_hits (fun s past event _ => steps s past event) start (hits_false events)

theorem always_cons {inv : State → Prop} {event : Event} {events : List Event} :
    Always step inv s (event :: events) ↔ inv s ∧ Always step inv (step s event) events := by
  constructor
  · intro always
    refine ⟨always [] List.nil_prefix, fun earlier initial => ?_⟩
    exact always (event :: earlier) ((List.prefix_cons_inj event).mpr initial)
  · rintro ⟨now, later⟩ earlier initial
    cases earlier with
    | nil =>
        exact now
    | cons first earlier =>
        obtain ⟨rfl, rest⟩ := List.cons_prefix_cons.mp initial
        exact later earlier rest

/-- What each event of a run keeps up holds all along. -/
theorem always_of_step {inv : State → Prop} {events : List Event}
    (keeps : ∀ s, ∀ event ∈ events, inv s → inv (step s event)) (start : inv s) :
    Always step inv s events := by
  induction events generalizing s with
  | nil =>
      rintro earlier initial
      rw [List.prefix_nil.mp initial]
      exact start
  | cons event events ih =>
      refine always_cons.mpr ⟨start, ih ?_ (keeps s event List.mem_cons_self start)⟩
      exact fun s' event' mem => keeps s' event' (List.mem_cons_of_mem _ mem)

/-- What the events that pass a test put an end to, and no others, lasts until the first of them. -/
theorem always_iff {inv : State → Prop}
    (keeps : ∀ s event, inv s → (inv (step s event) ↔ test s event = false)) (start : inv s)
    (events : List Event) : Always step inv s events ↔ hits step test s events = [] := by
  induction events generalizing s with
  | nil =>
      refine ⟨fun _ => rfl, fun _ earlier initial => ?_⟩
      rw [List.prefix_nil.mp initial]
      exact start
  | cons event events ih =>
      rw [always_cons, hits_cons_eq_nil]
      constructor
      · rintro ⟨-, later⟩
        have next : inv (step s event) := later [] List.nil_prefix
        exact ⟨(keeps s event start).mp next, (ih next).mp later⟩
      · rintro ⟨missed, none⟩
        exact ⟨start, (ih ((keeps s event start).mpr missed)).mpr none⟩

end Hits

/-! ### Channels -/

section Published

variable {step : State → Event → State} {channel : State → Watched α} {s : State}

theorem published_concat (events : List Event) (event : Event) :
    published step channel s (events ++ [event]) =
      published step channel s events ++
        (channel (after step s events)).since (channel (step (after step s events) event)) := by
  simp [published]

theorem published_mono (events later : List Event) {value : α}
    (h : value ∈ published step channel s events) :
    value ∈ published step channel s (events ++ later) := by
  simp only [published, noted_append, ← List.cons_append, List.mem_append]
  exact .inl h

/-- On a channel that publishes one value at a time, none is missed. -/
theorem length_published (follows : ∀ s event, (channel s).Follows (channel (step s event)))
    (start : (channel s).version = 0) (events : List Event) :
    (published step channel s events).length = (channel (after step s events)).version + 1 := by
  induction events using List.reverseRecOn with
  | nil =>
      simp [published, start]
  | append_singleton events event ih =>
      rw [published_concat, after_concat, (follows _ event).version_eq, List.length_append]
      omega

/-- The latest value is the last that was published. -/
theorem getLast?_published (follows : ∀ s event, (channel s).Follows (channel (step s event)))
    (events : List Event) :
    (published step channel s events).getLast? = some (channel (after step s events)).value := by
  induction events using List.reverseRecOn with
  | nil =>
      simp [published]
  | append_singleton events event ih =>
      rw [published_concat, after_concat]
      rcases follows (after step s events) event with same | ⟨value, next⟩
      · rw [same, Watched.since_self, List.append_nil, ih]
      · simp [next]

theorem value_mem_published (follows : ∀ s event, (channel s).Follows (channel (step s event)))
    (events : List Event) :
    (channel (after step s events)).value ∈ published step channel s events :=
  List.mem_of_getLast? (getLast?_published follows events)

end Published

/-! ### A machine inside another

A part of a state is a machine of its own: each step of the whole is at most one step of the part,
and what the part's observer would note is noted.
-/

section View

variable {Part Inner : Type} {inv : State → Prop} {step : State → Event → State}
  {inner : Part → Inner → Part} {view : State → Part} {project : State → Event → Option Inner}

/-- The events of the part. -/
def projected (step : State → Event → State) (project : State → Event → Option Inner) :
    State → List Event → List Inner :=
  noted step fun s event => (project s event).toList

/-- In states with an invariant, a step of the whole is a step of the part or leaves it alone. -/
structure Embeds (inv : State → Prop) (step : State → Event → State)
    (inner : Part → Inner → Part) (view : State → Part)
    (project : State → Event → Option Inner) : Prop where
  keeps : ∀ s event, inv s → inv (step s event)
  view_step : ∀ s event, inv s → view (step s event) = (project s event).elim (view s) (inner (view s))

theorem Embeds.view_after (embeds : Embeds inv step inner view project) {s : State} (start : inv s)
    (events : List Event) :
    view (after step s events) = after inner (view s) (projected step project s events) := by
  induction events generalizing s with
  | nil =>
      rfl
  | cons event events ih =>
      rw [after_cons, ih (embeds.keeps s event start), embeds.view_step s event start]
      cases h : project s event with
      | none =>
          simp [projected, h]
      | some event' =>
          simp [projected, h]

/-- An observer of the whole who looks at the part alone notes what an observer of the part does. -/
theorem Embeds.noted_eq {note : State → Event → List Note} {note' : Part → Inner → List Note}
    (embeds : Embeds inv step inner view project)
    (notes : ∀ s event, inv s → note s event = (project s event).elim [] (note' (view s)))
    {s : State} (start : inv s) (events : List Event) :
    noted step note s events = noted inner note' (view s) (projected step project s events) := by
  induction events generalizing s with
  | nil =>
      rfl
  | cons event events ih =>
      rw [noted_cons, ih (embeds.keeps s event start), notes s event start,
        embeds.view_step s event start]
      cases h : project s event with
      | none =>
          simp [projected, h]
      | some event' =>
          simp [projected, h]

/-- A test of the whole that looks at the part alone is passed when the part's is. -/
theorem Embeds.hits_eq_nil_iff {test : Part → Inner → Bool}
    (embeds : Embeds inv step inner view project) {s : State} (start : inv s)
    (events : List Event) :
    hits step (fun s event => (project s event).any (test (view s))) s events = [] ↔
      hits inner test (view s) (projected step project s events) = [] := by
  induction events generalizing s with
  | nil =>
      exact iff_of_true rfl rfl
  | cons event events ih =>
      have rest := ih (embeds.keeps s event start)
      rw [embeds.view_step s event start] at rest
      unfold projected at rest ⊢
      rw [hits_cons_eq_nil, rest, noted_cons]
      cases h : project s event with
      | none =>
          simp
      | some event' =>
          rw [Option.any_some, Option.elim_some, Option.toList_some, List.singleton_append,
            hits_cons_eq_nil]

theorem Embeds.published_eq (embeds : Embeds inv step inner view project)
    (channel : Part → Watched α) {s : State} (start : inv s) (events : List Event) :
    published step (fun s => channel (view s)) s events =
      published inner channel (view s) (projected step project s events) := by
  unfold published
  refine congrArg _ (embeds.noted_eq (fun s event holds => ?_) start events)
  dsimp only
  rw [embeds.view_step s event holds]
  cases project s event with
  | none =>
      exact Watched.since_self _
  | some event' =>
      rfl

/-- The events of a part that do not depend on the state are picked from those of the whole. -/
theorem projected_filterMap (step : State → Event → State) (pick : Event → Option Inner)
    (s : State) (events : List Event) :
    projected step (fun _ => pick) s events = events.filterMap pick := by
  induction events generalizing s with
  | nil =>
      rfl
  | cons event events ih =>
      have rest := ih (step s event)
      unfold projected at rest ⊢
      rw [noted_cons, rest]
      cases h : pick event with
      | none =>
          simp [h]
      | some event' =>
          simp [h]

end View

end Run

end ServerDriven
