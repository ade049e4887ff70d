/-
Module: ServerDriven.Proofs.Screen.FetchAudit
Purpose: What the fetches of one screen ask of the source, how often and when, audited against what
  is in the slot of the screen.
Main exports:
  FetchNote, FetchNote.Due, FetchNote.AsksWhenDue, Slot.traffic, Slot.Takes, Slot.takes,
  Fetch.InStep, Slot.Audited, Slot.Audited.step, Slot.audited
-/
import ServerDriven.Proofs.Screen.CacheRun

namespace ServerDriven

open Run

/-! ### Traffic -/

/-- A failure that may pass: of the network, or of the server. -/
def FetchError.MayPass (e : FetchError) : Prop :=
  (∃ detail, e = .network detail) ∨ ∃ code, 500 ≤ code ∧ e = .status code

theorem FetchError.isRetryable_iff {e : FetchError} : e.isRetryable = true ↔ e.MayPass := by
  unfold MayPass
  cases e with
  | status code =>
      simp [isRetryable]
  | _ =>
      simp [isRetryable]

/-- What there is to see of the fetches of a screen. -/
inductive FetchNote where
  /-- A refresh starts the next of them. -/
  | starts
  /-- A fetch asks the source. -/
  | asks (generation : Nat)
  /-- A fetch takes an answer of the source. -/
  | hears (generation : Nat) (outcome : Except FetchError ScreenSchema)

namespace FetchNote

def isStart : FetchNote → Bool
  | .starts => true
  | _ => false

/-- The fetch that it is about. -/
def fetch? : FetchNote → Option Nat
  | .starts => none
  | .asks generation | .hears generation _ => some generation

def isAskOf (generation : Nat) : FetchNote → Bool
  | .asks other => other = generation
  | _ => false

variable (past : List FetchNote) (generation : Nat)

/-- How often a fetch has asked the source. -/
def asked : Nat := past.countP (isAskOf generation)

/-- The latest that was seen of a fetch. -/
def last? : Option FetchNote := (past.filter (·.fetch? = some generation)).getLast?

/-- A fetch may ask: it has not begun, or it has heard of a failure that may pass. -/
def MayAsk : Prop :=
  last? past generation = none ∨
    ∃ e : FetchError, e.MayPass ∧ last? past generation = some (.hears generation (.error e))

/-- The conditions on which a fetch asks the source, in view of all that was seen before: it belongs
to the latest refresh, an attempt is left to it, and it may ask. -/
structure Due (policy : RetryPolicy) : Prop where
  started : 0 < generation
  newest : generation = past.countP isStart
  attempt : asked past generation < max policy.times 1
  mayAsk : MayAsk past generation

/-- Whatever asks the source is due to. -/
def AsksWhenDue (policy : RetryPolicy) (past : List FetchNote) (note : FetchNote) : Prop :=
  ∀ generation, note = .asks generation → Due past generation policy

variable {past generation} {notes : List FetchNote}

theorem asked_others (others : ∀ note ∈ notes, note.fetch? ≠ some generation) :
    asked (past ++ notes) generation = asked past generation := by
  have none : notes.countP (isAskOf generation) = 0 := by
    rw [List.countP_eq_zero]
    intro note mem asks
    cases note with
    | asks own => exact others _ mem (congrArg some (of_decide_eq_true asks))
    | starts => cases asks
    | hears own outcome => cases asks
  rw [asked, List.countP_append, none, Nat.add_zero, asked]

theorem last?_others (others : ∀ note ∈ notes, note.fetch? ≠ some generation) :
    last? (past ++ notes) generation = last? past generation := by
  have none : notes.filter (·.fetch? = some generation) = [] :=
    List.filter_eq_nil_iff.mpr fun note mem own => others note mem (of_decide_eq_true own)
  rw [last?, List.filter_append, none, List.append_nil, last?]

theorem last?_own {note : FetchNote} (own : note.fetch? = some generation) :
    last? (past ++ [note]) generation = some note := by
  simp [last?, own]

theorem asked_asks : asked (past ++ [.asks generation]) generation = asked past generation + 1 := by
  simp [asked, isAskOf]

theorem asked_hears (other : Nat) (outcome : Except FetchError ScreenSchema) :
    asked (past ++ [.hears other outcome]) generation = asked past generation := by
  simp [asked, isAskOf]

/-- Only what is about no fetch starts one. -/
theorem countP_isStart_own (own : ∀ note ∈ notes, note.fetch? = some generation) :
    (past ++ notes).countP isStart = past.countP isStart := by
  have none : notes.countP isStart = 0 := by
    rw [List.countP_eq_zero]
    intro note mem starts
    cases note with
    | starts => cases own _ mem
    | asks generation => cases starts
    | hears generation outcome => cases starts
  rw [List.countP_append, none, Nat.add_zero]

end FetchNote

open FetchNote

/-- Whether a fetch was aborted, and is not over yet. -/
def Fetch.isDoomed (fetch : Fetch) : Bool := fetch.isAborted && !fetch.isOver

namespace Slot

/-- What there is to see of the fetches of a screen at an event. -/
def traffic (policy : RetryPolicy) (slot : Slot) : SlotEvent → List FetchNote
  | .refresh => [.starts]
  | .call generation => if (slot.call? generation).isSome then [.asks generation] else []
  | .answer generation outcome now =>
    if (slot.answer? policy generation outcome now).isSome then [.hears generation outcome] else []
  | .cancel _ => []

/-- Whether an aborted fetch goes on at an event. -/
def resumesAborted (slot : Slot) : SlotEvent → Bool
  | .call generation | .answer generation _ _ => (slot.fetch? generation).any (·.isDoomed)
  | .refresh | .cancel _ => false

/-! ### What a step can do -/

/-- What becomes of a slot at an event, and what there is to see of it. -/
inductive Takes (policy : RetryPolicy) (slot : Slot) :
    SlotEvent → Slot → List FetchNote → Prop where
  | starts : Takes policy slot .refresh (slot.refresh policy) [.starts]
  | asks {generation : Nat} {fetch : Fetch} (found : slot.fetch? generation = some fetch)
      (waiting : fetch.phase = .waiting) :
      Takes policy slot (.call generation)
        (slot.changeFetch generation fun fetch => { fetch with phase := .asking })
        [.asks generation]
  /-- The failure may pass, and an attempt is left. -/
  | pauses {generation : Nat} {fetch : Fetch} {e : FetchError} {now : Int} {backoff : Backoff}
      (found : slot.fetch? generation = some fetch) (asking : fetch.phase = .asking)
      (mayPass : e.MayPass) (left : fetch.backoff.left = backoff.left + 1) :
      Takes policy slot (.answer generation (.error e) now)
        (slot.changeFetch generation fun fetch => { fetch with phase := .waiting, backoff })
        [.hears generation (.error e)]
  | ends {generation : Nat} {fetch : Fetch} {outcome : Except FetchError ScreenSchema} {now : Int}
      (found : slot.fetch? generation = some fetch) (asking : fetch.phase = .asking) :
      Takes policy slot (.answer generation outcome now)
        (slot.finish generation (.ofOutcome now outcome)) [.hears generation outcome]
  | cancels {generation : Nat} {fetch : Fetch} (found : slot.fetch? generation = some fetch) :
      Takes policy slot (.cancel generation) (slot.cancel generation) []
  | rests (event : SlotEvent) : Takes policy slot event slot []

variable {policy : RetryPolicy} {slot : Slot}

/-- No more than that can happen. -/
theorem takes (policy : RetryPolicy) (slot : Slot) (event : SlotEvent) :
    slot.Takes policy event (slot.step policy event) (slot.traffic policy event) := by
  cases event with
  | refresh =>
      exact .starts
  | call generation =>
      rcases slot.call?_cases generation with none | ⟨fetch, found, waiting, some⟩
      · rw [step, traffic, none]
        exact .rests _
      · rw [step, traffic, some]
        exact .asks found waiting
  | answer generation outcome now =>
      rcases slot.answer?_cases policy generation outcome now with
        ⟨-, none⟩ | ⟨fetch, found, asking, ⟨pause, backoff, next, some⟩ | ⟨-, some⟩⟩
      · rw [step, traffic, none]
        exact .rests _
      · obtain ⟨⟨e, rfl, retry⟩, left, -, -⟩ := Backoff.next?_eq_some_iff.mp next
        rw [step, traffic, some]
        exact .pauses found asking (FetchError.isRetryable_iff.mp retry) left
      · rw [step, traffic, some]
        exact .ends found asking
  | cancel generation =>
      cases found : slot.fetch? generation with
      | none =>
          have same : slot.step policy (.cancel generation) = slot := changeFetch_of_none found _
          rw [same]
          exact .rests _
      | some fetch =>
          exact .cancels found

end Slot

/-! ### Books that are kept of a slot -/

/-- How far a fetch has come, and how often it has asked. -/
inductive Fetch.InStep (policy : RetryPolicy) (fetch : Fetch) (past : List FetchNote)
    (generation : Nat) : Prop where
  | waiting (phase : fetch.phase = .waiting)
      (left : asked past generation + (fetch.backoff.left + 1) = policy.attempts)
      (mayAsk : MayAsk past generation)
  | asking (phase : fetch.phase = .asking)
      (left : asked past generation + fetch.backoff.left = policy.attempts)
  | finished (done : fetch.isOver = true) (most : asked past generation ≤ policy.attempts)

namespace Fetch.InStep

variable {policy : RetryPolicy} {fetch fetch' : Fetch} {past notes : List FetchNote}
  {generation : Nat}

theorem of_waiting (h : fetch.InStep policy past generation) (phase : fetch.phase = .waiting) :
    asked past generation + (fetch.backoff.left + 1) = policy.attempts ∧
      MayAsk past generation := by
  cases h with
  | waiting _ left mayAsk => exact ⟨left, mayAsk⟩
  | asking asking left => cases phase.symm.trans asking
  | finished done most => simp [isOver, phase] at done

theorem of_asking (h : fetch.InStep policy past generation) (phase : fetch.phase = .asking) :
    asked past generation + fetch.backoff.left = policy.attempts := by
  cases h with
  | waiting waiting left mayAsk => cases phase.symm.trans waiting
  | asking _ left => exact left
  | finished done most => simp [isOver, phase] at done

/-- However far a fetch has come, it has not asked too often. -/
theorem asked_le (h : fetch.InStep policy past generation) :
    asked past generation ≤ policy.attempts := by
  cases h with
  | waiting phase left mayAsk => omega
  | asking phase left => omega
  | finished done most => exact most

/-- Only what was seen of a fetch itself counts. -/
theorem others (h : fetch.InStep policy past generation)
    (others : ∀ note ∈ notes, note.fetch? ≠ some generation)
    (backoff : fetch'.backoff = fetch.backoff) (phase : fetch'.phase = fetch.phase) :
    fetch'.InStep policy (past ++ notes) generation := by
  have asked_eq : asked (past ++ notes) generation = asked past generation := asked_others others
  cases h with
  | waiting waiting left mayAsk =>
      refine .waiting (phase.trans waiting) ?_ ?_
      · rw [asked_eq, backoff]
        exact left
      · unfold MayAsk
        rw [last?_others others]
        exact mayAsk
  | asking asking left =>
      refine .asking (phase.trans asking) ?_
      rw [asked_eq, backoff]
      exact left
  | finished done most =>
      refine .finished ?_ (Nat.le_trans (Nat.le_of_eq asked_eq) most)
      rw [isOver, phase]
      exact done

end Fetch.InStep

namespace Slot

/-- What was seen of a slot fits what is in it: the fetches are those of the refreshes, each in step
with what was seen of it, and every fetch that can go on is that of the latest refresh or has been
aborted.  To that end the fetch of the latest refresh is in flight until it is over. -/
structure Audited (policy : RetryPolicy) (slot : Slot) (past : List FetchNote) : Prop where
  numbered : slot.generation = past.countP isStart
  known : slot.IsNumbered
  inStep : ∀ n fetch, slot.fetch? n = some fetch → fetch.InStep policy past n
  silent : ∀ n, slot.fetch? n = none → asked past n = 0 ∧ last? past n = none
  inFlight : ∀ fetch, slot.fetch? slot.generation = some fetch → fetch.isOver = false →
    slot.inFlight = some slot.generation
  aborted : ∀ n fetch, slot.fetch? n = some fetch → fetch.isOver = false →
    n ≠ slot.generation → fetch.isAborted = true

variable {policy : RetryPolicy} {slot slot' : Slot} {past : List FetchNote}

theorem audited_start (policy : RetryPolicy) : Audited policy {} [] where
  numbered := rfl
  known := nofun
  inStep := nofun
  silent _ _ := ⟨rfl, rfl⟩
  inFlight := nofun
  aborted := nofun

namespace Audited

variable {generation : Nat} {fetch : Fetch}

/-- No fetch asks more often than it may. -/
theorem asked_le (h : slot.Audited policy past) (n : Nat) : asked past n ≤ policy.attempts := by
  cases found : slot.fetch? n with
  | none =>
      rw [(h.silent n found).1]
      exact Nat.zero_le _
  | some fetch =>
      exact (h.inStep n fetch found).asked_le

/-- A fetch that is neither over nor aborted is that of the latest refresh. -/
theorem eq_generation (h : slot.Audited policy past) (found : slot.fetch? generation = some fetch)
    (goesOn : fetch.isOver = false) (spared : fetch.isAborted = false) :
    generation = slot.generation := by
  by_contra older
  have aborted := h.aborted generation fetch found goesOn older
  rw [spared] at aborted
  cases aborted

/-- A refresh aborts what can go on, and starts a fetch of its own. -/
theorem refresh (h : slot.Audited policy past) :
    (slot.refresh policy).Audited policy (past ++ [.starts]) := by
  have others (n : Nat) : ∀ note ∈ [FetchNote.starts], note.fetch? ≠ some n := by
    intro note mem
    rw [List.mem_singleton.mp mem]
    nofun
  constructor
  case numbered =>
    rw [generation_refresh, h.numbered, List.countP_append]
    rfl
  case known =>
    exact h.known.refresh
  case inStep =>
    intro n fetch found
    rcases fetch?_refresh_cases found with ⟨rfl, rfl⟩ | ⟨-, old, was, rfl⟩
    · obtain ⟨never, nothing⟩ := h.silent _ h.known.fetch?_next
      refine .waiting rfl ?_ (.inl ?_)
      · rw [asked_others (others _), never, Nat.zero_add]
        exact Backoff.left_start policy
      · rw [last?_others (others _), nothing]
    · exact (h.inStep n old was).others (others n) rfl rfl
  case silent =>
    intro n none
    rw [asked_others (others n), last?_others (others n)]
    exact h.silent n (fetch?_eq_none_of_refresh none)
  case inFlight =>
    intro _ _ _
    rw [inFlight_refresh, generation_refresh]
  case aborted =>
    intro n fetch found goesOn older
    rw [generation_refresh] at older
    rcases fetch?_refresh_cases found with ⟨newest, -⟩ | ⟨-, old, was, rfl⟩
    · exact absurd newest older
    by_cases latest : n = slot.generation
    · subst latest
      rw [h.inFlight old was goesOn]
      simp
    · have before := h.aborted n old was goesOn latest
      simp [before]

/-- A step of one fetch, of which alone there may be something to see. -/
theorem change (h : slot.Audited policy past) {f : Fetch → Fetch} {notes : List FetchNote}
    (found : slot.fetch? generation = some fetch)
    (own : ∀ note ∈ notes, note.fetch? = some generation)
    (same : slot'.generation = slot.generation)
    (fetches : ∀ n, slot'.fetch? n =
      if n = generation then (slot.fetch? n).map f else slot.fetch? n)
    (flight : slot'.inFlight = slot.inFlight ∨
      generation = slot.generation ∧ (f fetch).isOver = true)
    (isAborted : (f fetch).isAborted = fetch.isAborted)
    (isOver : fetch.isOver = true → (f fetch).isOver = true)
    (inStep : (f fetch).InStep policy (past ++ notes) generation) :
    slot'.Audited policy (past ++ notes) := by
  have changed : slot'.fetch? generation = some (f fetch) := by
    rw [fetches, if_pos rfl, found, Option.map_some]
  have kept {n : Nat} (other : n ≠ generation) : slot'.fetch? n = slot.fetch? n := by
    rw [fetches, if_neg other]
  have others {n : Nat} (other : n ≠ generation) : ∀ note ∈ notes, note.fetch? ≠ some n :=
    fun note mem about => other (Option.some.inj (about.symm.trans (own note mem)))
  have before (goesOn : (f fetch).isOver = false) : fetch.isOver = false := by
    cases done : fetch.isOver with
    | false => rfl
    | true => exact (isOver done).symm.trans goesOn
  constructor
  case numbered =>
    rw [same, h.numbered, countP_isStart_own own]
  case known =>
    exact h.known.change same fetches
  case inStep =>
    intro n fetch' found'
    by_cases this : n = generation
    · subst this
      obtain rfl := Option.some.inj (changed.symm.trans found')
      exact inStep
    · rw [kept this] at found'
      exact (h.inStep n fetch' found').others (others this) rfl rfl
  case silent =>
    intro n none
    by_cases this : n = generation
    · rw [this, changed] at none
      cases none
    · rw [kept this] at none
      rw [asked_others (others this), last?_others (others this)]
      exact h.silent n none
  case inFlight =>
    intro fetch' found' goesOn
    rw [same] at found' ⊢
    by_cases this : slot.generation = generation
    · rw [this] at found'
      obtain rfl := Option.some.inj (changed.symm.trans found')
      rcases flight with stays | ⟨-, done⟩
      · rw [stays]
        rw [← this] at found
        exact h.inFlight fetch found (before goesOn)
      · cases done.symm.trans goesOn
    · rw [kept this] at found'
      rcases flight with stays | ⟨newest, -⟩
      · rw [stays]
        exact h.inFlight fetch' found' goesOn
      · exact absurd newest.symm this
  case aborted =>
    intro n fetch' found' goesOn older
    rw [same] at older
    by_cases this : n = generation
    · subst this
      obtain rfl := Option.some.inj (changed.symm.trans found')
      rw [isAborted]
      exact h.aborted n fetch found (before goesOn) older
    · rw [kept this] at found'
      exact h.aborted n fetch' found' goesOn older

/-- A fetch that has not been aborted and waits may ask. -/
theorem asks (h : slot.Audited policy past) (found : slot.fetch? generation = some fetch)
    (waiting : fetch.phase = .waiting) (spared : fetch.isDoomed = false) :
    Due past generation policy ∧
      (slot.changeFetch generation fun fetch => { fetch with phase := .asking }).Audited policy
        (past ++ [.asks generation]) := by
  have goesOn : fetch.isOver = false := by
    simp [Fetch.isOver, waiting]
  rw [Fetch.isDoomed, goesOn, Bool.not_false, Bool.and_true] at spared
  have newest := h.eq_generation found goesOn spared
  have bounds := h.known generation (Option.isSome_of_eq_some found)
  obtain ⟨left, mayAsk⟩ := (h.inStep generation fetch found).of_waiting waiting
  constructor
  · refine ⟨bounds.1, newest.trans h.numbered, ?_, mayAsk⟩
    rw [RetryPolicy.attempts] at left
    omega
  · refine h.change found (by simp [FetchNote.fetch?]) rfl
      (slot.fetch?_changeFetch generation _ fun _ => rfl) (.inl rfl) rfl (by simp [goesOn])
      (.asking rfl ?_)
    rw [asked_asks]
    dsimp only
    omega

/-- A pause takes one of the attempts that are left. -/
theorem pauses (h : slot.Audited policy past) (found : slot.fetch? generation = some fetch)
    (asking : fetch.phase = .asking) {e : FetchError} (mayPass : e.MayPass) {backoff : Backoff}
    (less : fetch.backoff.left = backoff.left + 1) :
    (slot.changeFetch generation fun fetch => { fetch with phase := .waiting, backoff }).Audited
      policy (past ++ [.hears generation (.error e)]) := by
  have goesOn : fetch.isOver = false := by
    simp [Fetch.isOver, asking]
  have left := (h.inStep generation fetch found).of_asking asking
  rw [less] at left
  refine h.change found (by simp [FetchNote.fetch?]) rfl
    (slot.fetch?_changeFetch generation _ fun _ => rfl) (.inl rfl) rfl (by simp [goesOn])
    (.waiting rfl ?_ (.inr ⟨e, mayPass, last?_own rfl⟩))
  rw [asked_hears]
  exact left

theorem ends (h : slot.Audited policy past) (found : slot.fetch? generation = some fetch)
    (outcome : Except FetchError ScreenSchema) (result : ScreenResult) :
    (slot.finish generation result).Audited policy (past ++ [.hears generation outcome]) := by
  refine h.change (f := fun fetch => { fetch with phase := .ended }) found
    (by simp [FetchNote.fetch?]) (slot.generation_finish generation result)
    (slot.fetch?_finish generation result) ?_ rfl (fun _ => rfl) (.finished rfl ?_)
  · by_cases newest : generation = slot.generation
    · exact .inr ⟨newest, rfl⟩
    · exact .inl (slot.finish_of_ne generation result newest).2
  · rw [asked_hears]
    exact (h.inStep generation fetch found).asked_le

theorem cancels (h : slot.Audited policy past) (found : slot.fetch? generation = some fetch) :
    (slot.cancel generation).Audited policy past := by
  have before := h.inStep generation fetch found
  rw [← List.append_nil past]
  refine h.change found nofun rfl (slot.fetch?_changeFetch generation _ ?_) (.inl rfl) ?_ ?_ ?_
  · intro fetch
    split <;> rfl
  · split <;> rfl
  · intro done
    split
    · rfl
    · exact done
  · rw [List.append_nil]
    split
    · exact .finished rfl before.asked_le
    · exact before

/-- At an event that resumes no aborted fetch, only what is due is asked, and the books still fit. -/
theorem step {event : SlotEvent} (h : slot.Audited policy past)
    (heeds : slot.resumesAborted event = false) :
    Along (AsksWhenDue policy) past (slot.traffic policy event) ∧
      (slot.step policy event).Audited policy (past ++ slot.traffic policy event) := by
  have takes := slot.takes policy event
  generalize slot.step policy event = slot', slot.traffic policy event = notes at takes ⊢
  cases takes with
  | starts =>
      rw [along_singleton]
      exact ⟨nofun, h.refresh⟩
  | @asks generation fetch found waiting =>
      have spared : fetch.isDoomed = false := by
        rw [resumesAborted, found] at heeds
        exact heeds
      obtain ⟨due, next⟩ := h.asks found waiting spared
      rw [along_singleton]
      refine ⟨?_, next⟩
      rintro _ ⟨⟩
      exact due
  | pauses found asking mayPass left =>
      rw [along_singleton]
      exact ⟨nofun, h.pauses found asking mayPass left⟩
  | ends found asking =>
      rw [along_singleton]
      exact ⟨nofun, h.ends found _ _⟩
  | cancels found =>
      rw [List.append_nil]
      exact ⟨along_nil, h.cancels found⟩
  | rests =>
      rw [List.append_nil]
      exact ⟨along_nil, h⟩

end Audited

/-- In a run that resumes no aborted fetch, the source is asked only when that is due. -/
theorem audited (policy : RetryPolicy) {events : List SlotEvent}
    (heeds : hits (step policy) resumesAborted {} events = []) :
    Along (AsksWhenDue policy) [] (noted (step policy) (traffic policy) {} events) ∧
      (after policy events).Audited policy (noted (step policy) (traffic policy) {} events) :=
  along_noted_of_hits (fun _ _ _ unhit h => h.step unhit) (audited_start policy) heeds

end Slot

end ServerDriven
