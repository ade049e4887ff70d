/-
Module: ServerDriven.Proofs.Screen.FetchAttempts
Purpose: A fetch tries as often as its policy asks for, and comes to what its last attempt does.
Main exports:
  Attempt, Attempt.Shows, Attempt.EndWith, Attempt.EndWith.run_eq, Fetch.Attended, Slot.attempts,
  Slot.CameTo, Slot.Attended, Slot.Attended.step, Slot.Attended.hasEnded_iff
-/
import ServerDriven.Proofs.Retry.FirstFinal
import ServerDriven.Proofs.Screen.CacheRun

namespace ServerDriven

open Run

/-- How an attempt of a fetch has turned out, and when. -/
structure Attempt where
  generation : Nat
  outcome : Except FetchError ScreenSchema
  now : Int

namespace Attempt

/-- What a screen shows of an attempt that was the last: what has arrived and when, or what went
wrong.  A source that breaks down leaves the failure `panicked` with its text. -/
inductive Shows : Attempt → ScreenResult → Prop where
  | success (generation : Nat) (schema : ScreenSchema) (now : Int) :
      Shows ⟨generation, .ok schema, now⟩ (.success schema now)
  | failure (generation : Nat) (e : FetchError) (now : Int) :
      Shows ⟨generation, .error e, now⟩ (.failure e)

/-- Those of one fetch. -/
def ofFetch (generation : Nat) (attempts : List Attempt) : List Attempt :=
  attempts.filter fun attempt => attempt.generation = generation

/-- The attempts of one fetch are all that its policy asks for, and end with a last one. -/
def EndWith (policy : RetryPolicy) (own : List Attempt) (last : Attempt) : Prop :=
  ∃ earlier, own = earlier ++ [last] ∧
    policy.Tries FetchError.isRetryable (earlier.map outcome) last.outcome

variable {policy : RetryPolicy} {own attempts : List Attempt} {last : Attempt}
  {result : ScreenResult}

theorem shows_ofOutcome (generation : Nat) (outcome : Except FetchError ScreenSchema) (now : Int) :
    Shows ⟨generation, outcome, now⟩ (.ofOutcome now outcome) := by
  cases outcome with
  | ok schema => exact .success generation schema now
  | error e => exact .failure generation e now

theorem Shows.isTerminal (shown : last.Shows result) : result.isTerminal = true := by
  cases shown <;> rfl

theorem Shows.unique {other : ScreenResult} (one : last.Shows result) (two : last.Shows other) :
    result = other := by
  cases one <;> cases two <;> rfl

theorem EndWith.unique {other : Attempt} (one : EndWith policy own last)
    (two : EndWith policy own other) : last = other := by
  obtain ⟨earlier, rfl, -⟩ := one
  obtain ⟨earlier', same, -⟩ := two
  exact List.singleton_inj.mp (List.append_inj_right' same rfl)

/-- The attempts of a fetch are a run of its policy: an operation that turns out like them is tried
as often, with the same outcome in the end. -/
theorem EndWith.run_eq (ends : EndWith policy own last)
    {outcomes : Nat → Except FetchError ScreenSchema}
    (alike : ∀ i attempt, own[i]? = some attempt → outcomes (i + 1) = attempt.outcome) :
    ∃ earlier, own.length = earlier + 1 ∧
      (policy.run FetchError.isRetryable Trial.rest (Trial.scripted outcomes)).run [] =
        (last.outcome, policy.before earlier ++ [.attempt (earlier + 1)]) := by
  obtain ⟨earlier, rfl, tries⟩ := ends
  have same : ∀ i result, (earlier.map outcome ++ [last.outcome])[i]? = some result →
      outcomes (i + 1) = result := by
    intro i result at_i
    rw [← List.map_singleton, ← List.map_append, List.getElem?_map, Option.map_eq_some_iff] at at_i
    obtain ⟨attempt, at_i, rfl⟩ := at_i
    exact alike i attempt at_i
  refine ⟨earlier.length, List.length_append, ?_⟩
  rw [tries.run_eq same, List.length_map]

theorem ofFetch_append (generation : Nat) (attempts more : List Attempt) :
    ofFetch generation (attempts ++ more) =
      ofFetch generation attempts ++ ofFetch generation more :=
  List.filter_append ..

theorem ofFetch_own (attempt : Attempt) : ofFetch attempt.generation [attempt] = [attempt] := by
  simp [ofFetch]

theorem ofFetch_other {generation : Nat} {attempt : Attempt} (h : attempt.generation ≠ generation) :
    ofFetch generation [attempt] = [] := by
  simp [ofFetch, h]

end Attempt

/-! ### One fetch -/

/-- What a fetch has tried fits how far it has come.  Up to its end no attempt was final, and while
it goes on the attempts that are left are counted right. -/
structure Fetch.Attended (policy : RetryPolicy) (fetch : Fetch) (own : List Attempt) : Prop where
  left : fetch.isOver = false → own.length + 1 + fetch.backoff.left = policy.attempts
  goesOn : fetch.phase ≠ .ended → ∀ i outcome, (own.map Attempt.outcome)[i]? = some outcome →
    ¬policy.IsFinal FetchError.isRetryable (i + 1) outcome
  ended : fetch.phase = .ended → ∃ last, Attempt.EndWith policy own last

namespace Fetch.Attended

variable {policy : RetryPolicy} {fetch fetch' : Fetch} {own : List Attempt}

theorem start (policy : RetryPolicy) (generation : Nat) (isAborted : Bool) :
    Attended policy ⟨generation, .start policy, .waiting, isAborted⟩ [] where
  left _ := by
    rw [List.length_nil, Nat.zero_add, Nat.add_comm]
    exact Backoff.left_start policy
  goesOn _ := nofun
  ended := nofun

/-- Without an attempt a fetch may go on or be cancelled, but it does not end. -/
theorem frame (h : fetch.Attended policy own) (backoff : fetch'.backoff = fetch.backoff)
    (ended : fetch'.phase = .ended ↔ fetch.phase = .ended)
    (stops : fetch.isOver = true → fetch'.isOver = true) : fetch'.Attended policy own where
  left goesOn := by
    rw [backoff]
    apply h.left
    cases done : fetch.isOver with
    | false => rfl
    | true => exact (stops done).symm.trans goesOn
  goesOn running := h.goesOn fun done => running (ended.mpr done)
  ended done := h.ended (ended.mp done)

/-- A fetch that tries to the end has ended just when its attempts have. -/
theorem ended_iff (h : fetch.Attended policy own) :
    fetch.phase = .ended ↔ ∃ last, Attempt.EndWith policy own last := by
  refine ⟨h.ended, ?_⟩
  rintro ⟨last, earlier, rfl, tries⟩
  by_contra running
  refine h.goesOn running earlier.length last.outcome (by simp) ?_
  have final := tries.final
  rw [List.length_map] at final
  exact final

variable {attempt : Attempt}

/-- Nothing follows an attempt of a fetch that waits for it exactly if the attempt is final. -/
theorem next?_eq_none_iff (h : fetch.Attended policy own) (asking : fetch.phase = .asking)
    (outcome : Except FetchError ScreenSchema) :
    fetch.backoff.next? policy FetchError.isRetryable outcome = none ↔
      policy.IsFinal FetchError.isRetryable (own.length + 1) outcome :=
  RetryPolicy.next?_eq_none_iff_isFinal _ (h.left (by simp [isOver, asking])) outcome

/-- After an attempt that is not final, the fetch waits for the next. -/
theorem pause (h : fetch.Attended policy own) (asking : fetch.phase = .asking) {wait : Duration}
    {backoff : Backoff}
    (next : fetch.backoff.next? policy FetchError.isRetryable attempt.outcome =
      some (wait, backoff)) :
    ({ fetch with phase := .waiting, backoff } : Fetch).Attended policy (own ++ [attempt]) where
  left _ := by
    have all := h.left (by simp [isOver, asking])
    have less := (Backoff.next?_eq_some_iff.mp next).2.1
    rw [List.length_append, List.length_singleton]
    dsimp only
    omega
  goesOn _ i outcome at_i := by
    rw [List.map_append, List.getElem?_append] at at_i
    split at at_i
    · exact h.goesOn (by simp [asking]) i outcome at_i
    · rename_i later
      rw [List.length_map] at at_i later
      obtain ⟨here, there⟩ := List.getElem?_eq_some_iff.mp at_i
      rw [List.length_map, List.length_singleton] at here
      have last : i = own.length := by omega
      have same : attempt.outcome = outcome := by simpa [last] using there
      rw [last, ← same, ← h.next?_eq_none_iff asking, next]
      simp
  ended := nofun

/-- A final attempt ends the fetch. -/
theorem finish (h : fetch.Attended policy own) (asking : fetch.phase = .asking)
    (none : fetch.backoff.next? policy FetchError.isRetryable attempt.outcome = none) :
    ({ fetch with phase := .ended } : Fetch).Attended policy (own ++ [attempt]) where
  left goesOn := by simp [isOver] at goesOn
  goesOn running := absurd rfl running
  ended _ := by
    refine ⟨attempt, own, rfl, ?_, h.goesOn (by simp [asking])⟩
    rw [List.length_map]
    exact (h.next?_eq_none_iff asking _).mp none

end Fetch.Attended

/-! ### One screen -/

namespace Slot

/-- The attempt that is over at an event.  Only a fetch that waits for an answer takes it. -/
def attempt? (slot : Slot) : SlotEvent → Option Attempt
  | .answer generation outcome now =>
    if slot.isAsking generation then some ⟨generation, outcome, now⟩ else none
  | .refresh | .call _ | .cancel _ => none

/-- The attempts of all fetches, in the order in which they were over. -/
def attempts (policy : RetryPolicy) (events : List SlotEvent) : List Attempt :=
  noted (step policy) (fun slot event => (slot.attempt? event).toList) {} events

/-- A fetch has come to a result: all attempts that its policy asks for are over, and the result is
what is shown of the last of them. -/
def CameTo (policy : RetryPolicy) (attempts : List Attempt) (generation : Nat)
    (result : ScreenResult) : Prop :=
  ∃ last, Attempt.EndWith policy (Attempt.ofFetch generation attempts) last ∧ last.Shows result

/-- The fetch of a generation has come to its end. -/
def HasEnded (slot : Slot) (generation : Nat) : Prop :=
  ∃ fetch, slot.fetch? generation = some fetch ∧ fetch.phase = .ended

theorem HasEnded.phase_eq {slot : Slot} {n : Nat} {fetch : Fetch} (ended : slot.HasEnded n)
    (found : slot.fetch? n = some fetch) : fetch.phase = .ended := by
  obtain ⟨fetch', found', phase⟩ := ended
  rw [found] at found'
  cases found'
  exact phase

section CameTo

variable {policy : RetryPolicy} {attempts : List Attempt} {n : Nat} {result other : ScreenResult}

theorem CameTo.isTerminal (came : CameTo policy attempts n result) : result.isTerminal = true := by
  obtain ⟨last, -, shown⟩ := came
  exact shown.isTerminal

theorem CameTo.unique (one : CameTo policy attempts n result)
    (two : CameTo policy attempts n other) : result = other := by
  obtain ⟨last, ends, shown⟩ := one
  obtain ⟨last', ends', shown'⟩ := two
  obtain rfl := ends.unique ends'
  exact shown.unique shown'

theorem exists_cameTo_iff :
    (∃ result, CameTo policy attempts n result) ↔
      ∃ last, Attempt.EndWith policy (Attempt.ofFetch n attempts) last := by
  constructor
  · rintro ⟨result, last, ends, -⟩
    exact ⟨last, ends⟩
  · rintro ⟨last, ends⟩
    exact ⟨_, last, ends, Attempt.shows_ofOutcome _ _ _⟩

end CameTo

/-- The attempts of the fetches of a slot fit how far these have come.  A fetch that there is not
has tried nothing. -/
structure Attended (policy : RetryPolicy) (slot : Slot) (attempts : List Attempt) : Prop where
  known : slot.IsNumbered
  silent : ∀ n, slot.fetch? n = none → Attempt.ofFetch n attempts = []
  fetches : ∀ n fetch, slot.fetch? n = some fetch →
    fetch.Attended policy (Attempt.ofFetch n attempts)

namespace Attended

variable {policy : RetryPolicy} {slot slot' : Slot} {attempts more : List Attempt}
  {generation : Nat} {fetch : Fetch}

theorem start (policy : RetryPolicy) : Attended policy {} [] := ⟨nofun, fun _ _ => rfl, nofun⟩

/-- A fetch has ended exactly if it has come to a result. -/
theorem hasEnded_iff (h : slot.Attended policy attempts) (n : Nat) :
    slot.HasEnded n ↔ ∃ result, CameTo policy attempts n result := by
  rw [exists_cameTo_iff]
  cases found : slot.fetch? n with
  | none =>
      constructor
      · rintro ⟨fetch, some, -⟩
        cases found.symm.trans some
      · rintro ⟨last, earlier, own, -⟩
        rw [h.silent n found] at own
        simp at own
  | some fetch =>
      rw [← (h.fetches n fetch found).ended_iff]
      exact ⟨fun ended => ended.phase_eq found, fun ended => ⟨fetch, found, ended⟩⟩

/-- A refresh starts a fetch that has tried nothing, and leaves the others. -/
theorem refresh (h : slot.Attended policy attempts) :
    (slot.refresh policy).Attended policy attempts := by
  constructor
  case known =>
    exact h.known.refresh
  case silent =>
    intro n none
    exact h.silent n (fetch?_eq_none_of_refresh none)
  case fetches =>
    intro n fetch found
    rcases fetch?_refresh_cases found with ⟨rfl, rfl⟩ | ⟨-, old, was, rfl⟩
    · rw [h.silent _ h.known.fetch?_next]
      exact .start policy _ false
    · exact (h.fetches n old was).frame rfl .rfl id

/-- A step of one fetch, of which alone an attempt may be over. -/
theorem change (h : slot.Attended policy attempts) {f : Fetch → Fetch}
    (own : ∀ attempt ∈ more, attempt.generation = generation)
    (found : slot.fetch? generation = some fetch) (same : slot'.generation = slot.generation)
    (fetches : ∀ n, slot'.fetch? n =
      if n = generation then (slot.fetch? n).map f else slot.fetch? n)
    (now : (f fetch).Attended policy (Attempt.ofFetch generation attempts ++ more)) :
    slot'.Attended policy (attempts ++ more) := by
  have kept {n : Nat} (other : n ≠ generation) : slot'.fetch? n = slot.fetch? n := by
    rw [fetches, if_neg other]
  have others {n : Nat} (other : n ≠ generation) :
      Attempt.ofFetch n (attempts ++ more) = Attempt.ofFetch n attempts := by
    rw [Attempt.ofFetch_append, List.append_right_eq_self]
    exact List.filter_eq_nil_iff.mpr fun attempt mem this =>
      other ((of_decide_eq_true this).symm.trans (own attempt mem))
  have mine : Attempt.ofFetch generation (attempts ++ more) =
      Attempt.ofFetch generation attempts ++ more := by
    rw [Attempt.ofFetch_append, List.append_cancel_left_eq]
    exact List.filter_eq_self.mpr fun attempt mem => decide_eq_true (own attempt mem)
  constructor
  case known =>
    exact h.known.change same fetches
  case silent =>
    intro n none
    by_cases this : n = generation
    · rw [fetches, if_pos this, this, found] at none
      cases none
    · rw [kept this] at none
      rw [others this]
      exact h.silent n none
  case fetches =>
    intro n fetch' found'
    by_cases this : n = generation
    · subst this
      rw [fetches, if_pos rfl, found] at found'
      cases found'
      rw [mine]
      exact now
    · rw [kept this] at found'
      rw [others this]
      exact h.fetches n fetch' found'

/-- The same where no attempt is over. -/
theorem move (h : slot.Attended policy attempts) {f : Fetch → Fetch}
    (found : slot.fetch? generation = some fetch) (same : slot'.generation = slot.generation)
    (fetches : ∀ n, slot'.fetch? n =
      if n = generation then (slot.fetch? n).map f else slot.fetch? n)
    (now : (f fetch).Attended policy (Attempt.ofFetch generation attempts)) :
    slot'.Attended policy attempts := by
  rw [← List.append_nil attempts]
  refine h.change (List.forall_mem_nil _) found same fetches ?_
  rwa [List.append_nil]

/-- Asking the source is no attempt yet. -/
theorem call (h : slot.Attended policy attempts) (generation : Nat) :
    (slot.step policy (.call generation)).Attended policy attempts := by
  rcases slot.call?_cases generation with none | ⟨fetch, found, waiting, asks⟩
  · rw [Slot.step, none]
    exact h
  · rw [Slot.step, asks]
    refine h.move found rfl (slot.fetch?_changeFetch generation _ fun _ => rfl) ?_
    refine (h.fetches generation fetch found).frame rfl ?_ ?_
    · simp [waiting]
    · simp [Fetch.isOver, waiting]

/-- An answer that a fetch waits for is an attempt of it. -/
theorem answer (h : slot.Attended policy attempts) (generation : Nat)
    (outcome : Except FetchError ScreenSchema) (now : Int) :
    (slot.step policy (.answer generation outcome now)).Attended policy
      (attempts ++ (slot.attempt? (.answer generation outcome now)).toList) := by
  rcases slot.answer?_cases policy generation outcome now with
    ⟨idle, none⟩ | ⟨fetch, found, asking, answered⟩
  · rw [Slot.step, none, attempt?, if_neg (ne_true_of_eq_false idle)]
    rw [Option.toList_none, List.append_nil]
    exact h
  have waits : slot.isAsking generation = true := isAsking_iff.mpr ⟨fetch, found, asking⟩
  have before := h.fetches generation fetch found
  rw [attempt?, if_pos waits, Option.toList_some]
  rcases answered with ⟨pause, backoff, next, answered⟩ | ⟨none, answered⟩
  · rw [Slot.step, answered]
    exact h.change (List.forall_mem_singleton.mpr rfl) found rfl
      (slot.fetch?_changeFetch generation _ fun _ => rfl) (before.pause asking next)
  · rw [Slot.step, answered]
    exact h.change (f := fun fetch => { fetch with phase := .ended })
      (List.forall_mem_singleton.mpr rfl) found (slot.generation_finish generation _)
      (slot.fetch?_finish generation _) (before.finish asking none)

/-- Neither is a cancellation an attempt. -/
theorem cancel (h : slot.Attended policy attempts) (generation : Nat) :
    (slot.cancel generation).Attended policy attempts := by
  cases found : slot.fetch? generation with
  | none =>
      have same : slot.cancel generation = slot := changeFetch_of_none found _
      rw [same]
      exact h
  | some fetch =>
      have before := h.fetches generation fetch found
      refine h.move found rfl (slot.fetch?_changeFetch generation _ ?_) ?_
      · intro fetch
        split <;> rfl
      split
      · rename_i doomed
        refine before.frame rfl ?_ fun _ => rfl
        have running := doomed.2
        simp only [Fetch.isOver, Bool.not_eq_true', decide_eq_false_iff_not, not_or] at running
        simp [running.1]
      · exact before

/-- Whatever happens, the attempts fit the fetches. -/
theorem step (h : slot.Attended policy attempts) (event : SlotEvent) :
    (slot.step policy event).Attended policy (attempts ++ (slot.attempt? event).toList) := by
  cases event with
  | refresh =>
      rw [attempt?, Option.toList_none, List.append_nil]
      exact h.refresh
  | call generation =>
      rw [attempt?, Option.toList_none, List.append_nil]
      exact h.call generation
  | answer generation outcome now =>
      exact h.answer generation outcome now
  | cancel generation =>
      rw [attempt?, Option.toList_none, List.append_nil]
      exact h.cancel generation

/-- What a fetch has come to stays so. -/
theorem cameTo_step (h : slot.Attended policy attempts) (event : SlotEvent) {n : Nat}
    {result : ScreenResult} (came : CameTo policy attempts n result) :
    CameTo policy (attempts ++ (slot.attempt? event).toList) n result := by
  have ended := (h.hasEnded_iff n).mpr ⟨result, came⟩
  have none : Attempt.ofFetch n (slot.attempt? event).toList = [] := by
    cases event with
    | answer generation outcome now =>
        rw [attempt?]
        split
        · rename_i waits
          refine Attempt.ofFetch_other ?_
          rintro rfl
          obtain ⟨fetch, found, asking⟩ := isAsking_iff.mp waits
          cases (ended.phase_eq found).symm.trans asking
        · rfl
    | _ =>
        rfl
  unfold CameTo
  rw [Attempt.ofFetch_append, none, List.append_nil]
  exact came

/-- An answer that ends a fetch is what the fetch has come to. -/
theorem cameTo_of_ends (h : slot.Attended policy attempts) {event : SlotEvent}
    {result : ScreenResult} (ends : slot.Ends policy event generation result) :
    CameTo policy (attempts ++ (slot.attempt? event).toList) generation result := by
  obtain ⟨⟨outcome, now, rfl, rfl⟩, ⟨fetch, found, asking⟩, next⟩ := ends
  have later := h.step (.answer generation outcome now)
  have waits : slot.isAsking generation = true := isAsking_iff.mpr ⟨fetch, found, asking⟩
  rw [next, attempt?, if_pos waits, Option.toList_some] at later
  rw [attempt?, if_pos waits, Option.toList_some]
  have ended : (slot.finish generation (.ofOutcome now outcome)).HasEnded generation := by
    refine ⟨{ fetch with phase := .ended }, ?_, rfl⟩
    rw [fetch?_finish, if_pos rfl, found]
    rfl
  obtain ⟨last, earlier, own, tries⟩ :=
    exists_cameTo_iff.mp ((later.hasEnded_iff generation).mp ended)
  have same := own
  rw [Attempt.ofFetch_append, Attempt.ofFetch_own ⟨generation, outcome, now⟩] at same
  obtain rfl := List.singleton_inj.mp (List.append_inj_right' same rfl)
  exact ⟨_, ⟨earlier, own, tries⟩, Attempt.shows_ofOutcome generation outcome now⟩

end Attended

end Slot

end ServerDriven
