/-
Module: ServerDriven.Proofs.Screen.LatestRefresh
Purpose: A screen shows what became of its latest refresh, in whatever order fetches end.
Main exports:
  Slot.story, Slot.Recorded, Slot.Recorded.step, Slot.recorded, ScreenCache.attempts,
  ScreenCache.latest_refresh_wins
-/
import ServerDriven.Proofs.Screen.FetchAttempts

namespace ServerDriven

open Run

/-!
The channel of a screen tells a story of its refreshes: each one is loading at first, and may then
show a result.  The records of a run are the results that its refreshes have shown, in the order in
which they began, and the attempts of its fetches, in the order in which they were over.
-/

namespace Slot

/-- What a channel carries when its refreshes have shown these results, or none yet. -/
def story (shown : List (Option ScreenResult)) : List ScreenResult :=
  .idle :: shown.flatMap fun result => .loading :: result.toList

theorem story_concat (shown : List (Option ScreenResult)) (result : Option ScreenResult) :
    story (shown ++ [result]) = story shown ++ .loading :: result.toList := by
  simp [story]

/-- The records of a slot are right: the attempts are those of its fetches, and what a refresh has
shown is what its own fetch has come to.  The latest refresh has shown nothing exactly while its
fetch is in flight. -/
structure Recorded (policy : RetryPolicy) (slot : Slot) (shown : List (Option ScreenResult))
    (attempts : List Attempt) : Prop where
  length_shown : shown.length = slot.generation
  attended : slot.Attended policy attempts
  outcome : ∀ n result, shown[n]? = some (some result) → CameTo policy attempts (n + 1) result
  inFlight : slot.inFlight = shown.getLast?.bind fun result =>
    if result.isNone then some slot.generation else none
  underWay : shown.getLast? = some none →
    ∃ fetch, slot.fetch? slot.generation = some fetch ∧ fetch.isAborted = false ∧
      fetch.isOver = false

variable {policy : RetryPolicy} {slot : Slot} {shown older : List (Option ScreenResult)}
  {attempts : List Attempt} {event : SlotEvent} {generation : Nat} {result : ScreenResult}

/-! ### What each kind of step does to the records -/

theorem recorded_start (policy : RetryPolicy) : Recorded policy {} [] [] where
  length_shown := rfl
  attended := .start policy
  outcome := nofun
  inFlight := rfl
  underWay := nofun

/-- A fetch that runs has come to nothing yet. -/
theorem Recorded.not_cameTo (h : slot.Recorded policy shown attempts) {fetch : Fetch}
    (found : slot.fetch? generation = some fetch) (running : fetch.phase ≠ .ended)
    (result : ScreenResult) : ¬CameTo policy attempts generation result := by
  intro came
  have ended : slot.HasEnded generation := (h.attended.hasEnded_iff generation).mpr ⟨result, came⟩
  exact running (ended.phase_eq found)

/-- While the fetch of the latest refresh runs, that refresh has shown nothing. -/
theorem Recorded.eq_concat_none (h : slot.Recorded policy shown attempts) {fetch : Fetch}
    (found : slot.fetch? slot.generation = some fetch) (running : fetch.phase ≠ .ended) :
    ∃ older, shown = older ++ [none] := by
  have length := h.length_shown
  rcases List.eq_nil_or_concat' shown with rfl | ⟨older, last, rfl⟩
  · have bounds := h.attended.known slot.generation (Option.isSome_of_eq_some found)
    rw [List.length_nil] at length
    omega
  · cases last with
    | none =>
        exact ⟨older, rfl⟩
    | some result =>
        rw [List.length_append, List.length_singleton] at length
        have came := h.outcome older.length result (by simp)
        rw [length] at came
        exact absurd came (h.not_cameTo found running result)

/-- A refresh has shown nothing yet. -/
theorem Recorded.refresh (h : slot.Recorded policy shown attempts) :
    (slot.refresh policy).Recorded policy (shown ++ [none]) attempts where
  length_shown := by rw [List.length_append, h.length_shown]; simp
  attended := h.attended.refresh
  outcome n result at_n := by
    rw [List.getElem?_append] at at_n
    split at at_n
    · exact h.outcome n result at_n
    · simp [List.getElem?_singleton] at at_n
  inFlight := by simp
  underWay _ := by
    rw [generation_refresh, fetch?_refresh_newest]
    exact ⟨_, rfl, rfl, rfl⟩

/-- The latest refresh shows what its fetch has come to. -/
theorem Recorded.finish_newest (h : slot.Recorded policy (older ++ [none]) attempts)
    (ends : slot.Ends policy event slot.generation result) :
    (slot.step policy event).Recorded policy (older ++ [some result])
      (attempts ++ (slot.attempt? event).toList) := by
  have length := h.length_shown
  rw [List.length_append, List.length_singleton] at length
  have next := ends.step_eq
  constructor
  case length_shown =>
    rw [next, generation_finish, List.length_append, List.length_singleton, length]
  case attended =>
    exact h.attended.step event
  case outcome =>
    intro n other at_n
    rw [List.getElem?_append] at at_n
    split at at_n
    · rename_i older_n
      apply h.attended.cameTo_step event
      exact h.outcome n other (by rw [List.getElem?_append_left older_n, at_n])
    · rw [List.getElem?_singleton] at at_n
      split at at_n
      · cases at_n
        obtain rfl : n = older.length := by omega
        rw [length]
        exact h.attended.cameTo_of_ends ends
      · cases at_n
  case inFlight =>
    rw [next, (slot.finish_newest result).2]
    simp
  case underWay =>
    intro last
    simp at last

/-- What a fetch that was overtaken comes to is not shown. -/
theorem Recorded.finish_overtaken (h : slot.Recorded policy shown attempts)
    (ends : slot.Ends policy event generation result) (overtaken : generation ≠ slot.generation) :
    (slot.step policy event).Recorded policy shown
      (attempts ++ (slot.attempt? event).toList) := by
  have next := ends.step_eq
  constructor
  case length_shown =>
    rw [next, generation_finish, h.length_shown]
  case attended =>
    exact h.attended.step event
  case outcome =>
    intro n other at_n
    exact h.attended.cameTo_step event (h.outcome n other at_n)
  case inFlight =>
    rw [next, (slot.finish_of_ne generation result overtaken).2, generation_finish]
    exact h.inFlight
  case underWay =>
    intro last
    rw [next, generation_finish, fetch?_finish, if_neg overtaken.symm]
    exact h.underWay last

/-- A fetch that moves on shows nothing. -/
theorem Recorded.movesOn (h : slot.Recorded policy shown attempts)
    (moves : slot.MovesOn policy event) :
    (slot.step policy event).Recorded policy shown
      (attempts ++ (slot.attempt? event).toList) := by
  obtain ⟨generation, f, keeps, goesOn, next⟩ := moves
  constructor
  case length_shown =>
    rw [next, generation_changeFetch, h.length_shown]
  case attended =>
    exact h.attended.step event
  case outcome =>
    intro n other at_n
    exact h.attended.cameTo_step event (h.outcome n other at_n)
  case inFlight =>
    rw [next, inFlight_changeFetch, generation_changeFetch]
    exact h.inFlight
  case underWay =>
    intro last
    obtain ⟨fetch, found, live, running⟩ := h.underWay last
    rw [next, generation_changeFetch, fetch?_changeFetch slot generation f keeps, found]
    split
    · rename_i same
      have on := goesOn fetch (same ▸ found)
      exact ⟨f fetch, rfl, by rw [on.isAborted, live], on.underWay live running⟩
    · exact ⟨fetch, rfl, live, running⟩

/-! ### The records of a run -/

/-- After any step there are right records again, and they tell what the step published. -/
theorem Recorded.step (h : slot.Recorded policy shown attempts) (event : SlotEvent) :
    ∃ shown', (slot.step policy event).Recorded policy shown'
        (attempts ++ (slot.attempt? event).toList) ∧
      story shown' = story shown ++ slot.result.since (slot.step policy event).result := by
  rcases slot.step_cases policy event with
    rfl | ⟨-, generation, result, ends⟩ | ⟨-, moves⟩
  · refine ⟨shown ++ [none], ?_, ?_⟩
    · simpa [attempt?, Slot.step] using h.refresh
    · simp [Slot.step, story_concat]
  · obtain ⟨fetch, found, asking⟩ := ends.asking
    by_cases newest : generation = slot.generation
    · subst newest
      obtain ⟨older, rfl⟩ := h.eq_concat_none found (by simp [asking])
      refine ⟨older ++ [some result], h.finish_newest ends, ?_⟩
      rw [ends.step_eq, (slot.finish_newest result).1, Watched.since_publish, story_concat,
        story_concat]
      simp
    · refine ⟨shown, h.finish_overtaken ends newest, ?_⟩
      rw [ends.step_eq, (slot.finish_of_ne generation result newest).1, Watched.since_self,
        List.append_nil]
  · refine ⟨shown, h.movesOn moves, ?_⟩
    obtain ⟨generation, f, -, -, next⟩ := moves
    rw [next, result_changeFetch, Watched.since_self, List.append_nil]

/-- Every run has right records, which tell all that was published. -/
theorem recorded (policy : RetryPolicy) (events : List SlotEvent) :
    ∃ shown, (after policy events).Recorded policy shown (Slot.attempts policy events) ∧
      published policy events = story shown := by
  induction events using List.reverseRecOn with
  | nil =>
      exact ⟨[], recorded_start policy, rfl⟩
  | append_singleton events event ih =>
      obtain ⟨shown, right, told⟩ := ih
      obtain ⟨shown', right', told'⟩ := right.step event
      refine ⟨shown', ?_, ?_⟩
      · unfold after Slot.attempts at right' ⊢
        rwa [after_concat, noted_concat]
      · unfold published at told ⊢
        rw [published_concat, told, told', after]

/-- Refreshes are numbered as they begin. -/
theorem generation_after (policy : RetryPolicy) (events : List SlotEvent) :
    (after policy events).generation = events.countP (·.isRefresh) := by
  unfold after
  induction events using List.reverseRecOn with
  | nil =>
      rfl
  | append_singleton events event ih =>
      rw [after_concat, List.countP_append, ← ih, List.countP_singleton]
      rcases Slot.step_cases policy _ event with
        rfl | ⟨other, generation, result, ends⟩ | ⟨other, generation, f, -, -, next⟩
      · simp [Slot.step, SlotEvent.isRefresh]
      · rw [ends.step_eq, generation_finish]
        cases event <;> simp_all [SlotEvent.isRefresh]
      · rw [next, generation_changeFetch]
        cases event <;> simp_all [SlotEvent.isRefresh]

/-- A screen was never refreshed, its latest refresh has not ended, or it shows what that has come
to. -/
theorem Recorded.cases (h : slot.Recorded policy shown attempts)
    (last : (story shown).getLast? = some slot.result.value) :
    (slot.result.value = .idle ∧ slot.generation = 0 ∧ slot.inFlight = none) ∨
      (slot.result.value = .loading ∧ 0 < slot.generation ∧ slot.inFlight.isSome ∧
        ∀ result, ¬CameTo policy attempts slot.generation result) ∨
      (0 < slot.generation ∧ slot.inFlight = none ∧
        CameTo policy attempts slot.generation slot.result.value) := by
  have length := h.length_shown
  have inFlight := h.inFlight
  rcases List.eq_nil_or_concat' shown with rfl | ⟨older, newest, rfl⟩
  · have idle : ScreenResult.idle = slot.result.value := by simpa [story] using last
    exact .inl ⟨idle.symm, length.symm, inFlight⟩
  rw [List.length_append, List.length_singleton] at length
  rw [story_concat] at last
  rw [List.getLast?_concat] at inFlight
  cases newest with
  | none =>
      have loading : ScreenResult.loading = slot.result.value := by simpa using last
      obtain ⟨fetch, found, -, notOver⟩ := h.underWay List.getLast?_concat
      have running : fetch.phase ≠ .ended := by
        intro ended
        simp [Fetch.isOver, ended] at notOver
      exact .inr (.inl ⟨loading.symm, by omega, by simp [inFlight], h.not_cameTo found running⟩)
  | some result =>
      have shows : result = slot.result.value := by simpa using last
      have came := h.outcome older.length result (by simp)
      rw [length, shows] at came
      exact .inr (.inr ⟨by omega, by simpa using inFlight, came⟩)

/-- What a screen shows tells how far its latest refresh has come. -/
theorem Recorded.status (h : slot.Recorded policy shown attempts)
    (last : (story shown).getLast? = some slot.result.value) :
    (slot.result.value = .idle ↔ slot.generation = 0) ∧
      (slot.result.value = .loading ↔
        0 < slot.generation ∧ ∀ result, ¬CameTo policy attempts slot.generation result) ∧
      (slot.inFlight.isSome ↔ slot.result.value = .loading) ∧
      (slot.result.value ≠ .idle → slot.result.value ≠ .loading →
        CameTo policy attempts slot.generation slot.result.value) := by
  rcases h.cases last with
    ⟨value, never, inFlight⟩ | ⟨value, started, inFlight, running⟩ | ⟨started, inFlight, came⟩
  · simp [value, never, inFlight]
  · simp [value, inFlight, started, running, Nat.ne_of_gt started]
  · have terminal := came.isTerminal
    have notIdle : slot.result.value ≠ .idle := by
      intro value
      simp [value, ScreenResult.isTerminal] at terminal
    have notLoading : slot.result.value ≠ .loading := by
      intro value
      simp [value, ScreenResult.isTerminal] at terminal
    refine ⟨by simp [notIdle, Nat.ne_of_gt started], ⟨fun value => absurd value notLoading, ?_⟩,
      by simp [inFlight, notLoading], fun _ _ => came⟩
    rintro ⟨-, running⟩
    exact absurd came (running _)

end Slot

/-! ### All screens -/

namespace ScreenCache

/-- The attempt of a fetch of a screen that is over at an event.  Only a fetch that waits for an
answer takes it. -/
def attempt? (cache : ScreenCache) (id : String) : CacheEvent → Option Attempt
  | .answer other generation outcome now =>
    if other = id ∧ (cache.slot id).isAsking generation then some ⟨generation, outcome, now⟩
    else none
  | _ => none

/-- The attempts of all fetches of a screen, in the order in which they were over. -/
def attempts (policy : RetryPolicy) (events : List CacheEvent) (id : String) : List Attempt :=
  noted step (fun cache event => (cache.attempt? id event).toList) { policy } events

theorem attempt?_eq (cache : ScreenCache) (id : String) (event : CacheEvent) :
    cache.attempt? id event = (event.at? id).bind (cache.slot id).attempt? := by
  cases event with
  | answer other generation outcome now =>
      rw [attempt?, CacheEvent.at?]
      by_cases here : other = id
      · simp [here, Slot.attempt?]
      · simp [here]
  | stream other anew =>
      rw [CacheEvent.at?]
      split <;> rfl
  | refresh other =>
      rw [CacheEvent.at?]
      split <;> rfl
  | look other =>
      rfl
  | call other generation =>
      rw [CacheEvent.at?]
      split <;> rfl
  | cancel other generation =>
      rw [CacheEvent.at?]
      split <;> rfl

theorem attempts_eq (policy : RetryPolicy) (events : List CacheEvent) (id : String) :
    attempts policy events id = Slot.attempts policy (events.filterMap (·.at? id)) := by
  rw [← projected_filterMap step _ { policy }]
  refine (slot_embeds policy id).noted_eq (fun cache event _ => ?_) rfl events
  rw [attempt?_eq]
  cases event.at? id <;> rfl

theorem getLast?_channel (policy : RetryPolicy) (events : List CacheEvent) (id : String) :
    (published policy events id).getLast? =
      some ((after policy events).slot id).result.value :=
  getLast?_published (follows_step id) events

theorem length_channel (policy : RetryPolicy) (events : List CacheEvent) (id : String) :
    (published policy events id).length = ((after policy events).slot id).result.version + 1 :=
  length_published (follows_step id) rfl events

theorem countP_refreshes (events : List CacheEvent) (id : String) :
    (events.filterMap (·.at? id)).countP (·.isRefresh) = events.countP (·.refreshes id) := by
  rw [List.countP_filterMap]
  refine List.countP_congr fun event _ => ?_
  cases event with
  | stream other anew =>
      rw [CacheEvent.at?, CacheEvent.refreshes]
      split
      · rename_i here
        simp [here, SlotEvent.isRefresh]
      · rename_i away
        simpa using away
  | refresh other =>
      rw [CacheEvent.at?, CacheEvent.refreshes]
      split
      · rename_i here
        simp [here, SlotEvent.isRefresh]
      · rename_i away
        simpa using away
  | look other =>
      exact .rfl
  | call other generation =>
      rw [CacheEvent.at?]
      split <;> exact .rfl
  | answer other generation outcome now =>
      rw [CacheEvent.at?]
      split <;> exact .rfl
  | cancel other generation =>
      rw [CacheEvent.at?]
      split <;> exact .rfl

/-- The latest refresh of a screen wins.

Whatever callers and fetches do, the channel of a screen publishes that it is idle and then, for
each refresh in turn, that it is loading and at most once a result, which is what the fetch of that
very refresh has come to.  It has come to what its last attempt brought, a screen with the time of
its arrival or a failure; and its attempt is the last if it succeeds, if it fails in a way that may
not be tried again, as a source does that breaks down, or if the policy allows no more.  A fetch
comes to one result at most.

So a screen is idle until it is refreshed, loading while its latest refresh has not ended, which is
when a fetch is in flight, and else it shows what its latest refresh has come to. -/
theorem latest_refresh_wins (policy : RetryPolicy) (events : List CacheEvent) (id : String) :
    let slot := (after policy events).slot id
    let refreshes := events.countP (·.refreshes id)
    let CameTo := Slot.CameTo policy (attempts policy events id)
    (∃ shown : List (Option ScreenResult), shown.length = refreshes ∧
      published policy events id =
        .idle :: (shown.flatMap fun result => .loading :: result.toList) ∧
      ∀ n result, shown[n]? = some (some result) → CameTo (n + 1) result) ∧
    (published policy events id).length = slot.result.version + 1 ∧
    (published policy events id).getLast? = some slot.result.value ∧
    (∀ n result, CameTo n result → (0 < n ∧ n ≤ refreshes) ∧
      ∀ other, CameTo n other → other = result) ∧
    (slot.result.value = .idle ↔ refreshes = 0) ∧
    (slot.result.value = .loading ↔ 0 < refreshes ∧ ∀ result, ¬CameTo refreshes result) ∧
    (slot.inFlight.isSome ↔ slot.result.value = .loading) ∧
    (slot.result.value ≠ .idle → slot.result.value ≠ .loading →
      CameTo refreshes slot.result.value) ∧
    ∀ result, (after policy events).current? id = some result → result = slot.result.value := by
  intro slot refreshes CameTo
  obtain ⟨shown, right, told⟩ := Slot.recorded policy (events.filterMap (·.at? id))
  rw [← published_eq] at told
  rw [← slot_after, ← attempts_eq] at right
  have numbered : slot.generation = refreshes := by
    simp only [slot, refreshes, slot_after, Slot.generation_after, countP_refreshes]
  have last := getLast?_channel policy events id
  have all := length_channel policy events id
  have current : ∀ result, (after policy events).current? id = some result →
      result = slot.result.value := by
    intro result h
    obtain ⟨slot', found, rfl⟩ := Option.map_eq_some_iff.mp h
    rw [← slot_of_get? found]
  refine ⟨⟨shown, right.length_shown.trans numbered, told, right.outcome⟩, all, last,
    fun n result came => ⟨?_, fun other => (Slot.CameTo.unique · came)⟩, ?_⟩
  · obtain ⟨fetch, found, -⟩ := (right.attended.hasEnded_iff n).mpr ⟨result, came⟩
    rw [← numbered]
    exact right.attended.known n (Option.isSome_of_eq_some found)
  · rw [told] at last
    obtain ⟨idle, loading, inFlight, terminal⟩ := right.status last
    rw [numbered] at idle loading terminal
    exact ⟨idle, loading, inFlight, terminal, current⟩

/-- A fetch that was overtaken ends last, and is not heard; the other shows what its second attempt
brings, and when. -/
example (schema : ScreenSchema) :
    published {}
      [.refresh "a", .call "a" 1, .refresh "a", .call "a" 2, .answer "a" 2 (.error (.status 503)) 1,
        .call "a" 2, .answer "a" 2 (.ok schema) 7, .answer "a" 1 (.error (.notFound "a")) 9] "a" =
      [.idle, .loading, .loading, .success schema 7] := rfl

end ScreenCache

end ServerDriven
