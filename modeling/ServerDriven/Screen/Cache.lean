/-
Module: ServerDriven.Screen.Cache
Purpose: The latest result of fetching each screen, and the fetches in the background.
Main exports:
  ScreenResult, Fetch, Slot, ScreenCache, ScreenCache.subscribe, ScreenCache.refresh,
  ScreenCache.current?, ScreenCache.call?, ScreenCache.answer?, ScreenCache.cancel
-/
import ServerDriven.Entries
import ServerDriven.Retry.Policy
import ServerDriven.Schema.Basic
import ServerDriven.Screen.Error
import ServerDriven.Watched

namespace ServerDriven

/-!
Each screen has a slot of its own.  A refresh publishes that the screen is loading and starts a
fetch in the background, which publishes what comes of it; the refresh before is aborted.  An abort
only takes effect when the fetch would go on, so a fetch that was overtaken may still come to its
end.  Generations keep it from publishing: only the fetch of the latest refresh may.
-/

/-- What is known of a screen. -/
inductive ScreenResult where
  /-- It was never asked for. -/
  | idle
  | loading
  /-- It arrived at a time, in milliseconds since 1970. -/
  | success (schema : ScreenSchema) (receivedAt : Int)
  | failure (e : FetchError)
deriving Repr, Inhabited, BEq

namespace ScreenResult

def isLoading : ScreenResult → Bool
  | .loading => true
  | _ => false

/-- Nothing more comes of the fetch. -/
def isTerminal : ScreenResult → Bool
  | .success .. | .failure _ => true
  | .idle | .loading => false

def schema? : ScreenResult → Option ScreenSchema
  | .success schema _ => some schema
  | _ => none

def error? : ScreenResult → Option FetchError
  | .failure e => some e
  | _ => none

/-- What a fetch that ended at a time leaves. -/
def ofOutcome (now : Int) : Except FetchError ScreenSchema → ScreenResult
  | .ok schema => .success schema now
  | .error e => .failure e

end ScreenResult

/-- How far a fetch has come. -/
inductive FetchPhase where
  /-- Before an attempt: not begun, or in a pause. -/
  | waiting
  /-- The source has been asked. -/
  | asking
  | ended
  | cancelled
deriving Repr, DecidableEq, Inhabited

/-- A fetch in the background. -/
structure Fetch where
  generation : Nat
  backoff : Backoff
  phase : FetchPhase
  /-- Whether it is to be cancelled when it would go on. -/
  isAborted : Bool
deriving Repr, DecidableEq, Inhabited

/-- Whether nothing more comes of a fetch. -/
def Fetch.isOver (f : Fetch) : Bool := f.phase = .ended ∨ f.phase = .cancelled

/-- All about one screen. -/
structure Slot where
  result : Watched ScreenResult := .start .idle
  /-- The number of the latest refresh. -/
  generation : Nat := 0
  /-- The fetch that a refresh would abort. -/
  inFlight : Option Nat := none
  /-- The latest first. -/
  fetches : List Fetch := []
deriving Repr, Inhabited

namespace Slot

def fetch? (slot : Slot) (generation : Nat) : Option Fetch :=
  slot.fetches.find? (·.generation = generation)

/-- Change the fetch of a generation. -/
def changeFetch (generation : Nat) (f : Fetch → Fetch) (slot : Slot) : Slot :=
  { slot with
    fetches := slot.fetches.map fun fetch =>
      if fetch.generation = generation then f fetch else fetch }

/-- Abort the fetch that is under way. -/
def abort (slot : Slot) : Slot :=
  match slot.inFlight with
  | some generation =>
    let slot := slot.changeFetch generation fun fetch => { fetch with isAborted := true }
    { slot with inFlight := none }
  | none => slot

/-- Publish that the screen is loading, and start a fetch. -/
def refresh (policy : RetryPolicy) (slot : Slot) : Slot :=
  let slot := slot.abort
  let generation := slot.generation + 1
  { result := slot.result.publish .loading
    generation
    inFlight := some generation
    fetches := ⟨generation, Backoff.start policy, .waiting, false⟩ :: slot.fetches }

/-- A fetch asks the source. -/
def call? (generation : Nat) (slot : Slot) : Option Slot :=
  match slot.fetch? generation with
  | some ⟨_, _, .waiting, _⟩ =>
    some (slot.changeFetch generation fun fetch => { fetch with phase := .asking })
  | _ => none

/-- A fetch has ended.  Its result is published unless there was another refresh since. -/
def finish (generation : Nat) (result : ScreenResult) (slot : Slot) : Slot :=
  let slot := slot.changeFetch generation fun fetch => { fetch with phase := .ended }
  if slot.generation = generation then
    { slot with inFlight := none, result := slot.result.publish result }
  else slot

/-- The source has answered a fetch at a time.  After a failure that may pass, the fetch pauses
while attempts are left; the pause is given. -/
def answer? (policy : RetryPolicy) (generation : Nat) (outcome : Except FetchError ScreenSchema)
    (now : Int) (slot : Slot) : Option (Option Duration × Slot) :=
  match slot.fetch? generation with
  | some ⟨_, backoff, .asking, _⟩ =>
    match backoff.next? policy FetchError.isRetryable outcome with
    | some (pause, backoff) =>
      some (some pause, slot.changeFetch generation fun fetch =>
        { fetch with phase := .waiting, backoff })
    | none => some (none, slot.finish generation (.ofOutcome now outcome))
  | _ => none

/-- An aborted fetch does not go on. -/
def cancel (generation : Nat) (slot : Slot) : Slot :=
  slot.changeFetch generation fun fetch =>
    if fetch.isAborted ∧ !fetch.isOver then { fetch with phase := .cancelled } else fetch

end Slot

/-- The slots of all screens that were ever asked for. -/
structure ScreenCache where
  policy : RetryPolicy := .once
  slots : Entries Slot := []
deriving Inhabited

namespace ScreenCache

def slot (cache : ScreenCache) (id : String) : Slot := (cache.slots.get? id).getD {}

/-- Put a slot in the place of a screen's. -/
def set (cache : ScreenCache) (id : String) (slot : Slot) : ScreenCache :=
  { cache with slots := cache.slots.put id slot }

/-- Make sure that a screen has a slot. -/
def subscribe (cache : ScreenCache) (id : String) : ScreenCache := cache.set id (cache.slot id)

/-- Start a refresh of a screen. -/
def refresh (cache : ScreenCache) (id : String) : ScreenCache :=
  cache.set id ((cache.slot id).refresh cache.policy)

/-- The latest result; none if the screen has no slot. -/
def current? (cache : ScreenCache) (id : String) : Option ScreenResult :=
  (cache.slots.get? id).map fun slot => slot.result.value

def fetch? (cache : ScreenCache) (id : String) (generation : Nat) : Option Fetch :=
  (cache.slots.get? id).bind fun slot => slot.fetch? generation

def call? (cache : ScreenCache) (id : String) (generation : Nat) : Option ScreenCache :=
  ((cache.slots.get? id).bind (Slot.call? generation)).map (cache.set id)

def answer? (cache : ScreenCache) (id : String) (generation : Nat)
    (outcome : Except FetchError ScreenSchema) (now : Int) :
    Option (Option Duration × ScreenCache) :=
  ((cache.slots.get? id).bind (Slot.answer? cache.policy generation outcome now)).map
    fun (pause, slot) => (pause, cache.set id slot)

def cancel (cache : ScreenCache) (id : String) (generation : Nat) : ScreenCache :=
  match cache.slots.get? id with
  | some slot => cache.set id (slot.cancel generation)
  | none => cache

end ScreenCache

end ServerDriven
