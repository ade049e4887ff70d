/-
Module: ServerDriven.Rehearsal.Screens
Purpose: Screens and actions against a source and a host whose answers are fixed before the run.
Main exports:
  ScreenRun, ScreenRun.next?, ScreenRun.change, ScreenRun.sleep, CacheRun
-/
import ServerDriven.Rehearsal.Agenda
import ServerDriven.Rehearsal.Host
import ServerDriven.Screen.Controller

namespace ServerDriven.Rehearsal

/-- What may go on in the background. -/
inductive Activity where
  /-- Actions are performed, or waited for. -/
  | work
  /-- The host replies. -/
  | reply (r : Reply)
  /-- A fetch goes on. -/
  | fetch (screen : String) (generation : Nat)
  /-- The source answers a fetch. -/
  | answer (screen : String) (generation : Nat) (outcome : Except FetchError ScreenSchema)
  /-- A loader goes on. -/
  | follow (generation : Nat)

/-- A controller with its source and its host, and what is going on in the background. -/
structure ScreenRun where
  controller : ScreenController := {}
  /-- The clock of the machine when the run begins. -/
  clock : Int := 0
  screens : Script (Except FetchError ScreenSchema) := []
  host : Host := ⟨[], []⟩
  /-- Whoever performs the actions is there from the beginning, before any fetch. -/
  agenda : Agenda Activity := { ready := [.work] }
  /-- When the source was asked for which screen, the latest first. -/
  fetched : List (Nat × String) := []

namespace ScreenRun

def cache (run : ScreenRun) : ScreenCache := run.controller.surface.cache

def setCache (run : ScreenRun) (cache : ScreenCache) : ScreenRun :=
  { run with
    controller := { run.controller with surface := { run.controller.surface with cache } } }

/-- The fetches of a cache that pass a test, the earliest of each screen first. -/
def fetches (cache : ScreenCache) (test : String → Slot → Fetch → Bool) : List Activity :=
  cache.slots.flatMap fun (id, slot) =>
    let chosen := slot.fetches.filter (test id slot)
    (chosen.map fun fetch => Activity.fetch id fetch.generation).reverse

/-- What goes on in the background once one surface has become another: fetches that were aborted,
loaders with something new to look at, new fetches and new loaders. -/
def started (before after : Surface) : List Activity :=
  let isNew := fun (id : String) (_ : Slot) (fetch : Fetch) =>
    decide ((before.cache.slot id).generation < fetch.generation)
  let isAborted := fun (id : String) (_ : Slot) (fetch : Fetch) =>
    fetch.isAborted && !fetch.isOver &&
      ((before.cache.fetch? id fetch.generation).any fun known => !known.isAborted)
  let behind := (after.loaders.filter fun loader =>
    !loader.isAborted && after.isBehind loader).reverse
  let follow := fun (loader : Loader) => Activity.follow loader.generation
  let isKnown := fun (loader : Loader) => (before.loader? loader.generation).isSome
  fetches after.cache isAborted ++ (behind.filter isKnown).map follow ++
    fetches after.cache isNew ++ (behind.filter (!isKnown ·)).map follow

/-- Go on with another controller, and with what it starts. -/
def change (run : ScreenRun) (controller : ScreenController) : ScreenRun :=
  let started := started run.controller.surface controller.surface
  { run with controller, agenda := started.foldl Agenda.add run.agenda }

/-- The source answers a fetch; a pause may follow. -/
def answered (run : ScreenRun) (id : String) (generation : Nat)
    (outcome : Except FetchError ScreenSchema) : ScreenRun :=
  let now := run.clock + (run.agenda.now : Int)
  match run.cache.answer? id generation outcome now with
  | none => run
  | some (pause?, cache) =>
    let surface := { run.controller.surface with cache }
    let run := run.change { run.controller with surface }
    match pause? with
    | none => run
    | some pause =>
      { run with agenda := run.agenda.wait pause.ceilMillis (.fetch id generation) }

/-- Ask the source; what the script does not provide for is not found.  The answer may take time. -/
def asked (run : ScreenRun) (id : String) (generation : Nat) : ScreenRun :=
  match run.cache.call? id generation with
  | none => run
  | some cache =>
    let (cue?, screens) := run.screens.next id
    let cue := cue?.getD ⟨0, .error (.notFound id)⟩
    let run := { run.setCache cache with
      screens, fetched := (run.agenda.now, id) :: run.fetched }
    { run with agenda := run.agenda.wait cue.delay (.answer id generation cue.answer) }

/-- Let one activity go on.  A fetch that was aborted is cancelled instead. -/
def act (run : ScreenRun) : Activity → ScreenRun
  | .fetch id generation =>
    match run.cache.fetch? id generation with
    | some fetch =>
      if fetch.isAborted then run.setCache (run.cache.cancel id generation)
      else run.asked id generation
    | none => run
  | .answer id generation outcome =>
    match run.cache.fetch? id generation with
    | some fetch =>
      if fetch.isAborted then run.setCache (run.cache.cancel id generation)
      else run.answered id generation outcome
    | none => run
  | .follow generation =>
    match run.controller.surface.loader? generation with
    | some loader =>
      if loader.isAborted then run
      else
        { run with
          controller := { run.controller with
            surface := run.controller.surface.follow generation } }
    | none => run
  | .reply r =>
    let run := run.change (run.controller.reply r)
    { run with agenda := run.agenda.soon .work }
  | .work =>
    match run.controller.work with
    | .none => { run with controller := run.controller.wait }
    | .step controller =>
      let run := run.change controller
      { run with agenda := run.agenda.soon .work }
    | .ask leaf controller =>
      let (cue, host) := run.host.answer leaf
      let controller := if cue.delay = 0 then controller else controller.wait
      { run with controller, host, agenda := run.agenda.wait cue.delay (.reply cue.answer) }

/-- The next thing that happens: what is to be done now, or else what is planned, not later than a
limit if there is one. -/
def next? (limit : Option Nat) (run : ScreenRun) : Option ScreenRun :=
  match run.agenda.next? with
  | some (activity, agenda) => some ({ run with agenda }.act activity)
  | none => (run.agenda.advance? limit).map fun agenda => { run with agenda }

/-- Come to a time, with all that happens up to it and at it, in at most so many steps. -/
def pass (time : Nat) : Nat → ScreenRun → ScreenRun
  | 0, run => run
  | steps + 1, run =>
    match run.next? (some time) with
    | some run => pass time steps run
    | none => { run with agenda := run.agenda.reach time }

/-- Let time pass, and all happen that happens meanwhile. -/
def sleep (steps millis : Nat) (run : ScreenRun) : ScreenRun :=
  pass (run.agenda.now + waited millis) steps run

/-- Go on until a fetch is over and nothing more is to be done at that time. -/
def await (id : String) (generation : Nat) : Nat → ScreenRun → ScreenRun
  | 0, run => run
  | steps + 1, run =>
    if run.agenda.ready.isEmpty ∧ ((run.cache.fetch? id generation).all Fetch.isOver) then run
    else match run.next? none with
      | some run => await id generation steps run
      | none => run

/-- Accept an action, or refuse it, and have it performed in the background. -/
def accept (run : ScreenRun) (accepted : Bool × ScreenController) : Bool × ScreenRun :=
  let run := run.change accepted.2
  (accepted.1, { run with agenda := run.agenda.add .work })

/-- Go on with another cache. -/
def changeCache (run : ScreenRun) (cache : ScreenCache) : ScreenRun :=
  run.change { run.controller with surface := { run.controller.surface with cache } }

end ScreenRun

/-- A run of a cache with receivers, each of a screen and with the publications that it has seen,
and with handles of fetches. -/
structure CacheRun where
  run : ScreenRun
  receivers : List (String × Nat) := []
  handles : List (String × Nat) := []

namespace CacheRun

def cache (s : CacheRun) : ScreenCache := s.run.cache

/-- Receive a screen's results, and refresh it if that is wanted. -/
def stream (s : CacheRun) (id : String) (refresh : Bool) : ScreenResult × CacheRun :=
  let seen := (s.cache.slot id).result.version
  let cache := s.cache.subscribe id
  let cache := if refresh then cache.refresh id else cache
  ((cache.slot id).result.value,
    { s with run := s.run.changeCache cache, receivers := s.receivers ++ [(id, seen)] })

/-- Refresh a screen; the number of the fetch's handle. -/
def refresh (s : CacheRun) (id : String) : Nat × CacheRun :=
  let cache := s.cache.refresh id
  (s.handles.length,
    { s with
      run := s.run.changeCache cache
      handles := s.handles ++ [(id, (cache.slot id).generation)] })

/-- Wait until a fetch is over. -/
def await (s : CacheRun) (steps handle : Nat) : Option FetchPhase × CacheRun :=
  match s.handles[handle]? with
  | some (id, generation) =>
    let isOver := (s.cache.fetch? id generation).all Fetch.isOver
    let run := if isOver then s.run else s.run.await id generation steps
    ((run.cache.fetch? id generation).map (·.phase), { s with run })
  | none => (none, s)

/-- Whether a receiver has something new, and the latest result. -/
def poll? (s : CacheRun) (receiver : Nat) : Option (Bool × ScreenResult × CacheRun) :=
  match s.receivers[receiver]? with
  | some (id, seen) =>
    let result := (s.cache.slot id).result
    some (result.hasChanged seen, result.value,
      { s with receivers := s.receivers.set receiver (id, result.version) })
  | none => none

end CacheRun

end ServerDriven.Rehearsal
