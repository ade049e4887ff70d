/-
Module: ServerDriven.Rehearsal.Workflow
Purpose: Overlapping calls against a server whose answers are fixed before the run.
Main exports:
  WorkflowRun, WorkflowRun.next?, WorkflowRun.perform, WorkflowRun.spawn, WorkflowRun.sleep
-/
import ServerDriven.Rehearsal.Server
import ServerDriven.Workflow.Controller

namespace ServerDriven.Rehearsal

/-- A controller, its server, and what it waits for: the end of a pause, or an answer, at a time. -/
structure WorkflowRun where
  controller : WorkflowController Memory
  policy : RetryPolicy
  fresh : Nat → String
  server : Server
  due : Option (Nat × Option Answer)

namespace WorkflowRun

/-- Send a request; the answer comes after its delay. -/
def send (run : WorkflowRun) (request : ExecutionRequest)
    (controller : WorkflowController Memory) : WorkflowRun :=
  let (cue, server) := run.server.receive (.execute request)
  { run with controller, server, due := some (server.now + waited cue.delay, some cue.answer) }

/-- Let something happen that is due. -/
def happen (run : WorkflowRun) : Option Answer → Option WorkflowRun
  | none => run.controller.again?.map fun (request, controller) => run.send request controller
  | some answer =>
    (run.controller.answer? run.policy (Server.decode ExecutionResponse.codec answer)).map
      fun (pause?, controller) =>
        { run with
          controller
          due := pause?.map fun pause => (run.server.now + waited pause.ceilMillis, none) }

/-- The next thing that happens, not later than a limit if there is one: the first call in the line
begins at once, and what is due happens at its time. -/
def next? (limit : Option Nat) (run : WorkflowRun) : Option WorkflowRun :=
  match run.controller.begin? run.policy run.fresh with
  | some (request, controller) => some (run.send request controller)
  | none =>
    match run.due with
    | some (time, what) =>
      if limit.all (time ≤ ·) then
        let server := { run.server with now := max run.server.now time }
        { run with server, due := none }.happen what
      else none
    | none => none

/-- Come to a time, with all that happens up to it and at it, in at most so many steps. -/
def pass (time : Nat) : Nat → WorkflowRun → WorkflowRun
  | 0, run => run
  | steps + 1, run =>
    match run.next? (some time) with
    | some run => pass time steps run
    | none => { run with server := { run.server with now := max run.server.now time } }

/-- Let time pass, and all happen that happens meanwhile. -/
def sleep (steps millis : Nat) (run : WorkflowRun) : WorkflowRun :=
  pass (run.server.now + waited millis) steps run

/-- Go on until a call is over. -/
def await (number : Nat) : Nat → WorkflowRun → WorkflowRun
  | 0, run => run
  | steps + 1, run =>
    if run.controller.isUnderWay number then
      match run.next? none with
      | some run => await number steps run
      | none => run
    else run

/-- Act on an intent and wait until it has been done. -/
def perform (steps number : Nat) (intent : Intent) (run : WorkflowRun) : WorkflowRun :=
  await number steps { run with controller := run.controller.submit number intent }

/-- Act on an intent in the background, behind all that is to be done now. -/
def spawn (steps number : Nat) (intent : Intent) (run : WorkflowRun) : WorkflowRun :=
  let run := run.sleep steps 0
  { run with controller := run.controller.submit number intent }.sleep steps 0

end WorkflowRun

end ServerDriven.Rehearsal
