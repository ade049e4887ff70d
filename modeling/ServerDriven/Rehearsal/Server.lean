/-
Module: ServerDriven.Rehearsal.Server
Purpose: A workflow server whose answers are fixed before the run.
Main exports:
  Sent, Server, Server.api
-/
import ServerDriven.Rehearsal.Clock
import ServerDriven.Rehearsal.Script
import ServerDriven.Workflow.Api

namespace ServerDriven.Rehearsal

/-- A request that the server received. -/
inductive Sent where
  | execute (request : ExecutionRequest)
  | save (request : SaveRequest)
  | health
deriving Repr, Inhabited

namespace Sent

def name : Sent → String
  | .execute _ => "execute"
  | .save _ => "save"
  | .health => "health"

/-- The body of the request. -/
def body? : Sent → Option String
  | .execute request => some (ExecutionRequest.codec.text request)
  | .save request => some (SaveRequest.codec.text request)
  | .health => none

end Sent

/-- An answer of the server, as JSON. -/
abbrev Answer := Except WorkflowError Json

/-- A server with its script, a clock in milliseconds, and what it received when, the latest
first. -/
structure Server where
  script : Script Answer
  now : Nat
  received : List (Nat × Sent)
deriving Inhabited

namespace Server

/-- Receive a request, and look up the answer. -/
def receive (sent : Sent) (server : Server) : Cue Answer × Server :=
  let (cue?, script) := server.script.next sent.name
  (cue?.getD ⟨0, .error (.unknown "script exhausted")⟩,
    { server with script, received := (server.now, sent) :: server.received })

/-- Let time pass. -/
def wait (millis : Nat) (server : Server) : Server :=
  { server with now := server.now + waited millis }

/-- An answer as the type that the request asks for. -/
def decode {α : Type} (c : Codec α) : Answer → Except WorkflowError α
  | .error e => .error e
  | .ok v => (c.fromJson v).mapError fun e => .parse e.message

/-- Send a request and wait for its answer. -/
def ask {α : Type} (c : Codec α) (sent : Sent) : StateM Server (Except WorkflowError α) :=
  fun server =>
    let (cue, server) := server.receive sent
    (decode c cue.answer, server.wait cue.delay)

/-- The server, for a client that waits for each answer. -/
def api : Api (StateM Server) where
  save request := ask SaveResponse.codec (.save request)
  execute request := ask ExecutionResponse.codec (.execute request)
  health := ask HealthResponse.codec .health

def pause (d : Duration) : StateM Server Unit := modify (wait d.ceilMillis)

end Server

end ServerDriven.Rehearsal
