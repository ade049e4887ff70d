/-
Module: ServerDriven.Http.Workflow
Purpose: The workflow server over HTTP.
Main exports:
  savePath, executePath, healthPath, WorkflowError.ofTransport, Api.overHttp
-/
import ServerDriven.Http.Exchange
import ServerDriven.Http.Status
import ServerDriven.Workflow.Api

namespace ServerDriven

def savePath : String := "/workflow/save"

def executePath : String := "/client/workflow"

def healthPath : String := "/healthcheck"

/-- What it means for a call that its request has no answer that can be read. -/
def WorkflowError.ofTransport (e : TransportError) : WorkflowError :=
  match e with
  | .unusable _ => .unknown e.message
  | .unanswered _ => .network e.message
  | .cutShort => .parse e.message

/-- Read an answer.  Without success, what counts is the status; a body that broke off then says
nothing. -/
def readAnswer {α : Type} (c : Codec α) (status : Nat) (body : Option String) :
    Except WorkflowError α :=
  if !Status.isSuccess status then .error (.ofStatus status (body.getD ""))
  else match body with
    | none => .error (.ofTransport .cutShort)
    | some text => (c.readText text).mapError fun e => .parse e.message

namespace Api

variable {m : Type → Type} [Monad m]

/-- Send one request of the workflow server and read the answer. -/
def ask {α : Type} (transport : Transport m) (c : Codec α) (method : HttpMethod)
    (base path : String) (body : Option String) : m (Except WorkflowError α) := do
  match ← exchange transport method (endpoint base path) body with
  | .ok (status, body) => return readAnswer c status body
  | .error e => return .error (.ofTransport e)

/-- The workflow server at a base URL. -/
def overHttp (transport : Transport m) (base : String) : Api m where
  save request :=
    ask transport SaveResponse.codec .post base savePath (some (SaveRequest.codec.text request))
  execute request :=
    ask transport ExecutionResponse.codec .post base executePath
      (some (ExecutionRequest.codec.text request))
  health := ask transport HealthResponse.codec .get base healthPath none

end Api

end ServerDriven
