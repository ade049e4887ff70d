/-
Module: ServerDriven.Workflow.Api
Purpose: The workflow server as its clients see it.
Main exports:
  Api, Api.retrying
-/
import ServerDriven.Retry.Run
import ServerDriven.Workflow.Error
import ServerDriven.Workflow.Message

namespace ServerDriven

/-- A server that answers requests, each in its own time. -/
structure Api (m : Type → Type) where
  save : SaveRequest → m (Except WorkflowError SaveResponse)
  execute : ExecutionRequest → m (Except WorkflowError ExecutionResponse)
  health : m (Except WorkflowError HealthResponse)

namespace Api

variable {m : Type → Type} [Monad m]

/-- Ask again after failures that may pass.  A request that fires an event is sent once: the server
may have taken the event although its answer was lost. -/
def retrying (policy : RetryPolicy) (pause : Duration → m Unit) (api : Api m) : Api m where
  save request := policy.run WorkflowError.isRetryable pause (api.save request)
  execute request :=
    if request.isEvent then api.execute request
    else policy.run WorkflowError.isRetryable pause (api.execute request)
  health := policy.run WorkflowError.isRetryable pause api.health

end Api

end ServerDriven
