/-
Module: ServerDriven.Workflow.Error
Purpose: Why a workflow call fails, and what a user is told about it.
Main exports:
  WorkflowError, ErrorCategory, Recovery, WorkflowError.category, WorkflowError.isRetryable
-/

namespace ServerDriven

/-- Why a workflow call fails. -/
inductive WorkflowError where
  /-- The server cannot be reached, or does not answer. -/
  | network (detail : String)
  /-- The server answers with a failing status. -/
  | server (code : Nat) (detail : String)
  /-- Something that the call needs is missing, or the server refuses what was sent. -/
  | validation (detail : String)
  /-- The server does not know the session any more. -/
  | sessionExpired
  /-- The answer has not the form that the call asks for. -/
  | parse (detail : String)
  | unknown (detail : String)
deriving Repr, DecidableEq, Inhabited

/-- The kinds of failure that a user can tell apart. -/
inductive ErrorCategory where
  | network
  | server
  | session
  | validation
  | parse
  | unknown
deriving Repr, DecidableEq, Inhabited

/-- What a user can do about a failure. -/
inductive Recovery where
  | retry
  | reauthenticate
  | restartFlow
  | dismiss
deriving Repr, DecidableEq, Inhabited

namespace WorkflowError

def category : WorkflowError → ErrorCategory
  | .network _ => .network
  | .server _ _ => .server
  | .validation _ => .validation
  | .sessionExpired => .session
  | .parse _ => .parse
  | .unknown _ => .unknown

/-- Whether the same request may succeed when it is sent again: the transport failed, or the server
itself did. -/
def isRetryable : WorkflowError → Bool
  | .network _ => true
  | .server code _ => 500 ≤ code
  | _ => false

def message : WorkflowError → String
  | .network detail => "Network error: " ++ detail
  | .server code detail => "Server error (" ++ toString code ++ "): " ++ detail
  | .validation detail => "Validation error: " ++ detail
  | .sessionExpired => "Workflow session expired"
  | .parse detail => "Parse error: " ++ detail
  | .unknown detail => "Unknown error: " ++ detail

end WorkflowError

namespace ErrorCategory

/-- The one message that a user reads about failures of a category. -/
def userMessage : ErrorCategory → String
  | .network => "Connection problem. Check your internet connection and try again."
  | .server => "The service is temporarily unavailable. Please try again later."
  | .session => "Your session has expired. Please sign in again."
  | .validation => "Some information is missing or incorrect. Please review and try again."
  | .parse => "We received an unexpected response. Please restart and try again."
  | .unknown => "Something went wrong. Please try again."

def recovery : ErrorCategory → Recovery
  | .network | .server | .unknown => .retry
  | .session => .reauthenticate
  | .parse => .restartFlow
  | .validation => .dismiss

end ErrorCategory

end ServerDriven
