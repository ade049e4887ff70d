/-
Module: ServerDriven.Dispatch.Error
Purpose: How performing an action ends.
Main exports:
  Panic, DispatchError, DispatchResult, Reply, Reply.result
-/

namespace ServerDriven

/-- What an operation that breaks down leaves behind. -/
inductive Panic where
  | text (s : String)
  /-- Something that cannot be read. -/
  | other
deriving Repr, DecidableEq, Inhabited

def Panic.message : Panic → String
  | .text s => s
  | .other => "unknown panic"

/-- Why an action was not performed. -/
inductive DispatchError where
  | callback (detail : String)
  | api (detail : String)
  | panicked (detail : String)
deriving Repr, DecidableEq, Inhabited

def DispatchError.message : DispatchError → String
  | .callback detail => "Action callback failed: " ++ detail
  | .api detail => "API call failed: " ++ detail
  | .panicked detail => "Action handler panicked: " ++ detail

abbrev DispatchResult := Except DispatchError Unit

/-- How one effect ends. -/
inductive Reply where
  | done
  | failed (e : DispatchError)
  | panicked (p : Panic)
deriving Repr, DecidableEq, Inhabited

/-- What the end of an effect means for the action that asked for it. -/
def Reply.result : Reply → DispatchResult
  | .done => .ok ()
  | .failed e => .error e
  | .panicked p => .error (.panicked p.message)

end ServerDriven
