/-
Module: ServerDriven.Screen.Error
Purpose: Why a screen cannot be had.
Main exports:
  FetchError, FetchError.isRetryable, FetchError.message
-/

namespace ServerDriven

/-- Why a screen cannot be had. -/
inductive FetchError where
  | network (detail : String)
  /-- The server answers with a failing status other than "not found". -/
  | status (code : Nat)
  /-- What came is not a screen. -/
  | parse (detail : String)
  | notFound (screen : String)
  /-- The source broke down. -/
  | panicked (detail : String)
deriving Repr, DecidableEq, Inhabited

namespace FetchError

/-- Whether the same screen may be had on another attempt. -/
def isRetryable : FetchError → Bool
  | .network _ => true
  | .status code => 500 ≤ code
  | .parse _ | .notFound _ | .panicked _ => false

def message : FetchError → String
  | .network detail => "Network error: " ++ detail
  | .status code => "Screen endpoint returned status " ++ toString code
  | .parse detail => "Invalid screen schema: " ++ detail
  | .notFound screen => "Screen not found: " ++ screen
  | .panicked detail => "Screen source panicked: " ++ detail

end FetchError

end ServerDriven
