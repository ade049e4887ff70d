/-
Module: ServerDriven.Context.Codec
Purpose: Context values read from any JSON value.
Main exports:
  ContextValue.codec
-/
import ServerDriven.Codec.Basic
import ServerDriven.Context.Basic

namespace ServerDriven

/-- Every JSON value is a context value. -/
def ContextValue.codec : Codec ContextValue :=
  Codec.ofValue (fun v => .ok (ContextValue.ofJson v)) ContextValue.toJson

end ServerDriven
