/-
Module: ServerDriven.Rehearsal.Script
Purpose: Answers that are fixed before a run: a queue of them under each name.
Main exports:
  Cue, Script, Script.next
-/
import ServerDriven.Entries

namespace ServerDriven.Rehearsal

/-- An answer and the milliseconds that pass before it is given. -/
structure Cue (α : Type) where
  delay : Nat
  answer : α
deriving Repr, Inhabited

/-- The answers that are still to be given, under the names of what they answer. -/
abbrev Script (α : Type) := Entries (List (Cue α))

/-- Take the next answer under a name.  Each is given once. -/
def Script.next {α : Type} (script : Script α) (name : String) : Option (Cue α) × Script α :=
  match script.get? name with
  | some (cue :: rest) => (some cue, script.put name rest)
  | _ => (none, script)

end ServerDriven.Rehearsal
