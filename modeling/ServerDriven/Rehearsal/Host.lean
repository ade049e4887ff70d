/-
Module: ServerDriven.Rehearsal.Host
Purpose: A host whose answers to the effects of actions are fixed before the run.
Main exports:
  Leaf.effect, Host, Host.answer, Stage, Stage.effects
-/
import ServerDriven.Dispatch.Basic
import ServerDriven.Rehearsal.Clock
import ServerDriven.Rehearsal.Script

namespace ServerDriven

/-- The name of the effect that a leaf asks for. -/
def Leaf.effect : Leaf → String
  | .navigateExternal _ => "open_external"
  | leaf => leaf.kind

namespace Rehearsal

/-- A host with a script, and the effects that it was asked for, the last one first. -/
structure Host where
  script : Script Reply
  asked : List Leaf
deriving Repr, Inhabited

namespace Host

/-- The host's next answer to an effect.  Only a call takes time; all that the script does not
provide for succeeds at once. -/
def answer (host : Host) (leaf : Leaf) : Cue Reply × Host :=
  let (cue?, script) := host.script.next leaf.effect
  let cue := cue?.getD ⟨0, .done⟩
  let delay := match leaf with
    | .apiCall _ => cue.delay
    | _ => 0
  (⟨delay, cue.answer⟩, ⟨script, leaf :: host.asked⟩)

end Host

/-- A host and a clock in milliseconds. -/
structure Stage where
  host : Host
  now : Nat
deriving Repr, Inhabited

/-- The effects of a host that is waited for. -/
def Stage.effects (leaf : Leaf) : StateM Stage Reply := fun stage =>
  let (cue, host) := stage.host.answer leaf
  (cue.answer, ⟨host, stage.now + waited cue.delay⟩)

end Rehearsal

end ServerDriven
