/-
Module: ServerDriven.Dispatch.Basic
Purpose: Performing actions: leaves in their order, up to the first that does not succeed.
Main exports:
  Scratch, Leaf.scratchChange?, Action.perform, Action.dispatch
-/
import ServerDriven.Action.Basic
import ServerDriven.Dispatch.Error
import ServerDriven.Entries

namespace ServerDriven

/-- The texts that actions keep for each other. -/
abbrev Scratch := Entries String

namespace Scratch

/-- Turn a switch over.  What is not on is off. -/
def toggle (key : String) (scratch : Scratch) : Scratch :=
  scratch.put key (if scratch.get? key = some "true" then "false" else "true")

end Scratch

/-- What a leaf that only concerns the scratch does to it.  The other leaves are effects. -/
def Leaf.scratchChange? : Leaf → Option (Scratch → Scratch)
  | .setState key value => some (Entries.put key value)
  | .toggleState key => some (Scratch.toggle key)
  | _ => none

namespace Action

variable {m : Type → Type} [Monad m]

/-- Perform one leaf. -/
def performLeaf (effects : Leaf → m Reply) (leaf : Leaf) : StateT Scratch m Reply :=
  match leaf.scratchChange? with
  | some change => do
    modify change
    pure .done
  | none => effects leaf

mutual

/-- Perform an action.  A batch is over at the first of its actions that does not succeed. -/
def perform (effects : Leaf → m Reply) : Action → StateT Scratch m Reply
  | .leaf l => performLeaf effects l
  | .batch actions => performAll effects actions

def performAll (effects : Leaf → m Reply) : List Action → StateT Scratch m Reply
  | [] => pure .done
  | action :: rest => do
    match ← perform effects action with
    | .done => performAll effects rest
    | reply => pure reply

end

/-- Perform an action, and report a breakdown anywhere in it as a failure. -/
def dispatch (effects : Leaf → m Reply) (action : Action) : StateT Scratch m DispatchResult :=
  Reply.result <$> perform effects action

end Action

end ServerDriven
