/-
Module: ServerDriven.Screen.Controller
Purpose: A surface together with the actions that its screens ask for.
Main exports:
  ScreenController, Outcome, ScreenController.dispatch, ScreenController.work,
  ScreenController.reply, ScreenController.wait, ScreenController.shutdown, Work
-/
import ServerDriven.Action.Parser
import ServerDriven.Dispatch.Basic
import ServerDriven.Screen.Surface

namespace ServerDriven

/-!
Actions stand in line and are performed one after the other.  The surface itself performs what
concerns its screens; all else is asked of the host.  When an action is over, its outcome is sent,
and only then the next begins.

Whoever performs the actions has the turn until he waits, for an action to begin or for the host to
end a call.  A shutdown does not interrupt him: it takes effect when he waits.
-/

/-- How an action ended. -/
structure Outcome where
  kind : String
  result : DispatchResult

/-- An action under way: its kind, and the leaves that are left to perform. -/
structure Job where
  kind : String
  todo : List Leaf
  /-- Whether the host has been asked to perform the first of them. -/
  isAsking : Bool
deriving Repr, Inhabited

structure ScreenController where
  surface : Surface := {}
  scratch : Scratch := []
  /-- The actions that have not begun. -/
  queue : List Action := []
  job : Option Job := none
  /-- The outcomes that have been sent, the latest first. -/
  outcomes : List Outcome := []
  isOpen : Bool := true
  /-- Whether actions are being performed, and nobody waits. -/
  hasTurn : Bool := false

/-- What performing actions comes to next. -/
inductive Work where
  /-- There is nothing to do, or the host has not replied. -/
  | none
  /-- A step was taken. -/
  | step (c : ScreenController)
  /-- The host is asked to perform a leaf. -/
  | ask (leaf : Leaf) (c : ScreenController)

namespace ScreenController

/-- Accept an action, unless the controller has been shut down. -/
def dispatch (c : ScreenController) (action : Action) : Bool × ScreenController :=
  if c.isOpen then (true, { c with queue := c.queue ++ [action] }) else (false, c)

/-- Accept an action in its JSON form, if it is one. -/
def dispatchJson (c : ScreenController) (raw : Json) : Bool × ScreenController :=
  match Action.ofJson? raw with
  | some action => c.dispatch action
  | none => (false, c)

/-- Accept the action of a node, if it has one. -/
def dispatchNode (c : ScreenController) (node : Node) : Bool × ScreenController :=
  match node.parsedAction? with
  | some action => c.dispatch action
  | none => (false, c)

/-- Send the outcome of the action under way. -/
def conclude (c : ScreenController) (job : Job) (result : DispatchResult) : ScreenController :=
  { c with job := none, outcomes := ⟨job.kind, result⟩ :: c.outcomes }

/-- What the surface makes of a leaf; nothing if the leaf is the host's. -/
def perform? (c : ScreenController) : Leaf → Option ScreenController
  | .navigate id clear => some { c with surface := c.surface.navigate id clear }
  | .navigateBack => c.surface.back?.map fun surface => { c with surface }
  | .refresh => some { c with surface := c.surface.reload }
  | leaf => leaf.scratchChange?.map fun change => { c with scratch := change c.scratch }

/-- Take the next step in performing actions. -/
def work (c : ScreenController) : Work :=
  match c.job, c.queue with
  | none, [] => .none
  | none, action :: queue =>
    .step { c with queue, job := some ⟨action.kind, action.leaves, false⟩, hasTurn := true }
  | some ⟨kind, [], asking⟩, _ => .step (c.conclude ⟨kind, [], asking⟩ (.ok ()))
  | some ⟨_, _ :: _, true⟩, _ => .none
  | some ⟨kind, leaf :: todo, false⟩, _ =>
    match c.perform? leaf with
    | some c => .step { c with job := some ⟨kind, todo, false⟩ }
    | none => .ask leaf { c with job := some ⟨kind, leaf :: todo, true⟩ }

/-- The host replies.  The first leaf that does not succeed ends the action. -/
def reply (c : ScreenController) (r : Reply) : ScreenController :=
  match c.job with
  | some ⟨kind, leaf :: todo, true⟩ =>
    let c := { c with hasTurn := true }
    match r with
    | .done => { c with job := some ⟨kind, todo, false⟩ }
    | _ => c.conclude ⟨kind, leaf :: todo, true⟩ r.result
  | _ => c

/-- Show a screen. -/
def load (c : ScreenController) (id : String) (refresh : Bool) : ScreenController :=
  { c with surface := c.surface.load id refresh }

def reload (c : ScreenController) : ScreenController := { c with surface := c.surface.reload }

/-- Whether what comes next may have to be waited for: an action, or the end of a call.  What else
the host is asked for it does at once. -/
def mayWait (c : ScreenController) : Bool :=
  match c.job with
  | none | some ⟨_, .apiCall _ :: _, true⟩ => true
  | some _ => false

/-- The action under way and those in line are dropped. -/
def drop (c : ScreenController) : ScreenController := { c with queue := [], job := none }

/-- Wait, if there is anything to wait for.  After a shutdown nothing goes on from there. -/
def wait (c : ScreenController) : ScreenController :=
  if c.mayWait then
    let c := { c with hasTurn := false }
    if c.isOpen then c else c.drop
  else c

/-- Stop for good.  While nobody has the turn, the action under way and those in line are dropped at
once; else they go on until the next wait. -/
def shutdown (c : ScreenController) : ScreenController :=
  let c := { c with surface := c.surface.stop, isOpen := false }
  if c.hasTurn then c else c.drop

end ScreenController

end ServerDriven
