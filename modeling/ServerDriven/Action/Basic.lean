/-
Module: ServerDriven.Action.Basic
Purpose: The actions that a screen can ask for.
Main exports:
  Leaf, Action, Action.kind, Action.leaves
-/
import ServerDriven.Json.Basic

namespace ServerDriven

/-- A call of an interface of the host. -/
structure ApiCall where
  endpoint : String
  method : String
  body : Option (List (String × Json))
  onSuccess : Option String
  onError : Option String
deriving Repr, DecidableEq, Inhabited

/-- A short message at the edge of the screen. -/
structure Snackbar where
  message : String
  duration : Option Nat
  actionLabel : Option String
deriving Repr, DecidableEq, Inhabited

/-- A question that the user confirms or cancels. -/
structure Dialog where
  title : String
  message : String
  confirmLabel : String
  cancelLabel : Option String
  onConfirm : Option String
  onCancel : Option String
deriving Repr, DecidableEq, Inhabited

/-- A text handed over to another application. -/
structure Share where
  text : String
  url : Option String
deriving Repr, DecidableEq, Inhabited

/-- An action that does one thing. -/
inductive Leaf where
  | navigate (screen : String) (clearStack : Bool)
  | navigateBack
  | navigateExternal (url : String)
  | apiCall (call : ApiCall)
  | setState (key value : String)
  | toggleState (key : String)
  | showSnackbar (snackbar : Snackbar)
  | showDialog (dialog : Dialog)
  | refresh
  | share (share : Share)
deriving Repr, DecidableEq, Inhabited

/-- The name under which an action is reported. -/
def Leaf.kind : Leaf → String
  | .navigate .. => "navigate"
  | .navigateBack => "navigate_back"
  | .navigateExternal .. => "navigate_external"
  | .apiCall .. => "api_call"
  | .setState .. => "set_state"
  | .toggleState .. => "toggle_state"
  | .showSnackbar .. => "show_snackbar"
  | .showDialog .. => "show_dialog"
  | .refresh => "refresh"
  | .share .. => "share"

/-- An action: a leaf, or a batch of actions to be run in order. -/
inductive Action where
  | leaf (l : Leaf)
  | batch (actions : List Action)
deriving Repr, Inhabited

namespace Action

def kind : Action → String
  | .leaf l => l.kind
  | .batch _ => "batch"

mutual

/-- The leaves of an action from left to right. -/
def leaves : Action → List Leaf
  | .leaf l => [l]
  | .batch actions => leavesOfAll actions

/-- The leaves of a list of actions from left to right. -/
def leavesOfAll : List Action → List Leaf
  | [] => []
  | action :: rest => leaves action ++ leavesOfAll rest

end

end Action

end ServerDriven
