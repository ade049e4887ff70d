/-
Module: ServerDriven.Action.Parser
Purpose: The grammar by which a JSON object asks for an action.
Main exports:
  Verb, Verb.tokens, Verb.ofText?, Verb.leaf?, Action.ofJson?
-/
import ServerDriven.Action.Basic
import ServerDriven.Json.Printer
import ServerDriven.Text.Blank
import ServerDriven.Text.Uppercase

namespace ServerDriven

/-- What the `type` member of an action can say. -/
inductive Verb where
  | navigate
  | navigateBack
  | navigateExternal
  | apiCall
  | setState
  | toggleState
  | showSnackbar
  | showDialog
  | refresh
  | share
  | batch
deriving Repr, DecidableEq, Inhabited

namespace Verb

/-- The spellings of a verb, in lower case. -/
def tokens : Verb → List String
  | .navigate => ["navigate"]
  | .navigateBack => ["navigate_back", "navigateback", "back"]
  | .navigateExternal => ["navigate_external", "navigateexternal", "open_url"]
  | .apiCall => ["api_call", "apicall", "fetch"]
  | .setState => ["set_state", "setstate", "update"]
  | .toggleState => ["toggle_state", "togglestate", "toggle"]
  | .showSnackbar => ["show_snackbar", "showsnackbar", "snackbar"]
  | .showDialog => ["show_dialog", "showdialog", "dialog"]
  | .refresh => ["refresh", "reload"]
  | .share => ["share"]
  | .batch => ["batch", "sequence"]

def all : List Verb :=
  [.navigate, .navigateBack, .navigateExternal, .apiCall, .setState, .toggleState, .showSnackbar,
    .showDialog, .refresh, .share, .batch]

/-- The verb with a given spelling, in any case. -/
def ofText? (text : String) : Option Verb :=
  all.find? fun verb => verb.tokens.contains (Text.keyword text)

end Verb

namespace Action

/-- The members of an action object. -/
abbrev Members := List (String × Json)

/-- The text of a member that is a string, a number or a truth value. -/
def text? (members : Members) (key : String) : Option String :=
  (Entries.get? members key).bind Json.scalarText?

/-- A flag is set by `true`, also written as a string in any case. -/
def flag (members : Members) (key : String) : Bool :=
  match Entries.get? members key with
  | some (.bool b) => b
  | some (.string s) => s.toList.map Char.toLower == ['t', 'r', 'u', 'e']
  | _ => false

/-- The text stored by an assignment: a string as it is, nothing for a missing value and for null,
and the compact text of any other value. -/
def storedText : Option Json → String
  | none | some .null => ""
  | some (.string s) => s
  | some value => value.compact

/-- A duration in milliseconds, as a number or as text. -/
def duration? (members : Members) : Option Nat :=
  match Entries.get? members "duration" with
  | some (.string s) => Text.readNat UInt64.size (Text.trim s)
  | some value => value.asNat?
  | none => none

end Action

/-- The leaf that a verb asks for with the given members, if its required members are there.
A batch is no leaf. -/
def Verb.leaf? (members : Action.Members) : Verb → Option Leaf
  | .navigate => do
    let screen ← (Action.text? members "screenId").or (Action.text? members "target")
    some (.navigate screen (Action.flag members "clearStack"))
  | .navigateBack => some .navigateBack
  | .navigateExternal => do
    some (.navigateExternal (← Action.text? members "url"))
  | .apiCall => do
    let endpoint ← Action.text? members "endpoint"
    some (.apiCall {
      endpoint
      method := ((Action.text? members "method").map Text.upper).getD "GET"
      body := (Entries.get? members "body").bind Json.asObject?
      onSuccess := Action.text? members "onSuccess"
      onError := Action.text? members "onError" })
  | .setState => do
    let key ← Action.text? members "key"
    some (.setState key (Action.storedText (Entries.get? members "value")))
  | .toggleState => do
    some (.toggleState (← Action.text? members "key"))
  | .showSnackbar => do
    let message ← Action.text? members "message"
    some (.showSnackbar {
      message
      duration := Action.duration? members
      actionLabel := Action.text? members "actionLabel" })
  | .showDialog => do
    let message ← Action.text? members "message"
    some (.showDialog {
      title := (Action.text? members "title").getD ""
      message
      confirmLabel := (Action.text? members "confirmLabel").getD "OK"
      cancelLabel := Action.text? members "cancelLabel"
      onConfirm := Action.text? members "onConfirm"
      onCancel := Action.text? members "onCancel" })
  | .refresh => some .refresh
  | .share => do
    let text ← Action.text? members "text"
    some (.share { text, url := Action.text? members "url" })
  | .batch => none

namespace Action

/-- A batch of at least one action. -/
def batch? : List Action → Option Action
  | [] => none
  | actions => some (.batch actions)

/-- The action that a value asks for.  The elements of a batch that ask for nothing are left out,
and a batch in which nothing remains is no action. -/
def ofJson? (v : Json) : Option Action :=
  match v with
  | .object members =>
    match (text? members "type").bind Verb.ofText? with
    | some .batch =>
      match _h : Entries.get? members "actions" with
      | some (.array items) =>
        batch? (items.attach.filterMap fun ⟨item, _⟩ => ofJson? item)
      | _ => none
    | some verb => (verb.leaf? members).map .leaf
    | none => none
  | _ => none
termination_by sizeOf v
decreasing_by
  rename_i hi
  have := List.sizeOf_lt_of_mem hi
  have := Json.sizeOf_lt_of_get? _h
  simp at this ⊢
  omega

end Action

end ServerDriven
