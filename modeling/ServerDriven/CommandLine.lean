/-
Module: ServerDriven.CommandLine
Purpose: The command line of the client.
Main exports:
  Failure, Failure.text, Report, WorkflowState.summary, Machine, CommandLine.run
-/
import ServerDriven.Config
import ServerDriven.Http.Screens
import ServerDriven.Http.Workflow
import ServerDriven.Screen.Library
import ServerDriven.Screen.Outline
import ServerDriven.Storage.File
import ServerDriven.Workflow.Session

namespace ServerDriven

/-- Why a command fails: what went wrong, and the causes, each after what it caused. -/
structure Failure where
  message : String
  causes : List String := []
deriving Repr, DecidableEq, Inhabited

namespace Failure

def ofConfig (e : ConfigError) : Failure := ⟨e.message, e.cause.causes⟩

/-- A text in which the lines after the first are indented. -/
def indentRest (indentation text : String) : String := text.replace "\n" ("\n" ++ indentation)

/-- The causes; several are numbered. -/
def causeLines : List String → List String
  | [] => []
  | [cause] => ["    " ++ indentRest "    " cause]
  | causes => causes.zipIdx.map fun (cause, n) =>
      "    " ++ toString n ++ ": " ++ indentRest "       " cause

/-- What is printed of a failure. -/
def text (f : Failure) : String :=
  "Error: " ++ f.message ++ "\n" ++ match f.causes with
    | [] => ""
    | causes => "\nCaused by:\n" ++ String.join ((causeLines causes).map (· ++ "\n"))

end Failure

namespace WorkflowState

/-- The name of the state in which a workflow has done its work. -/
def completionState : String := "complete"

/-- Whose turn it is. -/
def classification (s : WorkflowState) : String :=
  if s.isError then "error"
  else if s.isCompleted completionState then "completed"
  else if s.stateType.isInteractive then "waiting for user input"
  else if s.stateType.isTransient then "processing on server"
  else "system state"

/-- The lines that tell where a session stands. -/
def summary (s : WorkflowState) : List String :=
  ["session:  " ++ s.sessionId] ++
    (if s.workflowId.isEmpty then [] else ["workflow: " ++ s.workflowId]) ++
    ["state:    " ++ s.currentState ++ " (" ++ s.stateType.text ++ ")",
      "status:   " ++ s.classification] ++
    (match s.screen with
      | some screen => ["screen:   " ++ screen.title.getD "(untitled)"]
      | none => []) ++
    ["context:  " ++ (Json.object (ContextValue.toMembers s.context.visible)).pretty]

end WorkflowState

/-- What the command line needs of the machine that it runs on. -/
structure Machine (m : Type → Type) where
  setting : String → Option String
  /-- The place of the file with the session; no path stands for the customary one. -/
  medium : Option String → m Medium
  /-- What sends requests, as patient as the settings say. -/
  transport : Config → Transport m
  pause : Duration → m Unit
  /-- Ids that were never used. -/
  fresh : Nat → String

/-- What a command leaves: the lines that it prints or the reason of its failure, and the file with
the session if it used one. -/
structure Report where
  result : Except Failure (List String)
  file : Option Medium := none

namespace Report

def stdout (r : Report) : String :=
  match r.result with
  | .ok lines => String.join (lines.map (· ++ "\n"))
  | .error _ => ""

def stderr (r : Report) : String :=
  match r.result with
  | .ok _ => ""
  | .error f => f.text

def exitCode (r : Report) : Nat :=
  match r.result with
  | .ok _ => 0
  | .error _ => 1

end Report

namespace CommandLine

/-- The screen that is shown without a server. -/
def welcome : ScreenSchema :=
  let text := fun (id content : String) =>
    { Node.ofKind "text" with id := some id, content := some (.string content) }
  let button := fun (id content : String) (action : List (String × Json)) =>
    { Node.ofKind "button" with
      id := some id, content := some (.string content), action := some action }
  let body := { Node.ofKind "column" with
    id := some "body"
    children := [
      text "headline" "Welcome aboard",
      text "subtitle" "Your flow is driven by the server",
      button "start" "Get started" [("type", .string "navigate"), ("screenId", .string "signup")],
      button "help" "Help"
        [("type", .string "open_url"), ("url", .string "https://example.com/help")]] }
  let topBar := { Node.ofKind "app_bar" with
    id := some "top", content := some (.string "FlowPilot") }
  { document := ⟨"demo", "Welcome", "2025-01-01T00:00:00Z"⟩
    screen := {
      id := "welcome", kind := "screen", name := none, style := [], references := []
      sections := { topBar := some topBar, body := some body } } }

/-- Show a screen, or tell why it cannot be had. -/
def showScreen (id : String) (result : Except FetchError ScreenSchema) : Report :=
  { result := match result with
      | .ok schema => .ok schema.outline
      | .error e => .error { message := "Screen " ++ id ++ " failed: " ++ e.message } }

/-- The welcome screen needs no server. -/
def offline : Report :=
  showScreen welcome.screen.id ((({} : Library).add welcome).fetch welcome.screen.id)

/-- What follows the first of the words. -/
def after? (word : String) : List String → Option (List String)
  | [] => none
  | w :: rest => if w = word then some rest else after? word rest

section Run

variable {m : Type → Type} [Monad m]

/-- Fetch a screen and show it. -/
def runScreen (machine : Machine m) (config : Config) (id : String) : m Report := do
  match ScreenSite.new config.screensUrl with
  | .error e => return { result := .error ⟨"Failed to set up screen source", [e.message]⟩ }
  | .ok site =>
    let result ← config.retry.run FetchError.isRetryable machine.pause
      (site.fetch (machine.transport config) id)
    return showScreen id result

/-- Check the server, then start the workflow, or go on with the session that is kept. -/
def session (machine : Machine m) (config : Config) (workflowId : Option String) :
    StateT (WorkflowSession FileStorage) m (Except Failure (List String)) := do
  let api := (Api.overHttp (machine.transport config) config.baseUrl).retrying config.retry
    machine.pause
  let finish := fun (message : String) (result : Except WorkflowError WorkflowState) =>
    (result.map WorkflowState.summary).mapError fun e => Failure.mk message [e.message]
  match ← WorkflowSession.health api with
  | .error e => return .error ⟨"Workflow server health check failed", [e.message]⟩
  | .ok _ =>
    match workflowId with
    | some id =>
      return finish "Failed to start workflow"
        (← WorkflowSession.call api machine.fresh (.start (some id) []))
    | none =>
      match ← WorkflowSession.restore api machine.fresh none with
      | some result => return finish "Failed to restore session" result
      | none =>
        return .error { message := "No stored session; pass a workflow id to start one" }

/-- Run a session on the file in which it is kept. -/
def runSession (machine : Machine m) (config : Config) (workflowId : Option String) :
    m Report := do
  let storage := FileStorage.openAt (← machine.medium config.storagePath)
  let (result, s) ← (session machine config workflowId).run (.new storage)
  return { result, file := some s.store.medium }

/-- Run the client with the given arguments. -/
def run (machine : Machine m) (args : List String) : m Report := do
  if args.contains "--offline" then return offline
  match Config.load machine.setting with
  | .error e => return { result := .error (.ofConfig e) }
  | .ok config =>
    match after? "--screen" args with
    | some (id :: _) => runScreen machine config id
    | some [] => return { result := .error { message := "--screen needs a screen id" } }
    | none => runSession machine config (args.find? fun arg => !arg.startsWith "--")

end Run

end CommandLine

end ServerDriven
