/-
Module: ServerDriven.Schema.Basic
Purpose: Screens described by the server: a document, a screen, and trees of nodes.
Main exports:
  Node, Sections, ScreenDefinition, DocumentMeta, ScreenSchema,
  Node.walk, Node.find?, ScreenSchema.findNode?
-/
import ServerDriven.Action.Parser

namespace ServerDriven

/-- A place on the screen. -/
structure Position where
  x : Option Int32
  y : Option Int32
deriving Repr, DecidableEq, Inhabited

/-- A node of a screen, with the nodes inside it in rendering order. -/
structure Node where
  id : Option String := none
  kind : String := ""
  name : Option String := none
  properties : List (String × Json) := []
  style : List (String × Json) := []
  children : List Node := []
  position : Option Position := none
  data : Option Json := none
  dataSource : Option String := none
  content : Option Json := none
  items : Option (List Json) := none
  action : Option (List (String × Json)) := none
deriving Repr, Inhabited, BEq

namespace Node

/-- The kind of a node that stands for one that could not be decoded. -/
def fallbackKind : String := "fallback"

/-- A node of a kind, with nothing else. -/
def ofKind (kind : String) : Node := { kind }

/-- The node that stands for a value that is no node: it keeps the value and the reason. -/
def fallback (raw : Json) (reason : String) : Node :=
  { kind := fallbackKind, properties := [("raw", raw), ("error", .string reason)] }

def isFallback (node : Node) : Bool := node.kind == fallbackKind

/-- The action of a node, if its action object asks for one. -/
def parsedAction? (node : Node) : Option Action :=
  node.action.bind fun members => Action.ofJson? (.object members)

def contentText? (node : Node) : Option String := node.content.bind Json.scalarText?

def dataText? (node : Node) : Option String := node.data.bind Json.scalarText?

def property? (node : Node) (key : String) : Option Json := Entries.get? node.properties key

mutual

/-- The nodes of a tree in rendering order: a node before the nodes inside it. -/
def walk : Node → List Node
  | node@⟨_, _, _, _, _, children, _, _, _, _, _, _⟩ => node :: walkAll children

/-- The nodes of several trees, one tree after the other. -/
def walkAll : List Node → List Node
  | [] => []
  | node :: rest => walk node ++ walkAll rest

end

mutual

/-- The first node with a given id, looking at a node before the nodes inside it. -/
def find? (wanted : String) : Node → Option Node
  | node@⟨id, _, _, _, _, children, _, _, _, _, _, _⟩ =>
    if id = some wanted then some node else findIn? wanted children

/-- The first node with a given id in several trees. -/
def findIn? (wanted : String) : List Node → Option Node
  | [] => none
  | node :: rest =>
    match find? wanted node with
    | some found => some found
    | none => findIn? wanted rest

end

end Node

/-- The parts of a screen, each of which may be missing. -/
structure Sections where
  topBar : Option Node := none
  body : Option Node := none
  bottomBar : Option Node := none
deriving Repr, Inhabited, BEq

/-- The parts that are there, from top to bottom. -/
def Sections.present (sections : Sections) : List Node :=
  sections.topBar.toList ++ sections.body.toList ++ sections.bottomBar.toList

structure ScreenDefinition where
  id : String
  kind : String
  name : Option String
  style : List (String × Json)
  sections : Sections
  references : List (String × Json)
deriving Repr, Inhabited, BEq

structure DocumentMeta where
  documentId : String
  name : String
  exportedAt : String
deriving Repr, DecidableEq, Inhabited

/-- A screen and the document that it was exported from. -/
structure ScreenSchema where
  document : DocumentMeta
  screen : ScreenDefinition
deriving Repr, Inhabited, BEq

/-- The first node with a given id, from the top bar to the bottom bar. -/
def ScreenSchema.findNode? (schema : ScreenSchema) (wanted : String) : Option Node :=
  schema.screen.sections.present.findSome? (Node.find? wanted)

end ServerDriven
