/-
Module: ServerDriven.Screen.Outline
Purpose: Screens as indented lines of text.
Main exports:
  Node.line, Node.outline, ScreenSchema.outline
-/
import ServerDriven.Schema.Basic

namespace ServerDriven

namespace Node

/-- The line of a node: its kind, its id, a label and what its action does. -/
def line (node : Node) : String :=
  let label := match node.contentText?.or node.dataText? with
    | some text => " \"" ++ text ++ "\""
    | none => ""
  let action := match node.parsedAction? with
    | some action => " -> " ++ action.kind
    | none => ""
  node.kind ++ " [" ++ node.id.getD "-" ++ "]" ++ label ++ action

/-- A line so many levels deep. -/
def indent (depth : Nat) (line : String) : String :=
  String.join (List.replicate depth "  ") ++ line

mutual

/-- The lines of a node and, one level deeper, of the nodes inside it. -/
def outline (depth : Nat) : Node → List String
  | node@⟨_, _, _, _, _, children, _, _, _, _, _, _⟩ =>
    indent depth node.line :: outlineAll (depth + 1) children

def outlineAll (depth : Nat) : List Node → List String
  | [] => []
  | node :: rest => outline depth node ++ outlineAll depth rest

end

end Node

/-- The lines of a screen. -/
def ScreenSchema.outline (schema : ScreenSchema) : List String :=
  (schema.document.name ++ " (" ++ schema.screen.id ++ ")") ::
    Node.outlineAll 1 schema.screen.sections.present

end ServerDriven
