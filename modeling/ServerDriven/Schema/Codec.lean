/-
Module: ServerDriven.Schema.Codec
Purpose: The JSON form of screens.  A node that cannot be decoded is replaced by a fallback node
  and does no harm to the nodes around it.
Main exports:
  Node.codec, Node.decode, Sections.codec, ScreenDefinition.codec, ScreenSchema.codec
-/
import ServerDriven.Codec.Record
import ServerDriven.Schema.Basic

namespace ServerDriven

def Position.record (whole : Json) : Record whole Position Position :=
  Record.build Position.mk
    |>.optional "x" Codec.int32 (·.x)
    |>.optional "y" Codec.int32 (·.y)

def Position.codec : Codec Position := Record.codec "Position" Position.record

namespace Node

/-- The nodes in a `children` value.  A missing list is an empty one; whatever is in a list is
read by `decode`. -/
def childrenOf (v : Json) (decode : (w : Json) → sizeOf w < sizeOf v → Node) :
    Except DecodeError (List Node) :=
  match v, decode with
  | .null, _ => .ok []
  | .array items, decode =>
    .ok (items.attach.map fun ⟨w, hw⟩ => decode w (by
      have := List.sizeOf_lt_of_mem hw
      simp
      omega))
  | v, _ => .error (.invalidType (.ofJson v) "a sequence")

/-- The fields of a node.  Its children are nodes again, so how they are read and written is left
open. -/
def record (whole : Json) (children : Field whole Node (List Node)) : Record whole Node Node :=
  Record.build Node.mk
    |>.optional "id" Codec.string (·.id)
    |>.required "type" Codec.string (·.kind)
    |>.optional "name" Codec.string (·.name)
    |>.withDefault "properties" Codec.object [] (·.properties)
    |>.withDefault "style" Codec.object [] (·.style)
    |>.field children
    |>.optional "position" Position.codec (·.position)
    |>.optional "data" Codec.any (·.data)
    |>.optional "dataSource" Codec.string (·.dataSource)
    |>.optional "content" Codec.any (·.content)
    |>.optional "items" (Codec.list Codec.any) (·.items)
    |>.optional "action" Codec.object (·.action)

/-- The field of the children. -/
def childrenField {whole : Json}
    (fromJson : (v : Json) → sizeOf v < sizeOf whole → Except DecodeError (List Node))
    (fromWritten : Nat → Written → Except DecodeError (List Node))
    (toItems : List Node → List Json) : Field whole Node (List Node) where
  name := "children"
  fallback := some []
  fromJson
  fromWritten
  project := (·.children)
  toJson? nodes := some (.array (toItems nodes))

/-- The node that a value describes, or the fallback node for it. -/
def orFallback (raw : Json) : Except DecodeError Node → Node
  | .ok node => node
  | .error e => fallback raw e.message

/-- Read a node from a value. -/
def fromJson (v : Json) : Except DecodeError Node :=
  Record.fromJson "SchemaNode"
    (record v (childrenField
      (fun w _h => childrenOf w fun u _hu => orFallback u (fromJson u))
      (fun _ _ => .error .unreadable) (fun _ => [])))
    v (Nat.le_refl _)
termination_by sizeOf v
decreasing_by exact Nat.lt_trans _hu _h

/-- Read a node from a value; what is no node becomes a fallback node. -/
def decode (raw : Json) : Node := orFallback raw (fromJson raw)

/-- Read a node from a text.  The values of its children are taken as they are. -/
def fromWritten (depth : Nat) (w : Written) : Except DecodeError Node :=
  Record.fromWritten "SchemaNode"
    (record .null (childrenField
      (fun _ _ => .error .unreadable)
      (Codec.viaValue fun v => childrenOf v fun u _ => decode u) (fun _ => [])))
    depth w

mutual

def toJson : Node → Json
  | node@⟨_, _, _, _, _, children, _, _, _, _, _, _⟩ =>
    let nested := toItems children
    .object (Record.toMembers node
      (record .null (childrenField
        (fun _ _ => .error .unreadable) (fun _ _ => .error .unreadable) (fun _ => nested))))

def toItems : List Node → List Json
  | [] => []
  | node :: rest => toJson node :: toItems rest

end

def codec : Codec Node := ⟨fromJson, fromWritten, toJson⟩

/-- A section: null is no section, anything else is a node. -/
def sectionOf : Json → Except DecodeError (Option Node)
  | .null => .ok none
  | v => .ok (some (decode v))

def sectionCodec : Codec (Option Node) :=
  Codec.ofValue sectionOf (fun section? => (section?.map toJson).getD .null)

end Node

namespace Sections

/-- A section that may be missing and is never malformed. -/
def sectionField {whole : Json} (name : String) (project : Sections → Option Node) :
    Field whole Sections (Option Node) where
  name
  fallback := some none
  fromJson v _ := Node.sectionCodec.fromJson v
  fromWritten := Node.sectionCodec.fromWritten
  project
  toJson? := Option.map Node.toJson

def record (whole : Json) : Record whole Sections Sections :=
  Record.build Sections.mk
    |>.field (sectionField "topBar" (·.topBar))
    |>.field (sectionField "body" (·.body))
    |>.field (sectionField "bottomBar" (·.bottomBar))

def codec : Codec Sections := Record.codec "ScreenSections" record

end Sections

def ScreenDefinition.record (whole : Json) : Record whole ScreenDefinition ScreenDefinition :=
  Record.build ScreenDefinition.mk
    |>.required "id" Codec.string (·.id)
    |>.required "type" Codec.string (·.kind)
    |>.optional "name" Codec.string (·.name)
    |>.withDefault "style" Codec.object [] (·.style)
    |>.withDefault "sections" Sections.codec {} (·.sections)
    |>.withDefault "references" Codec.object [] (·.references)

def ScreenDefinition.codec : Codec ScreenDefinition :=
  Record.codec "ScreenDefinition" ScreenDefinition.record

def DocumentMeta.record (whole : Json) : Record whole DocumentMeta DocumentMeta :=
  Record.build DocumentMeta.mk
    |>.required "documentId" Codec.string (·.documentId)
    |>.required "name" Codec.string (·.name)
    |>.required "exportedAt" Codec.string (·.exportedAt)

def DocumentMeta.codec : Codec DocumentMeta := Record.codec "DocumentMeta" DocumentMeta.record

def ScreenSchema.record (whole : Json) : Record whole ScreenSchema ScreenSchema :=
  Record.build ScreenSchema.mk
    |>.required "document" DocumentMeta.codec (·.document)
    |>.required "screen" ScreenDefinition.codec (·.screen)

def ScreenSchema.codec : Codec ScreenSchema := Record.codec "ScreenSchema" ScreenSchema.record

end ServerDriven
