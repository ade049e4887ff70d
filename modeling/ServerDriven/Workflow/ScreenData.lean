/-
Module: ServerDriven.Workflow.ScreenData
Purpose: What a workflow shows in a screen state: fields, buttons and components.
Main exports:
  ScreenData, FieldData, ValidationConfig, LinkData, ButtonData, ComponentData, CardItem,
  ActionData, StatusStyle
-/
import ServerDriven.Codec.Record

namespace ServerDriven

/-- Hints for checking an input. -/
structure ValidationConfig where
  minLength : Option Int32
  maxLength : Option Int32
  pattern : Option String
  errorMessage : Option String
  minAge : Option Int32
  maxAge : Option Int32
deriving Repr, DecidableEq, Inhabited

namespace ValidationConfig

def record (whole : Json) : Record whole ValidationConfig ValidationConfig :=
  Record.build ValidationConfig.mk
    |>.optional "minLength" Codec.int32 (·.minLength)
    |>.optional "maxLength" Codec.int32 (·.maxLength)
    |>.optional "pattern" Codec.string (·.pattern)
    |>.optional "errorMessage" Codec.string (·.errorMessage)
    |>.optional "minAge" Codec.int32 (·.minAge)
    |>.optional "maxAge" Codec.int32 (·.maxAge)

def codec : Codec ValidationConfig := Record.codec "ValidationConfig" record

end ValidationConfig

structure LinkData where
  text : String
  url : String
deriving Repr, DecidableEq, Inhabited

namespace LinkData

def record (whole : Json) : Record whole LinkData LinkData :=
  Record.build LinkData.mk
    |>.required "text" Codec.string (·.text)
    |>.required "url" Codec.string (·.url)

def codec : Codec LinkData := Record.codec "LinkData" record

end LinkData

/-- An input of a form. -/
structure FieldData where
  id : String
  kind : String
  label : String
  placeholder : Option String
  isRequired : Bool
  validation : Option ValidationConfig
  mask : Option String
  link : Option LinkData
deriving Repr, DecidableEq, Inhabited

namespace FieldData

def record (whole : Json) : Record whole FieldData FieldData :=
  Record.build FieldData.mk
    |>.required "id" Codec.string (·.id)
    |>.required "type" Codec.string (·.kind)
    |>.required "label" Codec.string (·.label)
    |>.optional "placeholder" Codec.string (·.placeholder)
    |>.withDefault "required" Codec.bool false (·.isRequired)
    |>.optional "validation" ValidationConfig.codec (·.validation)
    |>.optional "mask" Codec.string (·.mask)
    |>.optional "link" LinkData.codec (·.link)

def codec : Codec FieldData := Record.codec "FieldData" record

end FieldData

/-- A button and the event that it sends. -/
structure ButtonData where
  id : String
  label : String
  event : String
  style : String
  enabled : Option String
deriving Repr, DecidableEq, Inhabited

namespace ButtonData

def record (whole : Json) : Record whole ButtonData ButtonData :=
  Record.build ButtonData.mk
    |>.required "id" Codec.string (·.id)
    |>.required "label" Codec.string (·.label)
    |>.required "event" Codec.string (·.event)
    |>.withDefault "style" Codec.string "primary" (·.style)
    |>.optional "enabled" Codec.string (·.enabled)

def codec : Codec ButtonData := Record.codec "ButtonData" record

end ButtonData

/-- The event that a card sends. -/
structure ActionData where
  event : String
  params : List (String × Json)
deriving Repr, DecidableEq, Inhabited

namespace ActionData

def record (whole : Json) : Record whole ActionData ActionData :=
  Record.build ActionData.mk
    |>.required "event" Codec.string (·.event)
    |>.withDefault "params" Codec.object [] (·.params)

def codec : Codec ActionData := Record.codec "ActionData" record

end ActionData

/-- A card of a list of cards. -/
structure CardItem where
  id : String
  title : String
  price : Option String
  features : Option (List String)
  badge : Option String
  highlighted : Bool
  action : Option ActionData
deriving Repr, DecidableEq, Inhabited

namespace CardItem

def record (whole : Json) : Record whole CardItem CardItem :=
  Record.build CardItem.mk
    |>.required "id" Codec.string (·.id)
    |>.required "title" Codec.string (·.title)
    |>.optional "price" Codec.string (·.price)
    |>.optional "features" (Codec.list Codec.string) (·.features)
    |>.optional "badge" Codec.string (·.badge)
    |>.withDefault "highlighted" Codec.bool false (·.highlighted)
    |>.optional "action" ActionData.codec (·.action)

def codec : Codec CardItem := Record.codec "CardItem" record

end CardItem

/-- How a status is shown. -/
structure StatusStyle where
  label : String
  color : String
deriving Repr, DecidableEq, Inhabited

namespace StatusStyle

def record (whole : Json) : Record whole StatusStyle StatusStyle :=
  Record.build StatusStyle.mk
    |>.required "label" Codec.string (·.label)
    |>.required "color" Codec.string (·.color)

def codec : Codec StatusStyle := Record.codec "StatusStyle" record

end StatusStyle

/-- A component that only shows something.  A conditional one holds two others. -/
structure ComponentData where
  kind : String
  content : Option String
  style : Option String
  url : Option String
  items : Option (List CardItem)
  status : Option String
  statusMap : Option (Dictionary StatusStyle)
  value : Option String
  max : Option Int32
  condition : Option String
  ifTrue : Option ComponentData
  ifFalse : Option ComponentData
deriving Repr, Inhabited, BEq

namespace ComponentData

/-- The fields of a component; the two that hold components again are left open. -/
def record (whole : Json)
    (fromJson : (v : Json) → sizeOf v < sizeOf whole → Except DecodeError ComponentData)
    (fromWritten : Written → Except DecodeError ComponentData)
    (thenJson? elseJson? : Option ComponentData → Option Json) :
    Record whole ComponentData ComponentData :=
  Record.build ComponentData.mk
    |>.required "type" Codec.string (·.kind)
    |>.optional "content" Codec.string (·.content)
    |>.optional "style" Codec.string (·.style)
    |>.optional "url" Codec.string (·.url)
    |>.optional "items" (Codec.list CardItem.codec) (·.items)
    |>.optional "status" Codec.string (·.status)
    |>.optional "statusMap" (Codec.dictionary StatusStyle.codec) (·.statusMap)
    |>.optional "value" Codec.string (·.value)
    |>.optional "max" Codec.int32 (·.max)
    |>.optional "condition" Codec.string (·.condition)
    |>.nested "ifTrue" fromJson fromWritten thenJson? (·.ifTrue)
    |>.nested "ifFalse" fromJson fromWritten elseJson? (·.ifFalse)

/-- Read a component from a value. -/
def fromJson (v : Json) : Except DecodeError ComponentData :=
  Record.fromJson "ComponentData"
    (record v (fun w _h => fromJson w) (fun _ => .error .unreadable) (fun _ => none)
      (fun _ => none))
    v (Nat.le_refl _)
termination_by sizeOf v

/-- Read a component from a text; each level of nesting takes one from the allowed depth. -/
def fromWritten : Nat → Written → Except DecodeError ComponentData
  | 0, w =>
    Codec.viaValue
      (fun v => .error (.invalidType (.ofJson v) "struct ComponentData")) 0 w
  | depth + 1, w =>
    Record.fromWritten "ComponentData"
      (record .null (fun _ _ => .error .unreadable) (fromWritten depth)
        (fun _ => none) (fun _ => none))
      (depth + 1) w

mutual

def toJson : ComponentData → Json
  | component@⟨_, _, _, _, _, _, _, _, _, _, ifTrue, ifFalse⟩ =>
    let thenJson := optionToJson? ifTrue
    let elseJson := optionToJson? ifFalse
    .object (Record.toMembers component
      (record .null (fun _ _ => .error .unreadable) (fun _ => .error .unreadable)
        (fun _ => thenJson) (fun _ => elseJson)))

def optionToJson? : Option ComponentData → Option Json
  | none => none
  | some component => some (toJson component)

end

def codec : Codec ComponentData := ⟨fromJson, fromWritten, toJson⟩

end ComponentData

/-- The content of a screen state. -/
structure ScreenData where
  title : Option String
  description : Option String
  fields : Option (List FieldData)
  buttons : Option (List ButtonData)
  components : Option (List ComponentData)
deriving Repr, Inhabited, BEq

namespace ScreenData

def record (whole : Json) : Record whole ScreenData ScreenData :=
  Record.build ScreenData.mk
    |>.optional "title" Codec.string (·.title)
    |>.optional "description" Codec.string (·.description)
    |>.optional "fields" (Codec.list FieldData.codec) (·.fields)
    |>.optional "buttons" (Codec.list ButtonData.codec) (·.buttons)
    |>.optional "components" (Codec.list ComponentData.codec) (·.components)

def codec : Codec ScreenData := Record.codec "ScreenData" record

end ScreenData

end ServerDriven
