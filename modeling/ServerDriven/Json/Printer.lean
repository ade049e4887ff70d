/-
Module: ServerDriven.Json.Printer
Purpose: The compact and the indented text of a JSON value.
Main exports:
  Json.compact, Json.pretty
-/
import ServerDriven.Json.Basic
import ServerDriven.Text.Quoted

namespace ServerDriven.Json

/-- One character of a string.  Only quotes, backslashes and characters below the space are
escaped. -/
def stringChar (c : Char) : String :=
  if c = '"' then "\\\""
  else if c = '\\' then "\\\\"
  else if c = '\x08' then "\\b"
  else if c = '\t' then "\\t"
  else if c = '\n' then "\\n"
  else if c = '\x0c' then "\\f"
  else if c = '\r' then "\\r"
  else if c.toNat < 0x10 then "\\u000" ++ Text.hex c.toNat
  else if c.toNat < 0x20 then "\\u00" ++ Text.hex c.toNat
  else c.toString

def stringText (s : String) : String :=
  "\"" ++ String.join (s.toList.map stringChar) ++ "\""

mutual

/-- The text of a value without any white space. -/
def compact : Json → String
  | .null => "null"
  | .bool b => toString b
  | .number n => n.text
  | .string s => stringText s
  | .array items => "[" ++ ",".intercalate (compactItems items) ++ "]"
  | .object members => "\x7b" ++ ",".intercalate (compactMembers members) ++ "\x7d"

def compactItems : List Json → List String
  | [] => []
  | item :: rest => compact item :: compactItems rest

def compactMembers : List (String × Json) → List String
  | [] => []
  | (key, value) :: rest => (stringText key ++ ":" ++ compact value) :: compactMembers rest

end

/-- Lines between brackets, one step further in than the brackets. -/
def block (opening closing : String) (depth : Nat) (lines : List String) : String :=
  if lines.isEmpty then opening ++ closing
  else
    let indent := String.ofList (List.replicate (2 * depth) ' ')
    opening ++ "\n" ++ ",\n".intercalate (lines.map ((indent ++ "  ") ++ ·)) ++ "\n" ++ indent
      ++ closing

mutual

/-- The text of a value on lines of its own, two spaces deeper at each level; empty arrays and
objects stay on their line. -/
def prettyAt (depth : Nat) : Json → String
  | .array items => block "[" "]" depth (prettyItems (depth + 1) items)
  | .object members => block "\x7b" "\x7d" depth (prettyMembers (depth + 1) members)
  | .null => "null"
  | .bool b => toString b
  | .number n => n.text
  | .string s => stringText s

def prettyItems (depth : Nat) : List Json → List String
  | [] => []
  | item :: rest => prettyAt depth item :: prettyItems depth rest

def prettyMembers (depth : Nat) : List (String × Json) → List String
  | [] => []
  | (key, value) :: rest =>
    (stringText key ++ ": " ++ prettyAt depth value) :: prettyMembers depth rest

end

def pretty (v : Json) : String := prettyAt 0 v

end ServerDriven.Json
