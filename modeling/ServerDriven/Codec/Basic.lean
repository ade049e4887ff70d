/-
Module: ServerDriven.Codec.Basic
Purpose: Types with a JSON form, read from a value or from a text, and the simple ones among them.
Main exports:
  Codec, Codec.readText, Codec.string, Codec.bool, Codec.int32, Codec.any, Codec.object,
  Codec.list, Codec.dictionary, Codec.names
-/
import ServerDriven.Codec.Error
import ServerDriven.Codec.Dictionary
import ServerDriven.Json.Printer
import ServerDriven.Json.Written

namespace ServerDriven

/-!
A codec reads a type from a JSON value and, separately, from what is written in a JSON text.  The
two agree except where the text says more than its value: repeated members are an error only in a
text, and parts that denote no value only matter where they are read.
-/

/-- How values of a type are read and written. -/
structure Codec (α : Type) where
  /-- Read a value. -/
  fromJson : Json → Except DecodeError α
  /-- Read what is written in a text, with at most that many nested arrays and objects. -/
  fromWritten : Nat → Written → Except DecodeError α
  toJson : α → Json

/-- Why a text cannot be decoded. -/
inductive TextError where
  /-- The text denotes no JSON value. -/
  | notJson
  /-- The text denotes a value of another form. -/
  | decode (cause : DecodeError)
deriving Repr, DecidableEq

def TextError.message : TextError → String
  | .notJson => "not a JSON value"
  | .decode cause => cause.message

namespace Codec

variable {α β : Type}

/-- Read a text.  A text that fails is blamed for its form only if it denotes a value at all. -/
def readText (c : Codec α) (text : String) : Except TextError α :=
  match Written.ofText? text with
  | none => .error .notJson
  | some written =>
    match c.fromWritten Written.depthLimit written with
    | .ok x => .ok x
    | .error cause => .error (if written.isAcceptable then .decode cause else .notJson)

/-- The compact text of a value. -/
def text (c : Codec α) (x : α) : String := (c.toJson x).compact

/-- The value that a text denotes, read further as a value. -/
def viaValue (read : Json → Except DecodeError α) (depth : Nat) (w : Written) :
    Except DecodeError α :=
  match w.value? depth with
  | some v => read v
  | none => .error .unreadable

/-- A codec that looks at the value of a text only. -/
def ofValue (read : Json → Except DecodeError α) (write : α → Json) : Codec α :=
  ⟨read, viaValue read, write⟩

/-- The codec of a type with the JSON form of another type. -/
def imap (c : Codec α) (there : α → β) (back : β → α) : Codec β where
  fromJson v := (c.fromJson v).map there
  fromWritten depth w := (c.fromWritten depth w).map there
  toJson x := c.toJson (back x)

def string : Codec String :=
  ofValue
    (fun
      | .string s => .ok s
      | v => .error (.invalidType (.ofJson v) "a string"))
    .string

def bool : Codec Bool :=
  ofValue
    (fun
      | .bool b => .ok b
      | v => .error (.invalidType (.ofJson v) "a boolean"))
    .bool

/-- Any JSON value. -/
def any : Codec Json := ofValue .ok id

/-- Any JSON object. -/
def object : Codec (List (String × Json)) :=
  ofValue
    (fun
      | .object members => .ok members
      | v => .error (.invalidType (.ofJson v) "a map"))
    .object

/-- A signed integer of 32 bits. -/
def int32 : Codec Int32 :=
  ofValue
    (fun
      | .number (.integer n l g) =>
        if -2_147_483_648 ≤ n ∧ n < 2_147_483_648 then .ok (Int32.ofInt n)
        else .error (.invalidValue (.number (.integer n l g)) "i32")
      | v => .error (.invalidType (.ofJson v) "i32"))
    (fun n => .number (.ofInt n.toInt))

/-- The items of an array, in order; the first that fails decides. -/
def list (c : Codec α) : Codec (List α) where
  fromJson
    | .array items => items.mapM c.fromJson
    | v => .error (.invalidType (.ofJson v) "a sequence")
  fromWritten depth
    | .array items =>
      match depth with
      | 0 => .error .unreadable
      | depth + 1 => items.mapM (c.fromWritten depth)
    | w => viaValue (fun v => .error (.invalidType (.ofJson v) "a sequence")) depth w
  toJson xs := .array (xs.map c.toJson)

/-- One entry of a dictionary. -/
def member (c : Codec α) (member : String × Json) : Except DecodeError (String × α) :=
  (c.fromJson member.2).map fun x => (member.1, x)

/-- One entry of a dictionary in a text. -/
def writtenMember (c : Codec α) (depth : Nat) :
    Option String × Written → Except DecodeError (String × α)
  | (none, _) => .error .unreadable
  | (some key, w) => (c.fromWritten depth w).map fun x => (key, x)

/-- Values under keys whose order does not matter.  The last value of a repeated key counts. -/
def dictionary (c : Codec α) : Codec (Dictionary α) where
  fromJson
    | .object members => (members.mapM c.member).map Dictionary.ofList
    | v => .error (.invalidType (.ofJson v) "a map")
  fromWritten depth
    | .object members =>
      match depth with
      | 0 => .error .unreadable
      | depth + 1 => (members.mapM (c.writtenMember depth)).map Dictionary.ofList
    | w => viaValue (fun v => .error (.invalidType (.ofJson v) "a map")) depth w
  toJson d := .object (d.entries.map fun entry => (entry.1, c.toJson entry.2))

/-- Absence is written as null. -/
def option (c : Codec α) : Codec (Option α) where
  fromJson
    | .null => .ok none
    | v => (c.fromJson v).map some
  fromWritten depth
    | .null => .ok none
    | w => (c.fromWritten depth w).map some
  toJson
    | none => .null
    | some x => c.toJson x

/-- The name in a table of names. -/
def named (table : List (String × α)) (name : String) : Except DecodeError α :=
  match table.lookup name with
  | some x => .ok x
  | none => .error (.unknownVariant name (table.map Prod.fst))

/-- After a name, null is the only content. -/
def unit : Json → Except DecodeError Unit
  | .null => .ok ()
  | v => .error (.invalidType (.ofJson v) "unit")

/-- One of several names, written as a string or as the only member of an object, with null in
it. -/
def names [DecidableEq α] (table : List (String × α)) : Codec α where
  fromJson
    | .string name => named table name
    | .object [(name, content)] => do
      let x ← named table name
      unit content
      return x
    | .object _ => .error (.invalidValue .map "map with a single key")
    | v => .error (.invalidType (.ofJson v) "string or map")
  fromWritten depth
    | .string (some name) => named table name
    | .string none => .error .unreadable
    | .object members =>
      match depth, members with
      | 0, _ => .error .unreadable
      | depth + 1, (some name, content) :: rest => do
        let x ← named table name
        viaValue unit depth content
        if rest.isEmpty then return x else .error .noValue
      | _, (none, _) :: _ => .error .unreadable
      | _, [] => .error .noValue
    | _ => .error .noValue
  toJson x :=
    match table.find? fun entry => entry.2 = x with
    | some entry => .string entry.1
    | none => .null

end Codec

end ServerDriven
