/-
Module: ServerDriven.Codec.Error
Purpose: Why a JSON value does not have the form that a type asks for.
Main exports:
  Found, DecodeError, DecodeError.message
-/
import ServerDriven.Json.Basic
import ServerDriven.Text.Quoted

namespace ServerDriven

/-- What stands where something else was expected. -/
inductive Found where
  | null
  | bool (b : Bool)
  | number (n : Number)
  | string (s : String)
  | sequence
  | map
deriving Repr, DecidableEq, Inhabited

namespace Found

def ofJson : Json → Found
  | .null => .null
  | .bool b => .bool b
  | .number n => .number n
  | .string s => .string s
  | .array _ => .sequence
  | .object _ => .map

def message : Found → String
  | .null => "null"
  | .bool b => "boolean `" ++ toString b ++ "`"
  | .number (.integer n _ _) => "integer `" ++ toString n ++ "`"
  | .number (.float x) => "floating point `" ++ x.text ++ "`"
  | .string s => "string " ++ Text.quoted s
  | .sequence => "sequence"
  | .map => "map"

end Found

/-- Why a value cannot be decoded. -/
inductive DecodeError where
  | invalidType (found : Found) (expected : String)
  | invalidValue (found : Found) (expected : String)
  | invalidLength (length : Nat) (expected : String)
  | missingField (name : String)
  | duplicateField (name : String)
  | unknownVariant (name : String) (known : List String)
  /-- A value is over and the text goes on. -/
  | trailing
  /-- The text has no value where one is needed. -/
  | noValue
  /-- The text is well formed, and a part of it denotes no value. -/
  | unreadable
deriving Repr, DecidableEq, Inhabited

namespace DecodeError

/-- A choice among names, as it is worded in messages. -/
def choice : List String → String
  | [] => "there are no variants"
  | [a] => "`" ++ a ++ "`"
  | [a, b] => "`" ++ a ++ "` or `" ++ b ++ "`"
  | names => "one of " ++ ", ".intercalate (names.map fun name => "`" ++ name ++ "`")

def message : DecodeError → String
  | .invalidType found expected => "invalid type: " ++ found.message ++ ", expected " ++ expected
  | .invalidValue found expected => "invalid value: " ++ found.message ++ ", expected " ++ expected
  | .invalidLength length expected =>
    "invalid length " ++ toString length ++ ", expected " ++ expected
  | .missingField name => "missing field `" ++ name ++ "`"
  | .duplicateField name => "duplicate field `" ++ name ++ "`"
  | .unknownVariant name known => "unknown variant `" ++ name ++ "`, expected " ++ choice known
  | .trailing => "trailing characters"
  | .noValue => "expected value"
  | .unreadable => "unreadable text"

end DecodeError

end ServerDriven
