/-
Module: ServerDriven.Context.Basic
Purpose: The values that a workflow carries from step to step, and their JSON form.
Main exports:
  ContextValue, Context, ContextValue.ofJson, ContextValue.toJson, Context.visible,
  Context.isReserved_eq, Context.visible_eq
-/
import ServerDriven.Json.Basic

namespace ServerDriven

/-- A value of a workflow's context.  Integers are those of 64 bits; a number that fits no integer
is a binary number, which in memory may also be infinite or not a number. -/
inductive ContextValue where
  | null
  | bool (b : Bool)
  | integer (n : Int) (least : -9_223_372_036_854_775_808 ≤ n)
      (greatest : n < 9_223_372_036_854_775_808)
  | float (x : Binary64)
  | string (s : String)
  | list (items : List ContextValue)
  | map (entries : List (String × ContextValue))
deriving Repr, Inhabited, BEq

/-- A context: values under text keys, in the order of the wire. -/
abbrev Context := List (String × ContextValue)

namespace ContextValue

/-- A number is an integer if it fits one, and the nearest binary number otherwise. -/
def ofNumber : Number → ContextValue
  | .integer n least _ =>
    if h : n < 9_223_372_036_854_775_808 then .integer n least h else .float (Binary64.ofInt n)
  | .float x => .float (.finite x)

/-- An integer, if it is in range. -/
def ofInt? (n : Int) : Option ContextValue :=
  if h : -9_223_372_036_854_775_808 ≤ n ∧ n < 9_223_372_036_854_775_808 then
    some (.integer n h.1 h.2)
  else none

mutual

def ofJson : Json → ContextValue
  | .null => .null
  | .bool b => .bool b
  | .number n => ofNumber n
  | .string s => .string s
  | .array items => .list (ofItems items)
  | .object members => .map (ofMembers members)

def ofItems : List Json → List ContextValue
  | [] => []
  | item :: rest => ofJson item :: ofItems rest

/-- A context from the members of an object. -/
def ofMembers : List (String × Json) → Context
  | [] => []
  | (key, value) :: rest => (key, ofJson value) :: ofMembers rest

end

/-- A binary number as JSON: what is not finite is sent as its text. -/
def floatJson : Binary64 → Json
  | .finite x => .number (.float x)
  | x => .string x.text

mutual

def toJson : ContextValue → Json
  | .null => .null
  | .bool b => .bool b
  | .integer n least greatest => .number (.integer n least (by omega))
  | .float x => floatJson x
  | .string s => .string s
  | .list items => .array (toItems items)
  | .map entries => .object (toMembers entries)

def toItems : List ContextValue → List Json
  | [] => []
  | item :: rest => toJson item :: toItems rest

/-- The members of the object that stands for a context. -/
def toMembers : Context → List (String × Json)
  | [] => []
  | (key, value) :: rest => (key, toJson value) :: toMembers rest

end

def asString? : ContextValue → Option String
  | .string s => some s
  | _ => none

def asBool? : ContextValue → Option Bool
  | .bool b => some b
  | _ => none

def asInt? : ContextValue → Option Int
  | .integer n _ _ => some n
  | _ => none

/-- A number as a binary number; an integer is rounded to the nearest. -/
def asFloat? : ContextValue → Option Binary64
  | .integer n _ _ => some (Binary64.ofInt n)
  | .float x => some x
  | _ => none

def asList? : ContextValue → Option (List ContextValue)
  | .list items => some items
  | _ => none

def asMap? : ContextValue → Option Context
  | .map entries => some entries
  | _ => none

def isNull : ContextValue → Bool
  | .null => true
  | _ => false

mutual

/-- Whether what is not a number occurs in a value.  Such a value differs from itself. -/
def hasNaN : ContextValue → Bool
  | .float x => x = .nan
  | .list items => hasNaNItem items
  | .map entries => hasNaNEntry entries
  | _ => false

def hasNaNItem : List ContextValue → Bool
  | [] => false
  | item :: rest => hasNaN item || hasNaNItem rest

def hasNaNEntry : Context → Bool
  | [] => false
  | (_, value) :: rest => hasNaN value || hasNaNEntry rest

end

end ContextValue

namespace Context

/-- Keys that begin with two underscores belong to the server. -/
def isReserved (key : String) : Bool :=
  match key.toList with
  | '_' :: '_' :: _ => true
  | _ => false

theorem isReserved_eq (key : String) : isReserved key = ['_', '_'].isPrefixOf key.toList := by
  unfold isReserved
  split
  · rename_i rest text
    rw [text]
    rfl
  · rename_i other
    rw [eq_comm, Bool.eq_false_iff]
    intro starts
    obtain ⟨rest, text⟩ := List.isPrefixOf_iff_prefix.mp starts
    exact other rest text.symm

/-- The entries that the user may see, in their order. -/
def visible (context : Context) : Context :=
  context.filter fun entry => !isReserved entry.1

theorem visible_eq (context : Context) :
    context.visible = context.filter fun entry => !(['_', '_'].isPrefixOf entry.1.toList) := by
  simp only [visible, isReserved_eq]

/-- The text under a key, if there is a text. -/
def text? (context : Context) (key : String) : Option String :=
  (Entries.get? context key).bind ContextValue.asString?

end Context

end ServerDriven
