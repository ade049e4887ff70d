/-
Module: ServerDriven.Json.Basic
Purpose: JSON values whose objects keep the order of their members.
Main exports:
  Number, Json, Json.asObject?, Json.asString?, Json.scalarText?
-/
import ServerDriven.Number.Shortest
import ServerDriven.Entries

namespace ServerDriven

/-- A JSON number: an integer in the range of the signed or the unsigned 64-bit integers, or a
finite binary number. -/
inductive Number where
  | integer (n : Int) (least : -9_223_372_036_854_775_808 ≤ n)
      (greatest : n < 18_446_744_073_709_551_616)
  | float (x : Finite64)
deriving Repr, DecidableEq

namespace Number

/-- An integer as a number; one outside the range becomes the nearest binary number. -/
def ofInt (n : Int) : Number :=
  if h : -9_223_372_036_854_775_808 ≤ n ∧ n < 18_446_744_073_709_551_616 then .integer n h.1 h.2
  else match Binary64.ofInt n with
    | .finite x => .float x
    | _ => .float (.zero (n < 0))

/-- The shortest text that reads back as the number. -/
def text : Number → String
  | .integer n _ _ => toString n
  | .float x => x.text

end Number

/-- A JSON value.  The members of an object are kept in the order of the text. -/
inductive Json where
  | null
  | bool (b : Bool)
  | number (n : Number)
  | string (s : String)
  | array (items : List Json)
  | object (members : List (String × Json))
deriving Repr, Inhabited

namespace Json

mutual

/-- Decidable equality of values; the order of members counts. -/
def decEq : (v w : Json) → Decidable (v = w)
  | .null, .null => isTrue rfl
  | .bool a, .bool b =>
    if h : a = b then isTrue (by rw [h]) else isFalse (by simpa using h)
  | .number a, .number b =>
    if h : a = b then isTrue (by rw [h]) else isFalse (by simpa using h)
  | .string a, .string b =>
    if h : a = b then isTrue (by rw [h]) else isFalse (by simpa using h)
  | .array xs, .array ys =>
    match decEqItems xs ys with
    | isTrue h => isTrue (by rw [h])
    | isFalse h => isFalse (by simpa using h)
  | .object xs, .object ys =>
    match decEqMembers xs ys with
    | isTrue h => isTrue (by rw [h])
    | isFalse h => isFalse (by simpa using h)
  | .null, .bool _ | .null, .number _ | .null, .string _ | .null, .array _ | .null, .object _
  | .bool _, .null | .bool _, .number _ | .bool _, .string _ | .bool _, .array _
  | .bool _, .object _
  | .number _, .null | .number _, .bool _ | .number _, .string _ | .number _, .array _
  | .number _, .object _
  | .string _, .null | .string _, .bool _ | .string _, .number _ | .string _, .array _
  | .string _, .object _
  | .array _, .null | .array _, .bool _ | .array _, .number _ | .array _, .string _
  | .array _, .object _
  | .object _, .null | .object _, .bool _ | .object _, .number _ | .object _, .string _
  | .object _, .array _ => isFalse (by intro h; cases h)

/-- Decidable equality of the items of arrays. -/
def decEqItems : (xs ys : List Json) → Decidable (xs = ys)
  | [], [] => isTrue rfl
  | x :: xs, y :: ys =>
    match decEq x y, decEqItems xs ys with
    | isTrue h, isTrue hs => isTrue (by rw [h, hs])
    | isFalse h, _ => isFalse (by intro e; exact h (List.cons.inj e).1)
    | _, isFalse hs => isFalse (by intro e; exact hs (List.cons.inj e).2)
  | [], _ :: _ | _ :: _, [] => isFalse (by intro h; cases h)

/-- Decidable equality of the members of objects. -/
def decEqMembers : (xs ys : List (String × Json)) → Decidable (xs = ys)
  | [], [] => isTrue rfl
  | (k, x) :: xs, (l, y) :: ys =>
    if hk : k = l then
      match decEq x y, decEqMembers xs ys with
      | isTrue h, isTrue hs => isTrue (by rw [hk, h, hs])
      | isFalse h, _ => isFalse (by intro e; exact h (Prod.mk.inj (List.cons.inj e).1).2)
      | _, isFalse hs => isFalse (by intro e; exact hs (List.cons.inj e).2)
    else isFalse (by intro e; exact hk (Prod.mk.inj (List.cons.inj e).1).1)
  | [], _ :: _ | _ :: _, [] => isFalse (by intro h; cases h)

end

instance : DecidableEq Json := decEq

def asObject? : Json → Option (List (String × Json))
  | .object members => some members
  | _ => none

def asArray? : Json → Option (List Json)
  | .array items => some items
  | _ => none

def asString? : Json → Option String
  | .string s => some s
  | _ => none

/-- A natural number written as an integer. -/
def asNat? : Json → Option Nat
  | .number (.integer (.ofNat n) _ _) => some n
  | _ => none

/-- The value of a member; values that are no objects have none. -/
def member? (key : String) : Json → Option Json
  | .object members => Entries.get? members key
  | _ => none

/-- A member is smaller than its object. -/
theorem sizeOf_lt_of_get? {members : List (String × Json)} {key : String} {v : Json}
    (h : Entries.get? members key = some v) : sizeOf v < sizeOf (Json.object members) := by
  induction members with
  | nil => simp at h
  | cons entry rest ih =>
    obtain ⟨k, w⟩ := entry
    rw [Entries.get?_cons] at h
    split at h
    · obtain rfl : w = v := Option.some.inj h
      simp
      omega
    · have := ih h
      simp at this ⊢
      omega

/-- The text of a string, number or truth value. -/
def scalarText? : Json → Option String
  | .string s => some s
  | .number n => some n.text
  | .bool b => some (toString b)
  | _ => none

end Json

end ServerDriven
