/-
Module: ServerDriven.Url.Domain
Purpose: The ASCII form of domains.
Main exports:
  Domain.ascii?
-/
import ServerDriven.Url.Domain.Composite
import ServerDriven.Url.Domain.Direction
import ServerDriven.Url.Domain.Joining
import ServerDriven.Url.Domain.Kept
import ServerDriven.Url.Domain.Replacement
import ServerDriven.Url.Punycode

namespace ServerDriven.Domain

/-! ### Characters -/

/-- The characters that no domain holds in its ASCII form. -/
def isForbidden (c : Char) : Bool :=
  c.toNat ≤ 0x20 || c.toNat = 0x7f ||
    ['%', '#', '/', ':', '<', '>', '?', '@', '[', '\\', ']', '^', '|'].contains c

/-- What stands for a character in a domain; nothing if no domain may hold it. -/
def image? (c : Char) : Option (List Char) :=
  match replacement? c with
  | some cs => some cs
  | none => if isDropped c then some [] else if isKept c then some [c] else none

/-- A domain with all its characters replaced and composed. -/
def plain? (cs : List Char) : Option (List Char) :=
  (cs.mapM image?).map fun images => compose images.flatten

/-- Whether nothing is left to replace and to compose. -/
def isPlain (cs : List Char) : Bool :=
  (cs.all fun c => image? c == some [c]) && compose cs == cs

/-! ### Labels -/

/-- A label as it is meant, and its ASCII form. -/
structure Label where
  text : List Char
  ascii : List Char
deriving Repr, DecidableEq, Inhabited

/-- How many characters a label may have that is not all ASCII. -/
def longestLabel : Nat := 1000

/-- How many characters may follow the marker of an encoded label. -/
def longestEncoding : Nat := 2000

/-- Whether a label begins with a character that can stand by itself, has its joiners in their
places, and is not too long. -/
def isLabel (text : List Char) : Bool :=
  !text.head?.any Text.isMark && joinersFit text &&
    (text.all Punycode.isAscii || text.length ≤ longestLabel)

/-- What follows the marker of an encoded label. -/
def encoded? : List Char → Option (List Char)
  | 'x' :: 'n' :: '-' :: '-' :: rest => some rest
  | _ => none

/-- What an encoded label stands for.  It needs no replacement, and is not all ASCII, since some
number follows the last hyphen. -/
def decoded? (encoding : List Char) : Option (List Char) :=
  let hasNumbers := encoding.getLast?.any (· != '-')
  if hasNumbers && encoding.length ≤ longestEncoding then (Punycode.decode? encoding).filter isPlain
  else none

/-- The label that a text stands for. -/
def label? (cs : List Char) : Option Label :=
  match encoded? cs with
  | some encoding => ((decoded? encoding).filter isLabel).map fun text => ⟨text, cs⟩
  | none => if isLabel cs then some ⟨cs, Punycode.label cs⟩ else none

/-! ### Domains -/

/-- The ASCII form of a domain, if it has one. -/
def ascii? (cs : List Char) : Option (List Char) := do
  let labels ← ((← plain? cs).splitOn '.').mapM label?
  let ascii := List.intercalate ['.'] (labels.map Label.ascii)
  if directionsFit (labels.map Label.text) ∧ !ascii.any isForbidden then some ascii else none

end ServerDriven.Domain
