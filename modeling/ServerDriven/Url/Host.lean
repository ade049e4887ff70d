/-
Module: ServerDriven.Url.Host
Purpose: The hosts that URLs name: domains and addresses.
Main exports:
  UrlError, Host, Host.ofChars, Host.ofOpaqueChars, Host.text
-/
import ServerDriven.Url.Domain
import ServerDriven.Url.Percent

namespace ServerDriven

/-- Why a text is not a URL. -/
inductive UrlError where
  | emptyHost
  | invalidPort
  | invalidAddress4
  | invalidAddress6
  | invalidDomain
  | invalidHostCharacter
  | noScheme
deriving Repr, DecidableEq, Inhabited

def UrlError.message : UrlError → String
  | .emptyHost => "empty host"
  | .invalidPort => "invalid port number"
  | .invalidAddress4 => "invalid IPv4 address"
  | .invalidAddress6 => "invalid IPv6 address"
  | .invalidDomain => "invalid international domain name"
  | .invalidHostCharacter => "invalid domain character"
  | .noScheme => "relative URL without a base"

/-- The host of a URL. -/
inductive Host where
  | domain (name : String)
  | address4 (bits : BitVec 32)
  /-- Eight pieces of sixteen bits. -/
  | address6 (pieces : List Nat)
deriving Repr, DecidableEq, Inhabited

namespace Host

/-! ### Addresses -/

/-- The value of a run of digits to a base; nothing if a character is no such digit. -/
def digitsValue? (base : Nat) (cs : List Char) : Option Nat :=
  cs.foldl (fun value? c => do
    let value ← value?
    let digit ← Percent.hexValue? c
    if digit < base then some (base * value + digit) else none) (some 0)

/-- A part of a dotted address: decimal, octal after a zero, hexadecimal after `0x`. -/
def address4Part? : List Char → Option Nat
  | [] => none
  | '0' :: 'x' :: digits => digitsValue? 16 digits
  | '0' :: 'X' :: digits => digitsValue? 16 digits
  | '0' :: c :: digits => digitsValue? 8 (c :: digits)
  | digits => digitsValue? 10 digits

/-- The parts between dots, without an empty last one. -/
def dottedParts (cs : List Char) : List (List Char) :=
  match (cs.splitOn '.').reverse with
  | [] :: rest@(_ :: _) => rest.reverse
  | parts => parts.reverse

/-- Whether the last part is a number, which makes the host an address and no domain. -/
def endsInNumber (cs : List Char) : Bool :=
  match (dottedParts cs).getLast? with
  | some last => (!last.isEmpty && last.all Char.isDigit) || (address4Part? last).isSome
  | none => false

/-- Up to three bytes, and a last part that fills the rest of the 32 bits. -/
def address4? (cs : List Char) : Option (BitVec 32) := do
  let parts ← (dottedParts cs).mapM address4Part?
  let last ← parts.getLast?
  let bytes := parts.dropLast
  let room := 1 <<< (8 * (4 - bytes.length))
  if 4 < parts.length ∨ bytes.any (255 < ·) ∨ room ≤ last then none
  else
    let high := bytes.foldl (fun value byte => 256 * value + byte) 0
    some (BitVec.ofNat 32 (high * room + last))

/-- One to four hexadecimal digits. -/
def address6Piece? (cs : List Char) : Option Nat :=
  if cs.isEmpty ∨ 4 < cs.length then none else digitsValue? 16 cs

/-- A byte in decimal, without a leading zero. -/
def byte? (cs : List Char) : Option Nat :=
  if cs.isEmpty ∨ (1 < cs.length ∧ cs.head? = some '0') then none
  else (digitsValue? 10 cs).filter (· < 256)

/-- The pieces between colons.  In the last place four bytes may stand for two pieces. -/
def address6Pieces? (mayEndInBytes : Bool) : List (List Char) → Option (List Nat)
  | [] => some []
  | [last] =>
    if mayEndInBytes ∧ last.contains '.' then
      match (last.splitOn '.').mapM byte? with
      | some [a, b, c, d] => some [256 * a + b, 256 * c + d]
      | _ => none
    else (address6Piece? last).map fun piece => [piece]
  | part :: rest => do
    let piece ← address6Piece? part
    return piece :: (← address6Pieces? mayEndInBytes rest)

/-- What stands before and after the first pair of colons. -/
def splitColons : List Char → List Char × Option (List Char)
  | ':' :: ':' :: rest => ([], some rest)
  | c :: rest =>
    let (before, after?) := splitColons rest
    (c :: before, after?)
  | [] => ([], none)

/-- The groups between colons; none if there is no text. -/
def groups (cs : List Char) : List (List Char) := if cs.isEmpty then [] else cs.splitOn ':'

/-- Eight pieces, of which one or more zeros may be left out at a pair of colons. -/
def address6? (cs : List Char) : Option (List Nat) :=
  match splitColons cs with
  | (_, none) => (address6Pieces? true (groups cs)).filter (·.length = 8)
  | (before, some after) => do
    let left ← address6Pieces? false (groups before)
    let right ← address6Pieces? true (groups after)
    if 7 < left.length + right.length then none
    else some (left ++ List.replicate (8 - left.length - right.length) 0 ++ right)

/-- The characters that no host of an unknown scheme holds. -/
def isForbiddenOpaque (c : Char) : Bool :=
  ['\x00', '\t', '\n', '\r', ' ', '#', '/', ':', '<', '>', '?', '@', '[', '\\', ']', '^',
    '|'].contains c

/-! ### Reading and writing -/

/-- An address between brackets. -/
def ofBracketed (cs : List Char) : Except UrlError Host :=
  match cs.getLast? with
  | some ']' =>
    match address6? cs.dropLast with
    | some pieces => .ok (.address6 pieces)
    | none => .error .invalidAddress6
  | _ => .error .invalidAddress6

/-- The host of a URL of the web, or of a file. -/
def ofChars (cs : List Char) : Except UrlError Host :=
  match cs with
  | '[' :: rest => ofBracketed rest
  | _ =>
    match (Percent.decode (String.ofList cs)).bind (Domain.ascii? ·.toList) with
    | none => .error .invalidDomain
    | some [] => .error .emptyHost
    | some ascii =>
      if endsInNumber ascii then
        match address4? ascii with
        | some bits => .ok (.address4 bits)
        | none => .error .invalidAddress4
      else .ok (.domain (String.ofList ascii))

/-- The host of a URL of another scheme. -/
def ofOpaqueChars (cs : List Char) : Except UrlError Host :=
  match cs with
  | '[' :: rest => ofBracketed rest
  | _ =>
    if cs.any isForbiddenOpaque then .error .invalidHostCharacter
    else .ok (.domain (String.ofList (Percent.encodeChars Percent.inRootless cs)))

/-- How many zeros begin a list. -/
def leadingZeros (pieces : List Nat) : Nat := (pieces.takeWhile (· == 0)).length

/-- Where the first longest run of zeros begins, and its length. -/
def longestZeros : Nat → List Nat → Nat × Nat
  | _, [] => (0, 0)
  | start, piece :: rest =>
    let here := leadingZeros (piece :: rest)
    let later := longestZeros (start + 1) rest
    if later.2 ≤ here then (start, here) else later

def pieceText (piece : Nat) : String := String.ofList (Nat.toDigits 16 piece)

/-- The longest run of at least two zeros is left out. -/
def address6Text (pieces : List Nat) : String :=
  let (start, length) := longestZeros 0 pieces
  let join := fun (part : List Nat) => ":".intercalate (part.map pieceText)
  if length < 2 then join pieces
  else join (pieces.take start) ++ "::" ++ join (pieces.drop (start + length))

def address4Text (bits : BitVec 32) : String :=
  let n := bits.toNat
  ".".intercalate ([n >>> 24, (n >>> 16) % 256, (n >>> 8) % 256, n % 256].map toString)

def text : Host → String
  | .domain name => name
  | .address4 bits => address4Text bits
  | .address6 pieces => "[" ++ address6Text pieces ++ "]"

end Host

end ServerDriven
