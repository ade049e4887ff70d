/-
Module: ServerDriven.Url.Percent
Purpose: Percent encoding of texts, for each part of a URL.
Main exports:
  Percent.encode, Percent.decode, Percent.inFragment, Percent.inPath, Percent.inSegment,
  Percent.inSpecialSegment, Percent.inUserinfo, Percent.inQuery, Percent.inSpecialQuery
-/

namespace ServerDriven.Percent

/-! ### The characters that are encoded, part by part -/

/-- Controls, and all that is not ASCII. -/
def inRootless (c : Char) : Bool := c.toNat < 0x20 || 0x7f ≤ c.toNat

def inFragment (c : Char) : Bool := inRootless c || [' ', '"', '<', '>', '\x60'].contains c

def inPath (c : Char) : Bool := inFragment c || ['#', '?', '\x7b', '\x7d'].contains c

/-- In a segment that is added to a path, what would end the segment or begin an encoded byte. -/
def inSegment (c : Char) : Bool := inPath c || ['/', '%'].contains c

/-- A backslash separates segments in the URLs of the web. -/
def inSpecialSegment (c : Char) : Bool := inSegment c || c == '\\'

def inUserinfo (c : Char) : Bool :=
  inPath c || ['/', ':', ';', '=', '@', '[', '\\', ']', '^', '|'].contains c

def inQuery (c : Char) : Bool := inRootless c || [' ', '"', '#', '<', '>'].contains c

def inSpecialQuery (c : Char) : Bool := inQuery c || c == '\''

/-! ### Encoding and decoding -/

/-- A digit of a number below 16, in upper case. -/
def hexDigit (n : Nat) : Char := (n.digitChar).toUpper

/-- The value of a hexadecimal digit of either case. -/
def hexValue? (c : Char) : Option Nat :=
  if '0' ≤ c ∧ c ≤ '9' then some (c.toNat - 48)
  else if 'a' ≤ c ∧ c ≤ 'f' then some (c.toNat - 87)
  else if 'A' ≤ c ∧ c ≤ 'F' then some (c.toNat - 55)
  else none

/-- A byte as a percent sign and two digits. -/
def encodeByte (b : UInt8) : List Char :=
  ['%', hexDigit (b.toNat / 16), hexDigit (b.toNat % 16)]

/-- A character as it is, or as its encoded bytes if it is in the set. -/
def encodeChar (set : Char → Bool) (c : Char) : List Char :=
  if set c then (String.utf8EncodeChar c).flatMap encodeByte else [c]

def encodeChars (set : Char → Bool) (cs : List Char) : List Char := cs.flatMap (encodeChar set)

/-- A text in which the characters of the set are encoded. -/
def encode (set : Char → Bool) (s : String) : String := String.ofList (encodeChars set s.toList)

/-- The bytes of a text in which encoded bytes stand for themselves.  A percent sign without two
digits is an ordinary character. -/
def decodeChars : List Char → List UInt8
  | '%' :: a :: b :: rest =>
    match hexValue? a, hexValue? b with
    | some high, some low => UInt8.ofNat (16 * high + low) :: decodeChars rest
    | _, _ => String.utf8EncodeChar '%' ++ decodeChars (a :: b :: rest)
  | c :: rest => String.utf8EncodeChar c ++ decodeChars rest
  | [] => []

/-- The text whose encoding this is, if its bytes are a text. -/
def decode (s : String) : Option String :=
  String.fromUTF8? ⟨(decodeChars s.toList).toArray⟩

end ServerDriven.Percent
