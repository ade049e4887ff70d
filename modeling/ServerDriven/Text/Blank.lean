/-
Module: ServerDriven.Text.Blank
Purpose: White space at the ends of a text, and numbers written with it.
Main exports:
  isBlank, trim, readNat
-/

namespace ServerDriven.Text

/-- The characters with the property White_Space. -/
def isBlank (c : Char) : Bool :=
  let n := c.toNat
  (0x9 ≤ n && n ≤ 0xd) || n == 0x20 || n == 0x85 || n == 0xa0 || n == 0x1680
    || (0x2000 ≤ n && n ≤ 0x200a) || n == 0x2028 || n == 0x2029 || n == 0x202f || n == 0x205f
    || n == 0x3000

/-- Drop from the end while the test holds. -/
def dropEndWhile (p : Char → Bool) (cs : List Char) : List Char :=
  (cs.reverse.dropWhile p).reverse

/-- A text without the white space at its ends. -/
def trim (s : String) : String :=
  String.ofList (dropEndWhile isBlank (s.toList.dropWhile isBlank))

/-- The value of a run of ASCII digits, read after the digits with value `read`. -/
def readDigits (read : Nat) : List Char → Option Nat
  | [] => some read
  | c :: cs => if '0' ≤ c ∧ c ≤ '9' then readDigits (10 * read + (c.toNat - 48)) cs else none

/-- A natural number below `bound`: ASCII digits with an optional plus sign. -/
def readNat (bound : Nat) (s : String) : Option Nat :=
  let digits := match s.toList with
    | '+' :: rest => rest
    | cs => cs
  if digits.isEmpty then none
  else (readDigits 0 digits).filter (· < bound)

end ServerDriven.Text
