/-
Module: ServerDriven.Session.Token
Purpose: Ids of sessions that nobody else will make.
Main exports:
  Token.text, Token.ofSeed
-/

namespace ServerDriven.Token

/-- The bits that tell ids apart; the other six say that they are random. -/
def bits : Nat := 122

/-- So many hexadecimal digits of a number, the last ones. -/
def digits : Nat → Nat → List Char
  | 0, _ => []
  | count + 1, n => digits count (n / 16) ++ [(n % 16).digitChar]

/-- The id with the given bits, in five groups of digits.  The third group begins with the digit of
the version, and the fourth with one of four digits. -/
def text (n : Nat) : String :=
  String.intercalate "-" ([
    digits 8 (n >>> 90),
    digits 4 (n >>> 74),
    '4' :: digits 3 (n >>> 62),
    digits 4 (0x8000 + (n >>> 48) % 0x4000),
    digits 12 n].map String.ofList)

/-- The id under a number, for a seed that is chosen at random.  Numbers that differ by less than
`2 ^ 122` have different ids. -/
def ofSeed (seed n : Nat) : String := text ((seed + n) % (1 <<< bits))

end ServerDriven.Token
