/-
Module: ServerDriven.Text.CodeTable
Purpose: Tables of code points, written as text.
Main exports:
  CodeTable.ranges, CodeTable.holds, CodeTable.triples, CodeTable.quadruples, CodeTable.entries
-/

namespace ServerDriven.Text.CodeTable

/-! ### Words and numbers -/

/-- The value of a hexadecimal digit in lower case. -/
def digit (c : Char) : Nat := if c.isDigit then c.toNat - 48 else c.toNat - 87

/-- The number that a word of hexadecimal digits stands for. -/
def number (word : List Char) : Nat := word.foldl (fun value c => 16 * value + digit c) 0

/-- The words between blanks. -/
def words (text : String) : List (List Char) :=
  (text.toList.splitOnP Char.isWhitespace).filter (!·.isEmpty)

/-! ### Ranges -/

/-- The first and the last number of a range; a number by itself is both. -/
def range (word : List Char) : Nat × Nat :=
  match word.splitOn '-' with
  | [first, last] => (number first, number last)
  | _ => (number word, number word)

/-- A table of ranges, whose ends are parted by hyphens. -/
def ranges (text : String) : List (Nat × Nat) := (words text).map range

/-- Whether a character lies in a range of the table. -/
def holds (table : List (Nat × Nat)) (c : Char) : Bool :=
  table.any fun (first, last) => first ≤ c.toNat && c.toNat ≤ last

/-! ### Rows -/

/-- Rows of three. -/
def inThrees {α : Type} : List α → List (α × α × α)
  | a :: b :: c :: rest => (a, b, c) :: inThrees rest
  | _ => []

/-- Rows of four. -/
def inFours {α : Type} : List α → List (α × α × α × α)
  | a :: b :: c :: d :: rest => (a, b, c, d) :: inFours rest
  | _ => []

/-- A table with three characters in each row. -/
def triples (text : String) : List (Char × Char × Char) :=
  inThrees ((words text).map fun word => Char.ofNat (number word))

/-- A table with four numbers in each row. -/
def quadruples (text : String) : List (Nat × Nat × Nat × Nat) := inFours ((words text).map number)

/-! ### Entries in a row -/

/-- Entries from a number on: a number before a colon begins a new row of entries, and each other
word, of characters parted by plus signs, is the entry for the next number. -/
def entriesFrom : Nat → List (List Char) → List (Nat × List Char)
  | _, [] => []
  | next, word :: rest =>
    if word.getLast? = some ':' then entriesFrom (number word.dropLast) rest
    else (next, (word.splitOn '+').map fun code => Char.ofNat (number code)) ::
      entriesFrom (next + 1) rest

/-- A table of texts under numbers. -/
def entries (text : String) : List (Nat × List Char) := entriesFrom 0 (words text)

end ServerDriven.Text.CodeTable
