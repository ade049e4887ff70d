/-
Module: ServerDriven.Url.Domain.Direction
Purpose: Domains with text that runs from right to left.
Main exports:
  Direction, Direction.ofChar, Domain.directionsFit
-/
import ServerDriven.Text.Mark

namespace ServerDriven

/-- Which way a character makes a text run. -/
inductive Direction where
  | leftToRight
  | rightToLeft
  /-- Digits that are written like those of Europe. -/
  | europeanNumber
  /-- Digits that are written like those of Arabic. -/
  | arabicNumber
  /-- A mark goes the way of the character before it. -/
  | mark
  | neutral
deriving Repr, DecidableEq, Inhabited

namespace Direction

/-!
The tables hold ranges of code points whose ends belong to the class; of the code points between
them only those count that a domain may hold.
-/

/-- Letters and signs of the scripts that run from right to left. -/
def rightToLeftRanges : List (Nat × Nat) :=
  Text.CodeTable.ranges "
    5be 5c0 5c3 5c6 5d0-5f4 608 60b 60d 61b-64a 66d-66f 671-6d5 6e5-6e6 6ee-6ef 6fa-710 712-72f
    74d-7a5 7b1-7ea 7f4-7f5 7fa 7fe-815 81a 824 828 830-858 85e-88f 8a0-8c9 fbb2-fbc2 fe73
    10800-1091b 10920-10a00 10a10-10a35 10a40-10ae4 10aeb-10b35 10b40-10d23 10d40-10d4f
    10d6f-10d8f 10e80-10ea9 10ead-10ec7 10f00-10f45 10f51-10f81 10f86-10ff6 1e800-1e8cf
    1e922-1e943 1e94b-1ed3d"

/-- Digits like those of Europe. -/
def europeanNumberRanges : List (Nat × Nat) :=
  Text.CodeTable.ranges "
    30-39 6f0-6f9 102e1-102fb"

/-- Digits like those of Arabic. -/
def arabicNumberRanges : List (Nat × Nat) :=
  Text.CodeTable.ranges "
    660-669 66b-66c 10d30-10d39 10e60-10e7e"

/-- Separators, and signs of no script. -/
def neutralRanges : List (Nat × Nat) :=
  Text.CodeTable.ranges "
    0-2f 3a-60 7b-d7 f7 2b9-2ba 2c2-2cf 2d2-2ed 2ef-2ff 375 3f6 58a-58f 606-607 609-60a 60c
    60e-60f 66a 6de 6e9 7f6-7f9 9f2-9f3 9fb af1 bf3-bfa c78-c7e e3f f3a-f3d 1390-1399 1400
    169b-169c 17db 17f0-180a 1940-1945 19de-19ff 200c-20c1 2104-214d 218a-2335 237b-2394 2396-26ab
    26ad-27ff 2900-2bff 2ce5-2cea 2cf9-2cff 2e00-3004 3008-3020 3030 3037 303d-303f 30a0 30fb
    31c0-31e5 4dc0-4dff a490-a4c6 a60d-a60f a673 a67e-a67f a700-a721 a788 a828-a82b a838-a839
    a874-a877 ab6a-ab6b fbc3-fdff fe45-fe46 10101 10140-1018c 10190-101a0 1091f 10b39-10b3f 10d6e
    10ed0-10ed8 11052-11065 11660-1166c 11fd5-11ff1 16fe2 1cc00-1cef0 1d1e9-1d241 1d245
    1d300-1d356 1e2ff 1eef0-1f12f 1f16d-1f16f 1f1ad 1f260-1fbfa"

/-- Marks without room of their own that make a text run like letters do. -/
def letterMarks : List (Nat × Nat) :=
  Text.CodeTable.ranges "cbf cc6 11a07 11a08 11c3f"

def ofChar (c : Char) : Direction :=
  let isIn := fun table => Text.CodeTable.holds table c
  if isIn letterMarks then .leftToRight
  else if Text.isNonspacingMark c then .mark
  else if isIn rightToLeftRanges then .rightToLeft
  else if isIn arabicNumberRanges then .arabicNumber
  else if isIn europeanNumberRanges then .europeanNumber
  else if isIn neutralRanges then .neutral
  else .leftToRight

end Direction

namespace Domain

/-- Whether a label runs in one way from end to end: it begins with a letter, ends with a letter or
a digit that goes with its direction, but for marks, and holds no letter of the other direction.
From right to left it holds digits of one kind only. -/
def runsOneWay (label : List Direction) : Bool :=
  let last := ((label.reverse.dropWhile (· == .mark)).head?).getD .neutral
  match label.head? with
  | some .leftToRight =>
    [.leftToRight, .europeanNumber].contains last &&
      label.all [.leftToRight, .europeanNumber, .neutral, .mark].contains
  | some .rightToLeft =>
    [.rightToLeft, .europeanNumber, .arabicNumber].contains last &&
      label.all (· != .leftToRight) &&
      !(label.contains .europeanNumber && label.contains .arabicNumber)
  | _ => false

/-- Whether a label runs from right to left somewhere. -/
def turnsLeft (label : List Direction) : Bool := label.any [.rightToLeft, .arabicNumber].contains

/-- If one label of a domain runs from right to left, each label that is not empty runs one way. -/
def directionsFit (labels : List (List Char)) : Bool :=
  let directions := labels.map (·.map Direction.ofChar)
  !directions.any turnsLeft || directions.all fun label => label.isEmpty || runsOneWay label

end Domain

end ServerDriven
