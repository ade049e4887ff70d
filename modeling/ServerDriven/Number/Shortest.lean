/-
Module: ServerDriven.Number.Shortest
Purpose: The fewest decimal digits that read back as a given finite binary number, and the
  text of a binary number built from them.
Main exports:
  Decimal, Finite64.shortest, FloatLayout, Binary64.text
-/
import ServerDriven.Number.Binary64

namespace ServerDriven

/-- The decimal number `digits * 10 ^ exponent`. -/
structure Decimal where
  digits : Nat
  exponent : Int
deriving Repr, DecidableEq, Inhabited

/-!
### The fewest digits that read back

Everything below is compared after scaling by `4 * 2 ^ 1074 * 10 ^ 400`, which makes every
number in sight a natural number: a quarter of the spacing of binary numbers, and every decimal
grid down to `10 ^ -400`.
-/

/-- The reals that read back as a positive finite number, scaled; the ends belong to it exactly
when the mantissa is even. -/
structure ReadBack where
  low : Nat
  value : Nat
  high : Nat
  closed : Bool

/-- Half the distance to each neighbour.  Below the least mantissa of a scale the neighbours are
twice as near. -/
def Finite64.readBack (x : Finite64) : ReadBack :=
  let ulp := twoTo x.scale * tenTo 400
  let under := if x.mantissa = twoTo 52 ∧ x.scale ≠ 0 then ulp else 2 * ulp
  let value := 4 * x.mantissa * ulp
  ⟨value - under, value, value + 2 * ulp, x.mantissa % 2 == 0⟩

def ReadBack.contains (r : ReadBack) (point : Nat) : Bool :=
  (r.low < point && point < r.high) || (r.closed && (point == r.low || point == r.high))

/-- The point of the grid `10 ^ (place - 400)` that reads back and is nearest to the value, when
one of the value's two neighbours on that grid reads back.  Of two equally near ones the even
multiple is taken. -/
def ReadBack.onGrid (r : ReadBack) (place : Nat) : Option Nat :=
  let step := 4 * twoTo 1074 * tenTo place
  let below := r.value / step
  let above := below + 1
  match r.contains (below * step), r.contains (above * step) with
  | false, false => none
  | true, false => some below
  | false, true => some above
  | true, true =>
    let left := r.value - below * step
    let right := above * step - r.value
    if left < right ∨ (left = right ∧ below % 2 = 0) then some below else some above

/-- Search the grids from `place` downwards, each ten times finer than the one before. -/
def ReadBack.search (r : ReadBack) : (tries place : Nat) → Nat × Nat
  | 0, place => (r.value / (4 * twoTo 1074 * tenTo place), place)
  | tries + 1, place =>
    match r.onGrid place with
    | some digits => (digits, place)
    | none => r.search tries (place - 1)

/-- Remove trailing zeros, at most `fuel` of them. -/
def Decimal.trim : (fuel : Nat) → Decimal → Decimal
  | 0, d => d
  | fuel + 1, d =>
    if d.digits ≠ 0 ∧ d.digits % 10 = 0 then trim fuel ⟨d.digits / 10, d.exponent + 1⟩ else d

/-- The shortest decimal that reads back as `x`, and the nearest to `x` among those; seventeen
digits always suffice. -/
def Finite64.shortest (x : Finite64) : Decimal :=
  if x.mantissa = 0 then ⟨0, 0⟩
  else
    let r := x.readBack
    let length := (toString (r.value / (4 * twoTo 1074))).length
    let (digits, place) := r.search 17 (length - 1)
    Decimal.trim 17 ⟨digits, (place : Int) - 400⟩

/-!
### Layout
-/

/-- How a decimal is written: positionally while its point lies within a range, with an exponent
otherwise. -/
structure FloatLayout where
  /-- Least and greatest position of the point (`0.d₁d₂… * 10 ^ point`) written positionally. -/
  leastPoint : Int
  greatestPoint : Int
  /-- What is put before a positive exponent. -/
  positiveExponent : String

/-- Magnitudes from `1e-5` up to, not including, `1e16` are written positionally and always show
a point; the others as `1.5e+16` and `1.5e-7`. -/
def FloatLayout.json : FloatLayout := ⟨-4, 16, "+"⟩

def FloatLayout.write (layout : FloatLayout) (d : Decimal) : String :=
  let digits := (toString d.digits).toList
  let point := (digits.length : Int) + d.exponent
  if layout.leastPoint ≤ point ∧ point ≤ layout.greatestPoint then
    if point ≤ 0 then
      "0." ++ String.ofList (List.replicate (-point).toNat '0') ++ String.ofList digits
    else if (digits.length : Int) ≤ point then
      String.ofList digits ++ String.ofList (List.replicate (point.toNat - digits.length) '0')
        ++ ".0"
    else
      String.ofList (digits.take point.toNat) ++ "." ++ String.ofList (digits.drop point.toNat)
  else
    let exponent := point - 1
    let head := String.ofList (digits.take 1)
    let tail := digits.drop 1
    let mantissa := if tail.isEmpty then head else head ++ "." ++ String.ofList tail
    mantissa ++ "e" ++
      (if exponent < 0 then toString exponent else layout.positiveExponent ++ toString exponent)

/-- A finite number as text: its shortest decimal, with a sign in front, also on zero. -/
def Finite64.text (x : Finite64) : String :=
  let magnitude := if x.mantissa = 0 then "0.0" else FloatLayout.json.write x.shortest
  if x.negative then "-" ++ magnitude else magnitude

/-- A number as text; the words for what is not finite are `NaN`, `inf` and `-inf`. -/
def Binary64.text : Binary64 → String
  | .finite x => x.text
  | .infinite negative => if negative then "-inf" else "inf"
  | .nan => "NaN"

end ServerDriven
