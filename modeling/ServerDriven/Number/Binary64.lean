/-
Module: ServerDriven.Number.Binary64
Purpose: The 64-bit binary floating-point numbers as exact dyadic rationals.
Main exports:
  Finite64, Binary64, Binary64.ofRatio, Binary64.ofDecimal, Binary64.mul,
  Finite64.roundAway
-/

namespace ServerDriven

/-- A power of two. -/
abbrev twoTo (exponent : Nat) : Nat := Nat.pow 2 exponent

/-- A power of ten. -/
abbrev tenTo (exponent : Nat) : Nat := Nat.pow 10 exponent

/-!
A finite number is `± mantissa * 2 ^ scale * 2 ^ -1074`: the least subnormal number is the
unit, and `scale` counts doublings of it.  Every finite number has exactly one such form, so
equality of the record is equality of the number (the two zeros are kept apart by their sign).
All rounding is done once, from an exact quotient, to the nearest number with ties to even.
-/

/-- A finite binary number in its one canonical form. -/
structure Finite64 where
  negative : Bool
  mantissa : Nat
  scale : Nat
  mantissa_lt : mantissa < twoTo 53
  scale_le : scale ≤ 2045
  leading : scale = 0 ∨ twoTo 52 ≤ mantissa
deriving Repr, DecidableEq

/-- A binary floating-point number: finite, an infinity of either sign, or not a number. -/
inductive Binary64 where
  | finite (x : Finite64)
  | infinite (negative : Bool)
  | nan
deriving Repr, DecidableEq

/-- The quotient `num / den` rounded to the nearest integer, a tie going to the even one. -/
def halfEven (num den : Nat) : Nat :=
  let below := num / den
  let rest := 2 * (num % den)
  if rest < den ∨ (rest = den ∧ below % 2 = 0) then below else below + 1

namespace Finite64

/-- The zero of the given sign. -/
def zero (negative : Bool) : Finite64 :=
  ⟨negative, 0, 0, by decide, by decide, .inl rfl⟩

instance : Inhabited Finite64 := ⟨zero false⟩

/-- The magnitude counted in units of `2 ^ -1074`. -/
def units (x : Finite64) : Nat := x.mantissa * twoTo x.scale

def isZero (x : Finite64) : Bool := x.mantissa == 0

/-- The nearest integer, a half going away from zero. -/
def roundAway (x : Finite64) : Int :=
  let magnitude : Nat := (2 * x.units + twoTo 1074) / (2 * twoTo 1074)
  if x.negative then -(magnitude : Int) else (magnitude : Int)

end Finite64

namespace Binary64

instance : Inhabited Binary64 := ⟨.nan⟩

/-- The number with the given mantissa and scale.  A form that is too large for the format is the
infinity of its sign. -/
def pack (negative : Bool) (mantissa scale : Nat) : Binary64 :=
  if h : mantissa < twoTo 53 ∧ scale ≤ 2045 ∧ (scale = 0 ∨ twoTo 52 ≤ mantissa) then
    .finite ⟨negative, mantissa, scale, h.1, h.2.1, h.2.2⟩
  else
    .infinite negative

/-- The number nearest to `± num / den`, ties to even.  The scale is the least one at which the
mantissa has at most 53 bits; a mantissa that rounds up to `2 ^ 53` moves to the next scale. -/
def ofRatio (negative : Bool) (num den : Nat) : Binary64 :=
  let whole := num * twoTo 1074 / den
  let scale := Nat.log2 whole - 52
  let mantissa := halfEven (num * twoTo 1074) (den * twoTo scale)
  if mantissa = twoTo 53 then pack negative (twoTo 52) (scale + 1) else pack negative mantissa scale

/-- The number nearest to a natural number. -/
def ofNat (n : Nat) : Binary64 := ofRatio false n 1

/-- The number nearest to an integer. -/
def ofInt : Int → Binary64
  | .ofNat n => ofNat n
  | .negSucc n => ofRatio true (n + 1) 1

/-- The number nearest to `± digits * 10 ^ exponent`.  Exponents far outside the range of the
format are settled by the length of the digits, so their powers are never formed. -/
def ofDecimal (negative : Bool) (digits : Nat) (exponent : Int) : Binary64 :=
  let point := ((toString digits).length : Int) + exponent
  if digits = 0 ∨ point < -400 then .finite (.zero negative)
  else if 400 < point then .infinite negative
  else match exponent with
    | .ofNat e => ofRatio negative (digits * tenTo e) 1
    | .negSucc e => ofRatio negative digits (tenTo (e + 1))

/-- The product, correctly rounded.  Zero times an infinity is not a number. -/
def mul : Binary64 → Binary64 → Binary64
  | .finite x, .finite y =>
    ofRatio (x.negative != y.negative) (x.units * y.units) (twoTo 2148)
  | .finite x, .infinite s => if x.isZero then .nan else .infinite (x.negative != s)
  | .infinite s, .finite y => if y.isZero then .nan else .infinite (s != y.negative)
  | .infinite s, .infinite t => .infinite (s != t)
  | .nan, _ => .nan
  | _, .nan => .nan

end Binary64

end ServerDriven
