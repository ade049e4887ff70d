/-
Module: ServerDriven.Proofs.Number.Nearest
Purpose: An integer becomes the binary number that lies nearest to it.
Main exports:
  Finite64.IsNearest, halfEven_spec, Binary64.ofRatio_whole, Binary64.ofNat_isNearest
-/
import Mathlib.Tactic.Ring
import ServerDriven.Number.Binary64

namespace ServerDriven

/-! ### Numbers and integers -/

theorem twoTo_mul {m n k : Nat} (sum : m + n = k) : twoTo m * twoTo n = twoTo k := by
  subst sum
  exact (Nat.pow_add 2 m n).symm

/-- A mantissa of one bit more is one of the next scale. -/
theorem twoTo_carry (scale : Nat) : twoTo 53 * twoTo scale = twoTo 52 * twoTo (scale + 1) := by
  rw [twoTo_mul rfl, twoTo_mul (show 52 + (scale + 1) = 53 + scale by omega)]

theorem twoTo_pos (n : Nat) : 0 < twoTo n := Nat.pow_pos (by decide)

theorem twoTo_le_twoTo {m n : Nat} (h : m ≤ n) : twoTo m ≤ twoTo n :=
  Nat.pow_le_pow_right (by decide) h

theorem le_log2_iff {n : Nat} (nonzero : n ≠ 0) (k : Nat) : k ≤ Nat.log2 n ↔ twoTo k ≤ n :=
  Nat.le_log2 nonzero

theorem log2_lt_iff {n : Nat} (nonzero : n ≠ 0) (k : Nat) : Nat.log2 n < k ↔ n < twoTo k :=
  Nat.log2_lt nonzero

namespace Finite64

/-- The number counted in units of `2 ^ -1074`, with its sign. -/
def signedUnits (x : Finite64) : Int := if x.negative then -(x.units : Int) else x.units

/-- How far a number is from an integer, in the same units. -/
def distance (x : Finite64) (n : Int) : Nat := (x.signedUnits - n * twoTo 1074).natAbs

/-- No finite number is nearer to an integer, and the mantissa is even if another is as near. -/
def IsNearest (x : Finite64) (n : Int) : Prop :=
  ∀ y : Finite64, x.distance n ≤ y.distance n ∧
    (y.distance n = x.distance n → y.signedUnits ≠ x.signedUnits → x.mantissa % 2 = 0)

/-- A number is a multiple of a power of two, or it is smaller than that power times `2 ^ 52`. -/
theorem units_cases (y : Finite64) (scale : Nat) :
    (∃ k, y.units = k * twoTo scale) ∨ y.units < twoTo 52 * twoTo scale := by
  by_cases coarse : scale ≤ y.scale
  · left
    refine ⟨y.mantissa * twoTo (y.scale - scale), ?_⟩
    have split : twoTo (y.scale - scale) * twoTo scale = twoTo y.scale :=
      twoTo_mul (Nat.sub_add_cancel coarse)
    rw [units, ← split, Nat.mul_assoc]
  · right
    have finer : twoTo (y.scale + 1) ≤ twoTo scale := twoTo_le_twoTo (by omega)
    calc y.units < twoTo 53 * twoTo y.scale :=
          Nat.mul_lt_mul_of_pos_right y.mantissa_lt (twoTo_pos _)
      _ = twoTo 52 * twoTo (y.scale + 1) := twoTo_carry y.scale
      _ ≤ twoTo 52 * twoTo scale := Nat.mul_le_mul_left _ finer

/-- The same for numbers of either sign. -/
theorem signedUnits_cases (y : Finite64) (scale : Nat) :
    (∃ k : Nat, y.signedUnits = (k * twoTo scale : Nat)) ∨
      y.signedUnits < (twoTo 52 * twoTo scale : Nat) := by
  have large : 0 < twoTo 52 * twoTo scale := Nat.mul_pos (twoTo_pos 52) (twoTo_pos scale)
  unfold signedUnits
  split
  · right
    omega
  · rcases y.units_cases scale with ⟨k, multiple⟩ | small
    · left
      exact ⟨k, by rw [multiple]⟩
    · right
      omega

end Finite64

/-! ### Rounding a quotient -/

/-- A rounded quotient is at most half a divisor away, and even if it is just that far. -/
theorem halfEven_spec (num : Nat) {den : Nat} (positive : 0 < den) :
    2 * num ≤ 2 * (halfEven num den * den) + den ∧
      2 * (halfEven num den * den) ≤ 2 * num + den ∧
      (2 * num = 2 * (halfEven num den * den) + den ∨
        2 * (halfEven num den * den) = 2 * num + den → halfEven num den % 2 = 0) := by
  have split : num / den * den + num % den = num := Nat.div_add_mod' num den
  have rest : num % den < den := Nat.mod_lt num positive
  unfold halfEven
  dsimp only
  split
  · rename_i down
    generalize num / den = below at *
    refine ⟨by omega, by omega, fun tie => ?_⟩
    rcases down with less | ⟨half, even⟩
    · omega
    · exact even
  · rename_i up
    have next : (num / den + 1) * den = num / den * den + den := by ring
    rw [next]
    generalize num / den = below at *
    refine ⟨by omega, by omega, fun tie => ?_⟩
    omega

/-- Among the multiples of the divisor, a rounded quotient gives the nearest. -/
theorem halfEven_nearest (num : Nat) {den : Nat} (positive : 0 < den) (k : Nat) :
    ((halfEven num den * den : Nat) - num : Int).natAbs ≤ ((k * den : Nat) - num : Int).natAbs ∧
      (((k * den : Nat) - num : Int).natAbs = ((halfEven num den * den : Nat) - num : Int).natAbs →
        k ≠ halfEven num den → halfEven num den % 2 = 0) := by
  obtain ⟨below, above, even⟩ := halfEven_spec num positive
  generalize halfEven num den = q at *
  -- Other multiples are a whole divisor away from this one, which is within half a divisor.
  rcases Nat.lt_trichotomy k q with less | rfl | more
  · have step : k * den + den ≤ q * den := by
      rw [← Nat.succ_mul]
      exact Nat.mul_le_mul_right den less
    refine ⟨by omega, fun same _ => even (.inr (by omega))⟩
  · exact ⟨Nat.le_refl _, fun _ other => absurd rfl other⟩
  · have step : q * den + den ≤ k * den := by
      rw [← Nat.succ_mul]
      exact Nat.mul_le_mul_right den more
    refine ⟨by omega, fun same _ => even (.inl (by omega))⟩

/-! ### Natural numbers -/

namespace Binary64

/-- The scale of a number that is rounded puts 53 bits before the end of the mantissa. -/
theorem scale_bounds {whole : Nat} (least : 1074 ≤ Nat.log2 whole) (most : Nat.log2 whole < 2097) :
    Nat.log2 whole - 52 < 2045 ∧ twoTo 52 * twoTo (Nat.log2 whole - 52) ≤ whole ∧
      whole < twoTo 53 * twoTo (Nat.log2 whole - 52) := by
  have nonzero : whole ≠ 0 := by
    rintro rfl
    simp at least
  refine ⟨by omega, ?_, ?_⟩
  · rw [twoTo_mul (show 52 + (Nat.log2 whole - 52) = Nat.log2 whole by omega)]
    exact Nat.log2_self_le nonzero
  · rw [twoTo_mul (show 53 + (Nat.log2 whole - 52) = Nat.log2 whole + 1 by omega)]
    exact Nat.lt_log2_self

/-- A rounded mantissa has 53 bits, or it is the next power of two. -/
theorem halfEven_bounds {whole den : Nat} (least : twoTo 52 * den ≤ whole)
    (most : whole < twoTo 53 * den) :
    twoTo 52 ≤ halfEven whole den ∧ halfEven whole den ≤ twoTo 53 := by
  have positive : 0 < den := by
    rcases Nat.eq_zero_or_pos den with rfl | positive
    · omega
    · exact positive
  obtain ⟨below, above, -⟩ := halfEven_spec whole positive
  generalize halfEven whole den = q at *
  constructor
  · by_contra less
    have step : q * den + den ≤ twoTo 52 * den := by
      rw [← Nat.succ_mul]
      exact Nat.mul_le_mul_right den (by omega)
    omega
  · by_contra more
    have step : twoTo 53 * den + den ≤ q * den := by
      rw [← Nat.succ_mul]
      exact Nat.mul_le_mul_right den (by omega)
    omega

/-- Rounding a natural number gives a finite number, which is the rounded mantissa at its scale. -/
theorem ofNat_eq_finite {n : Nat} (positive : 0 < n) (bounded : n < twoTo 1023) :
    ∃ (x : Finite64) (scale : Nat), ofNat n = .finite x ∧ x.negative = false ∧
      twoTo 52 * twoTo scale ≤ n * twoTo 1074 ∧
      x.units = halfEven (n * twoTo 1074) (twoTo scale) * twoTo scale ∧
      (halfEven (n * twoTo 1074) (twoTo scale) % 2 = 0 → x.mantissa % 2 = 0) := by
  have whole_ne : n * twoTo 1074 ≠ 0 := Nat.ne_of_gt (Nat.mul_pos positive (twoTo_pos 1074))
  have long : 1074 ≤ Nat.log2 (n * twoTo 1074) := by
    apply (le_log2_iff whole_ne 1074).mpr
    exact Nat.le_mul_of_pos_left (twoTo 1074) positive
  have short : Nat.log2 (n * twoTo 1074) < 2097 := by
    apply (log2_lt_iff whole_ne 2097).mpr
    calc n * twoTo 1074 < twoTo 1023 * twoTo 1074 :=
          Nat.mul_lt_mul_of_pos_right bounded (twoTo_pos 1074)
      _ = twoTo 2097 := twoTo_mul (by decide)
  obtain ⟨fits, least, most⟩ := scale_bounds long short
  obtain ⟨low, high⟩ := halfEven_bounds least most
  unfold ofNat ofRatio
  dsimp only
  rw [Nat.div_one, Nat.one_mul]
  generalize n * twoTo 1074 = whole at *
  generalize Nat.log2 whole - 52 = scale at *
  split
  · rename_i carry
    have even : twoTo 52 % 2 = 0 := by decide
    refine ⟨⟨false, twoTo 52, scale + 1, by decide, by omega, .inr (Nat.le_refl _)⟩, scale, ?_, rfl,
      least, ?_, fun _ => even⟩
    · exact dif_pos ⟨by decide, by omega, .inr (Nat.le_refl _)⟩
    · change twoTo 52 * twoTo (scale + 1) = _
      rw [carry, twoTo_carry]
  · rename_i exact53
    have narrow : halfEven whole (twoTo scale) < twoTo 53 := Nat.lt_of_le_of_ne high exact53
    refine ⟨⟨false, halfEven whole (twoTo scale), scale, narrow, by omega, .inr low⟩, scale, ?_, rfl,
      least, rfl, id⟩
    exact dif_pos ⟨narrow, by omega, .inr low⟩

/-- A natural number becomes the binary number nearest to it. -/
theorem ofNat_isNearest {n : Nat} (positive : 0 < n) (bounded : n < twoTo 1023) :
    ∃ x, ofNat n = .finite x ∧ x.IsNearest n := by
  obtain ⟨x, scale, rounded, sign, least, units, even⟩ := ofNat_eq_finite positive bounded
  refine ⟨x, rounded, fun y => ?_⟩
  have own : x.signedUnits = (halfEven (n * twoTo 1074) (twoTo scale) * twoTo scale : Nat) := by
    rw [Finite64.signedUnits, sign, units]
    rfl
  have whole : (n : Int) * (twoTo 1074 : Nat) = (n * twoTo 1074 : Nat) := (Int.natCast_mul _ _).symm
  unfold Finite64.distance
  rw [whole, own]
  have nearest := halfEven_nearest (n * twoTo 1074) (twoTo_pos scale)
  generalize n * twoTo 1074 = whole at *
  rcases y.signedUnits_cases scale with ⟨k, multiple⟩ | small
  · rw [multiple]
    refine ⟨(nearest k).1, fun same other => even ((nearest k).2 same ?_)⟩
    rintro rfl
    exact other rfl
  · have floor := (nearest (twoTo 52)).1
    refine ⟨by omega, fun same _ => ?_⟩
    omega

end Binary64

end ServerDriven
