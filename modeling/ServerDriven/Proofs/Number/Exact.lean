/-
Module: ServerDriven.Proofs.Number.Exact
Purpose: Where the binary numbers count exactly: integers of 53 bits times a power of two, and their
  products.
Main exports:
  Finite64.Is, Finite64.Is.roundAway, Binary64.ofRatio_mul, Binary64.ofNat_is,
  Binary64.mul_eq_ofNat, Binary64.mul_two
-/
import ServerDriven.Proofs.Number.Nearest

namespace ServerDriven

/-- A whole quotient is not rounded. -/
theorem halfEven_mul (q : Nat) {den : Nat} (positive : 0 < den) : halfEven (q * den) den = q := by
  unfold halfEven
  simp [Nat.mul_div_cancel q positive, positive]

/-- Only the quotient counts. -/
theorem halfEven_mul_mul (num den : Nat) {k : Nat} (positive : 0 < k) :
    halfEven (num * k) (den * k) = halfEven num den := by
  unfold halfEven
  rw [Nat.mul_div_mul_right num den positive, Nat.mul_mod_mul_right, ← Nat.mul_assoc]
  simp only [Nat.mul_lt_mul_right positive, Nat.mul_left_inj (Nat.ne_of_gt positive)]

namespace Finite64

/-- A binary number that is just a natural number. -/
structure Is (x : Finite64) (n : Nat) : Prop where
  sign : x.negative = false
  units : x.units = n * twoTo 1074

variable {x : Finite64} {n : Nat}

theorem Is.roundAway (is : x.Is n) : x.roundAway = n := by
  have one : 0 < twoTo 1074 := twoTo_pos 1074
  unfold Finite64.roundAway
  rw [is.sign, is.units, if_neg Bool.false_ne_true]
  generalize twoTo 1074 = unit at *
  have whole : n * (2 * unit) = 2 * (n * unit) := Nat.mul_left_comm n 2 unit
  have next : (n + 1) * (2 * unit) = n * (2 * unit) + 2 * unit := Nat.succ_mul n (2 * unit)
  have half : (2 * (n * unit) + unit) / (2 * unit) = n := by
    apply Nat.div_eq_of_lt_le
    · omega
    · omega
  exact congrArg Int.ofNat half

end Finite64

namespace Binary64

/-- A quotient may be reduced before it is rounded. -/
theorem ofRatio_mul (negative : Bool) (num den : Nat) {k : Nat} (positive : 0 < k) :
    ofRatio negative (num * k) (den * k) = ofRatio negative num den := by
  unfold ofRatio
  dsimp only
  rw [Nat.mul_right_comm num k, Nat.mul_right_comm den k, Nat.mul_div_mul_right _ _ positive,
    halfEven_mul_mul _ _ positive]

/-- A natural number that is 53 bits and a power of two is a binary number. -/
theorem ofNat_is {m : Nat} (j : Nat) (bits : m < twoTo 53) (range : m * twoTo j < twoTo 1023) :
    ∃ x, ofNat (m * twoTo j) = .finite x ∧ x.Is (m * twoTo j) := by
  rcases Nat.eq_zero_or_pos m with rfl | positive
  · rw [Nat.zero_mul]
    have units : (Finite64.zero false).units = 0 * twoTo 1074 :=
      (Nat.zero_mul _).trans (Nat.zero_mul _).symm
    exact ⟨.zero false, by decide +kernel, rfl, units⟩
  · have whole : 0 < m * twoTo j := Nat.mul_pos positive (twoTo_pos j)
    obtain ⟨x, scale, finite, sign, least, units, -⟩ := ofNat_eq_finite whole range
    have shifted : m * twoTo j * twoTo 1074 = m * twoTo (j + 1074) := by
      rw [Nat.mul_assoc, twoTo_mul rfl]
    rw [shifted] at least units
    -- The mantissa has 53 bits at least, so the scale leaves all of the power of two.
    have fits : scale ≤ j + 1074 := by
      by_contra large
      have above : twoTo (j + 1075) ≤ twoTo scale := twoTo_le_twoTo (by omega)
      have below : m * twoTo (j + 1074) < twoTo 53 * twoTo (j + 1074) :=
        Nat.mul_lt_mul_of_pos_right bits (twoTo_pos _)
      have carried : twoTo 52 * twoTo (j + 1075) ≤ twoTo 52 * twoTo scale :=
        Nat.mul_le_mul_left _ above
      rw [twoTo_carry] at below
      exact Nat.lt_irrefl _ (Nat.lt_of_lt_of_le below (Nat.le_trans carried least))
    have split : m * twoTo (j + 1074) = m * twoTo (j + 1074 - scale) * twoTo scale := by
      rw [Nat.mul_assoc, twoTo_mul (Nat.sub_add_cancel fits)]
    refine ⟨x, finite, sign, ?_⟩
    rw [units, shifted, split, halfEven_mul _ (twoTo_pos scale)]

theorem ofNat_is_self {n : Nat} (bits : n < twoTo 53) : ∃ x, ofNat n = .finite x ∧ x.Is n := by
  have range : n * twoTo 0 < twoTo 1023 := by
    rw [Nat.mul_one]
    exact Nat.lt_of_lt_of_le bits (twoTo_le_twoTo (by decide))
  have is := ofNat_is 0 bits range
  rwa [Nat.mul_one] at is

/-- The product of two natural numbers is rounded like their product as natural numbers. -/
theorem mul_eq_ofNat {x y : Finite64} {m n : Nat} (left : x.Is m) (right : y.Is n) :
    mul (.finite x) (.finite y) = ofNat (m * n) := by
  have product : x.units * y.units = m * n * twoTo 2148 := by
    rw [left.units, right.units, Nat.mul_mul_mul_comm,
      twoTo_mul (show 1074 + 1074 = 2148 by decide)]
  change ofRatio (x.negative != y.negative) (x.units * y.units) (twoTo 2148) = ofRatio false _ 1
  rw [left.sign, right.sign, product]
  have reduced := ofRatio_mul false (m * n) 1 (twoTo_pos 2148)
  rw [Nat.one_mul] at reduced
  exact reduced

/-- Doubling does not round. -/
theorem mul_two {n : Nat} (bits : n < twoTo 53) :
    ∃ x, mul (ofNat n) (ofNat 2) = .finite x ∧ x.Is (n * 2) := by
  obtain ⟨single, rounded, is⟩ := ofNat_is_self bits
  obtain ⟨two, rounded', is'⟩ := ofNat_is_self (show 2 < twoTo 53 by decide)
  rw [rounded, rounded', mul_eq_ofNat is is']
  apply ofNat_is 1 bits
  calc n * twoTo 1 < twoTo 53 * twoTo 1 := Nat.mul_lt_mul_of_pos_right bits (twoTo_pos 1)
    _ = twoTo 54 := twoTo_mul (by decide)
    _ ≤ twoTo 1023 := twoTo_le_twoTo (by decide)

end Binary64

end ServerDriven
