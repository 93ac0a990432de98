import RecordSync.Proofs.Numeric.Decimal

/-!
# Quotients that stay finite

Rounding changes a magnitude by less than its half. So an integer of 64 bits divided by a positive one is far from the
largest double, however large the divisor is.
-/

set_option autoImplicit false

namespace RecordSync.Binary64

theorem rounded_bounds (num den : Nat) :
    num / den ≤ 2 * (divNearestEven num (den * 2 ^ droppedBits (num / den)) * 2 ^ droppedBits (num / den)) ∧
      divNearestEven num (den * 2 ^ droppedBits (num / den)) * 2 ^ droppedBits (num / den) ≤ 2 * (num / den) + 1 := by
  have shifted := droppedBits_le (n := num / den)
  have near : num / den / 2 ^ droppedBits (num / den) ≤ divNearestEven num (den * 2 ^ droppedBits (num / den)) ∧
      divNearestEven num (den * 2 ^ droppedBits (num / den)) ≤ num / den / 2 ^ droppedBits (num / den) + 1 := by
    rw [Nat.div_div_eq_div_mul]
    unfold divNearestEven
    dsimp only
    split_ifs <;> omega
  generalize divNearestEven num (den * 2 ^ droppedBits (num / den)) = k at near ⊢
  generalize droppedBits (num / den) = d at shifted near ⊢
  generalize num / den = q at shifted near ⊢
  have parts := Nat.div_add_mod q (2 ^ d)
  have rest := Nat.mod_lt q (Nat.two_pow_pos d)
  have low := Nat.mul_le_mul_right (2 ^ d) near.1
  have high := Nat.mul_le_mul_right (2 ^ d) near.2
  rw [Nat.succ_mul] at high
  rw [Nat.mul_comm] at parts
  by_cases zero : d = 0
  · subst zero
    omega
  · have most := shifted zero
    rw [Nat.pow_add] at most
    omega

theorem le_of_roundRatio? {num den units : Nat} (h : roundRatio? num den = some units) :
    num / den ≤ 2 * units ∧ units ≤ 2 * (num / den) + 1 := by
  rw [roundRatio?_def] at h
  dsimp only at h
  split at h
  · cases h
    exact rounded_bounds num den
  · cases h

theorem exists_roundRatio? {num den : Nat} (small : num / den ≤ 2 ^ 66 * unitsPerOne) :
    ∃ units, roundRatio? num den = some units := by
  have fits : 2 * (2 ^ 66 * unitsPerOne) + 1 ≤ maxUnits := by decide +kernel
  rw [roundRatio?_def]
  refine ⟨_, if_pos (Nat.le_trans (rounded_bounds num den).2 (Nat.le_trans ?_ fits))⟩
  exact Nat.add_le_add_right (Nat.mul_le_mul_left 2 small) 1

end RecordSync.Binary64

namespace RecordSync.Double

open Binary64 Shortest

theorem ofRatio_of_overflow {num den : Nat} (h : roundRatio? num den = none) (negative : Bool) :
    ofRatio negative num den = .infinite negative := by
  unfold ofRatio
  rw [h]

theorem exists_finite_ofInt {n : Int} (size : n.natAbs ≤ 2 ^ 63) :
    ∃ units, units ≤ 2 ^ 65 * unitsPerOne ∧ ofInt n = .finite ⟨decide (n < 0), units⟩ := by
  have unitPos := unitsPerOne_pos
  have scaled := Nat.mul_le_mul_right unitsPerOne size
  have small : n.natAbs * unitsPerOne / 1 ≤ 2 ^ 63 * unitsPerOne := by rwa [Nat.div_one]
  obtain ⟨units, rounded⟩ := exists_roundRatio? (Nat.le_trans small (Nat.mul_le_mul_right _ (by decide)))
  have near := (le_of_roundRatio? rounded).2
  refine ⟨units, ?_, ofRatio_of_rounded rounded _⟩
  clear rounded
  generalize unitsPerOne = unit at *
  omega

theorem exists_finite_ofDecimal {n : Nat} (size : n ≤ 2 ^ 64) (negative : Bool) :
    ∃ x, ofDecimal negative n 0 = .finite x := by
  have notLarge : digitCount n ≤ 310 := by
    rcases Nat.eq_zero_or_pos n with rfl | pos
    · decide
    · by_contra large
      have least : pow10 310 ≤ pow10 (digitCount n - 1) := pow10_le (by omega)
      have bound : pow10 310 ≤ 2 ^ 64 := least.trans ((pow10_le_of_digitCount pos).trans size)
      exact absurd bound (by decide +kernel)
  have small : n * pow10 0 * unitsPerOne / 1 ≤ 2 ^ 66 * unitsPerOne := by
    rw [Nat.div_one, show pow10 0 = 1 from rfl, Nat.mul_one]
    exact Nat.mul_le_mul_right _ (size.trans (by decide))
  obtain ⟨units, rounded⟩ := exists_roundRatio? small
  unfold ofDecimal
  dsimp only
  split
  · exact ⟨_, rfl⟩
  · rw [if_neg (by omega), if_neg (by decide)]
    exact ⟨_, ofRatio_of_rounded rounded negative⟩

/-- A quotient of an integer of 64 bits and a positive one is finite. -/
theorem exists_finite_div {m n : Int} (size : m.natAbs ≤ 2 ^ 63) (pos : 0 < n) :
    ∃ x, (ofInt m).div (ofInt n) = .finite x := by
  obtain ⟨units, bound, dividend⟩ := exists_finite_ofInt size
  rw [dividend, ofInt]
  cases divisor : roundRatio? (n.natAbs * unitsPerOne) 1 with
  | none =>
    rw [ofRatio_of_overflow divisor]
    exact ⟨_, rfl⟩
  | some count =>
    have large : unitsPerOne ≤ 2 * count := by
      have multiple := Nat.mul_le_mul_right unitsPerOne (show 1 ≤ n.natAbs by omega)
      have near := (le_of_roundRatio? divisor).1
      rw [Nat.div_one] at near
      rw [Nat.one_mul] at multiple
      exact Nat.le_trans multiple near
    have nonzero : count ≠ 0 := by
      rintro rfl
      exact absurd large (Nat.not_le_of_gt unitsPerOne_pos)
    have quotient : units * unitsPerOne / count ≤ 2 ^ 66 * unitsPerOne := by
      refine Nat.div_le_of_le_mul ?_
      calc units * unitsPerOne ≤ 2 ^ 65 * unitsPerOne * (2 * count) := Nat.mul_le_mul bound large
        _ = count * (2 ^ 66 * unitsPerOne) := by ring
    obtain ⟨result, rounded⟩ := exists_roundRatio? quotient
    rw [ofRatio_of_rounded divisor, div, if_neg (by simpa [FiniteDouble.isZero] using nonzero),
      ofRatio_of_rounded rounded]
    exact ⟨_, rfl⟩

end RecordSync.Double
