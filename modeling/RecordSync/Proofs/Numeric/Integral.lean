import RecordSync.Json.Basic
import RecordSync.Proofs.Numeric.Comparing
import RecordSync.Proofs.Numeric.Shortest

/-!
# Integers as doubles

Below `2 ^ 53` every integer is a double. From there on integers are rounded, but never back below: a number that is far
from zero stays so. Hence the nearest doubles tell two numbers apart as soon as one of them is near.
-/

set_option autoImplicit false

namespace RecordSync

namespace Binary64

theorem two_pow_le_roundRatio? {num den units bits : Nat} (pos : 0 < den) (large : 2 ^ bits * den ≤ num)
    (rounded : roundRatio? num den = some units) : 2 ^ bits ≤ units := by
  rw [roundRatio?_def] at rounded
  dsimp only at rounded
  split at rounded
  · cases rounded
    have whole : 2 ^ bits ≤ num / den := (Nat.le_div_iff_mul_le pos).2 large
    have full (shifted : droppedBits (num / den) ≠ 0) := le_significand pos shifted
    generalize dropped : droppedBits (num / den) = d at full ⊢
    by_cases shifted : d = 0
    · subst shifted
      rw [Nat.pow_zero, Nat.mul_one, Nat.mul_one]
      exact le_divNearestEven pos large
    · have fewer : bits ≤ 52 + d := by
        have below := Nat.lt_of_le_of_lt whole (lt_droppedBits (num / den))
        rw [dropped] at below
        have := (Nat.pow_lt_pow_iff_right (by decide)).1 below
        omega
      calc 2 ^ bits ≤ 2 ^ (52 + d) := Nat.pow_le_pow_right Nat.two_pos fewer
        _ = 2 ^ 52 * 2 ^ d := Nat.pow_add 2 52 d
        _ ≤ divNearestEven num (den * 2 ^ d) * 2 ^ d := Nat.mul_le_mul_right _ (full shifted)
  · cases rounded

theorem exists_unitsPerOne_eq : ∃ bits, unitsPerOne = 2 ^ bits := by
  have shifted (bits : Nat) : ∃ power, 1 <<< bits = 2 ^ power := ⟨bits, Nat.one_shiftLeft bits⟩
  exact shifted 1074

theorem eq_of_mul_unitsPerOne {m n : Int} (same : m * unitsPerOne = n * unitsPerOne) : m = n :=
  Int.eq_of_mul_eq_mul_right (Int.natCast_ne_zero.2 (Nat.ne_of_gt Shortest.unitsPerOne_pos)) same

end Binary64

namespace FiniteDouble

theorem natAbs_signedUnits (x : FiniteDouble) : x.signedUnits.natAbs = x.units := by
  unfold signedUnits
  split <;> omega

end FiniteDouble

namespace Double

open Binary64

theorem ofRatio_ne_nan (negative : Bool) (num den : Nat) : ofRatio negative num den ≠ .nan := by
  unfold ofRatio
  split <;> exact Double.noConfusion

theorem ofInt_ne_nan (n : Int) : ofInt n ≠ .nan := ofRatio_ne_nan _ _ _

theorem signedUnits_natAbs (n : Int) (unit : Nat) :
    (FiniteDouble.mk (decide (n < 0)) (n.natAbs * unit)).signedUnits = n * unit := by
  unfold FiniteDouble.signedUnits
  by_cases negative : n < 0
  · rw [if_pos (decide_eq_true negative), Nat.cast_mul, ← neg_mul, Int.ofNat_natAbs_of_nonpos (Int.le_of_lt negative),
      Int.neg_neg]
  · rw [if_neg (by simpa using negative), Nat.cast_mul, Int.natAbs_of_nonneg (Int.not_lt.1 negative)]

theorem ofInt_zero : ofInt 0 = zero := by
  rw [ofInt_of_lt (by decide), Int.natAbs_zero, Nat.zero_mul]
  rfl

theorem ofInt_numEq {m n : Int} (hm : m.natAbs < 2 ^ 53) (hn : n.natAbs < 2 ^ 53)
    (h : (ofInt m).numEq (ofInt n) = true) : m = n := by
  rw [ofInt_of_lt hm, ofInt_of_lt hn, numEq_finite, signedUnits_natAbs, signedUnits_natAbs] at h
  exact eq_of_mul_unitsPerOne h

theorem roundRatio?_of_ofRatio {negative : Bool} {num den : Nat} {x : FiniteDouble}
    (rounded : ofRatio negative num den = .finite x) : roundRatio? num den = some x.units := by
  unfold ofRatio at rounded
  split at rounded
  · next units nearest =>
    cases rounded
    exact nearest
  · cases rounded

/-- An integer from a power of two on stays there, or is beyond all doubles. -/
theorem two_pow_le_ofInt {n : Int} {bits : Nat} (large : 2 ^ bits ≤ n.natAbs) {x : FiniteDouble}
    (rounded : ofInt n = .finite x) : 2 ^ bits * unitsPerOne ≤ x.units := by
  have nearest := roundRatio?_of_ofRatio rounded
  obtain ⟨scale, power⟩ := exists_unitsPerOne_eq
  rw [power] at nearest ⊢
  rw [← Nat.pow_add]
  refine two_pow_le_roundRatio? Nat.one_pos ?_ nearest
  rw [Nat.mul_one, Nat.pow_add]
  exact Nat.mul_le_mul_right _ large

/-- A double that has the value of an integer is the nearest double to it, up to the sign of zero. -/
theorem ofInt_eq_of_signedUnits {n : Int} {x : FiniteDouble} (rep : Binary64.Representable x.units)
    (value : x.signedUnits = n * unitsPerOne) :
    ∃ y, ofInt n = .finite y ∧ y.signedUnits = x.signedUnits := by
  have magnitude : x.units = n.natAbs * unitsPerOne := by
    rw [← x.natAbs_signedUnits, value, Int.natAbs_mul, Int.natAbs_natCast]
  rw [magnitude] at rep
  exact ⟨_, ofRatio_of_representable rep _, (signedUnits_natAbs n unitsPerOne).trans value.symm⟩

theorem signedUnits_of_toInt? {x : FiniteDouble} {n : Int} (whole : (Double.finite x).toInt? = some n) :
    x.signedUnits = n * unitsPerOne := by
  rw [toInt?, Option.ite_none_right_eq_some] at whole
  obtain ⟨divides, result⟩ := whole
  have dvd : (unitsPerOne : Int) ∣ x.signedUnits := by
    rw [Int.natCast_dvd, x.natAbs_signedUnits]
    exact Nat.dvd_of_mod_eq_zero divides
  rw [← Option.some.inj result, Int.ediv_mul_cancel dvd]

end Double

namespace Number

open Binary64

def exactUnits : Number → Int
  | .int n => n * unitsPerOne
  | .double x => x.signedUnits

def IsNear (x : Number) : Prop := x.exactUnits.natAbs < 2 ^ 53 * unitsPerOne

theorem isNear_int {n : Int} : (Number.int n).IsNear ↔ n.natAbs < 2 ^ 53 := by
  rw [IsNear, exactUnits, Int.natAbs_mul, Int.natAbs_natCast]
  exact Nat.mul_lt_mul_right Shortest.unitsPerOne_pos

theorem IsNear.exists_finite {x : Number} (near : x.IsNear) :
    ∃ d, x.toDouble = .finite d ∧ d.signedUnits = x.exactUnits := by
  cases x with
  | int n => exact ⟨_, Double.ofInt_of_lt (isNear_int.1 near), Double.signedUnits_natAbs n unitsPerOne⟩
  | double d => exact ⟨d, rfl, rfl⟩

theorem le_of_not_isNear {x : Number} (far : ¬x.IsNear) {d : FiniteDouble} (nearest : x.toDouble = .finite d) :
    2 ^ 53 * unitsPerOne ≤ d.signedUnits.natAbs := by
  cases x with
  | int n =>
    rw [isNear_int, Nat.not_lt] at far
    rw [d.natAbs_signedUnits]
    exact Double.two_pow_le_ofInt far nearest
  | double y =>
    cases nearest
    exact Nat.not_lt.1 far

section Apart

variable {x y : Number} (near : x.IsNear) (far : ¬y.IsNear)
include near far

theorem exactUnits_ne : x.exactUnits ≠ y.exactUnits :=
  fun equal => far (show y.exactUnits.natAbs < _ from equal ▸ near)

theorem not_numEq_toDouble : ¬x.toDouble.numEq y.toDouble = true := by
  obtain ⟨d, nearest, exact⟩ := near.exists_finite
  rw [nearest]
  cases other : y.toDouble with
  | finite e =>
    have away := le_of_not_isNear far other
    rw [Double.numEq_finite, exact]
    exact fun equal => Nat.not_lt.2 away (equal ▸ near)
  | infinite s => cases s <;> exact Bool.false_ne_true
  | nan => exact Bool.false_ne_true

end Apart

theorem numEq_toDouble_iff {x y : Number} (near : x.IsNear ∨ y.IsNear) :
    x.toDouble.numEq y.toDouble = true ↔ x.exactUnits = y.exactUnits := by
  by_cases hx : x.IsNear <;> by_cases hy : y.IsNear
  · obtain ⟨d, nearest, exact⟩ := hx.exists_finite
    obtain ⟨e, nearest', exact'⟩ := hy.exists_finite
    rw [nearest, nearest', Double.numEq_finite, exact, exact']
  · exact iff_of_false (not_numEq_toDouble hx hy) (exactUnits_ne hx hy)
  · exact iff_of_false (Double.numEq_comm _ _ ▸ not_numEq_toDouble hy hx) (exactUnits_ne hy hx).symm
  · exact absurd near (not_or.2 ⟨hx, hy⟩)

end Number

end RecordSync
