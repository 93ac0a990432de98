import Mathlib.Tactic.Linarith
import RecordSync.Numeric.Binary64

/-!
# Comparing doubles

Doubles are compared by their values; the two zeros are equal, and what is not a number has no place in the order.
-/

set_option autoImplicit false

namespace RecordSync.Double

theorem compare?_swap (x y : Double) : y.compare? x = (x.compare? y).map Ordering.swap := by
  cases x with
  | finite x =>
    cases y with
    | finite y => simp [compare?, ← Std.OrientedCmp.eq_swap]
    | infinite t => cases t <;> rfl
    | nan => rfl
  | infinite s =>
    cases y with
    | finite y => cases s <;> rfl
    | infinite t => cases s <;> cases t <;> rfl
    | nan => rfl
  | nan => cases y <;> rfl

/-- Not to come after is transitive, except through what is not a number. -/
theorem compare?_trans {x y z : Double} (number : y ≠ .nan) (xy : x.compare? y ≠ some .gt)
    (yz : y.compare? z ≠ some .gt) : x.compare? z ≠ some .gt := by
  cases y with
  | nan => exact absurd rfl number
  | infinite t => cases t <;> cases x <;> cases z <;> simp_all [compare?]
  | finite y =>
    cases x with
    | nan => simp [compare?]
    | infinite s => cases s <;> cases z <;> simp_all [compare?]
    | finite x =>
      cases z with
      | nan => simp [compare?]
      | infinite t => cases t <;> simp_all [compare?]
      | finite z =>
        simp only [compare?, ne_eq, Option.some.injEq, compare_gt_iff_gt] at xy yz ⊢
        omega

theorem less_eq_false {x y : Double} : x.less y = false ↔ y.compare? x ≠ some .gt := by
  rw [less, compare?_swap x y]
  cases x.compare? y with
  | none => decide
  | some o => cases o <;> decide

theorem numEq_finite {x y : FiniteDouble} :
    (Double.finite x).numEq (.finite y) = true ↔ x.signedUnits = y.signedUnits := by
  rw [numEq, compare?, beq_iff_eq, Option.some.injEq, compare_eq_iff_eq]

theorem numEq_self {x : Double} (h : x ≠ .nan) : x.numEq x = true := by
  cases x with
  | finite x => simp [numEq, compare?, Std.compare_self]
  | infinite negative => simp [numEq, compare?]
  | nan => exact absurd rfl h

theorem numEq_comm (x y : Double) : x.numEq y = y.numEq x := by
  rw [numEq, numEq, compare?_swap x y]
  cases x.compare? y with
  | none => rfl
  | some order => cases order <;> rfl

theorem numEq_congr {x y : Double} (same : x.numEq y = true) (z : Double) : z.numEq x = z.numEq y := by
  cases x with
  | finite x =>
    cases y with
    | finite y =>
      have value := numEq_finite.1 same
      cases z <;> simp only [numEq, compare?, value]
    | infinite t => cases t <;> cases same
    | nan => cases same
  | infinite s =>
    cases y with
    | finite y => cases s <;> cases same
    | infinite t => cases s <;> cases t <;> first | rfl | cases same
    | nan => cases same
  | nan => cases same

theorem eq_of_numEq {x y : Double} (h : x.numEq y = true)
    (zeros : x.isZero = true → y.isZero = true → x.isNegative = y.isNegative) : x = y := by
  cases x with
  | finite x =>
    cases y with
    | finite y =>
      rw [numEq_finite] at h
      obtain ⟨negative, units⟩ := x
      obtain ⟨negative', units'⟩ := y
      simp only [isZero, FiniteDouble.isZero, beq_iff_eq, isNegative] at zeros
      unfold FiniteDouble.signedUnits at h
      cases negative <;> cases negative' <;> simp at h zeros ⊢ <;> omega
    | infinite t => cases t <;> cases h
    | nan => cases h
  | infinite s =>
    cases y with
    | finite y => cases s <;> cases h
    | infinite t => cases s <;> cases t <;> first | rfl | cases h
    | nan => cases h
  | nan => cases h

end RecordSync.Double
