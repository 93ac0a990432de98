import RecordSync.Numeric.Decimal
import RecordSync.Proofs.Numeric.Shortest

/-!
# Written doubles are read back

Whatever the layout, the text of a double has the shortest digits and their place, so reading it gives the double again.
-/

set_option autoImplicit false

namespace RecordSync

open Binary64 Shortest

namespace Shortest

theorem Interval.le_of_contains {i : Interval} {num den : Nat} (h : i.contains num den = true) :
    i.low * den ≤ num ∧ num ≤ i.high * den := by
  unfold Interval.contains at h
  split at h <;> rw [Bool.and_eq_true, decide_eq_true_eq, decide_eq_true_eq] at h
  · exact h
  · exact h.imp Nat.le_of_lt Nat.le_of_lt

/-- The interval of a positive magnitude keeps away from zero, and goes at most half as far again. -/
theorem interval_bounds {units : Nat} (h : Representable units) (pos : 0 < units) :
    2 * units ≤ (interval units).low ∧ (interval units).high ≤ 6 * units := by
  obtain ⟨m, sig⟩ := h.exists_significand
  generalize droppedBits units = d at sig
  have one : 1 ≤ m := by
    apply Nat.one_le_iff_ne_zero.2
    rintro rfl
    rw [sig.eq, Nat.zero_mul] at pos
    exact Nat.lt_irrefl _ pos
  have step : 2 ^ d ≤ units := by
    rw [sig.eq]
    exact Nat.le_mul_of_pos_left _ one
  rw [interval_low sig, interval_high sig]
  split <;> omega

theorem quartersPerOne_lt : quartersPerOne < 2 * pow10 331 := by decide +kernel

theorem maxUnits_lt : 6 * maxUnits < pow10 310 * quartersPerOne := by decide +kernel

variable {units number : Nat} {exponent : Int}

/-- The decimals in the interval of a double are neither too small nor too large to be read. -/
theorem Denotes.magnitude (h : Denotes units number exponent) (rep : Representable units) (pos : 0 < units) :
    -330 ≤ (digitCount number : Int) + exponent ∧ (digitCount number : Int) + exponent ≤ 310 := by
  obtain ⟨low, high⟩ := interval_bounds rep pos
  obtain ⟨above, below⟩ := Interval.le_of_contains h.inside
  have first := pow10_le_of_digitCount (Nat.pos_of_ne_zero h.ne_zero)
  have past := lt_pow10_digitCount number
  have some := digitCount_pos number
  generalize digitCount number = count at first past some ⊢
  constructor
  · by_contra small
    have whole : exponent.toNat = 0 := by omega
    have split : (-exponent).toNat = 331 + ((-exponent).toNat - 331 - count) + count := by omega
    have lower : 2 * pow10 331 * pow10 count ≤ quartersPerOne * pow10 count :=
      calc
        _ ≤ 2 * pow10 (-exponent).toNat := by
          rw [split, pow10_add, Nat.mul_assoc]
          exact Nat.mul_le_mul_left 2 (Nat.mul_le_mul_right _ (pow10_le (Nat.le_add_right _ _)))
        _ ≤ (interval units).low * pow10 (-exponent).toNat := Nat.mul_le_mul_right _ (by omega)
        _ ≤ number * quartersPerOne := by rw [whole] at above; simpa [pow10] using above
        _ ≤ quartersPerOne * pow10 count := by rw [Nat.mul_comm]; exact Nat.mul_le_mul_left _ (Nat.le_of_lt past)
    exact absurd (Nat.le_of_mul_le_mul_right lower (pow10_pos count)) (Nat.not_le.2 quartersPerOne_lt)
  · by_contra large
    have power : 310 + (-exponent).toNat ≤ count - 1 + exponent.toNat := by omega
    have upper : pow10 310 * quartersPerOne * pow10 (-exponent).toNat ≤ 6 * maxUnits * pow10 (-exponent).toNat :=
      calc
        _ = pow10 (310 + (-exponent).toNat) * quartersPerOne := by rw [pow10_add]; ring
        _ ≤ pow10 (count - 1 + exponent.toNat) * quartersPerOne := Nat.mul_le_mul_right _ (pow10_le power)
        _ = pow10 (count - 1) * (quartersPerOne * pow10 exponent.toNat) := by rw [pow10_add]; ring
        _ ≤ number * (quartersPerOne * pow10 exponent.toNat) := Nat.mul_le_mul_right _ first
        _ ≤ (interval units).high * pow10 (-exponent).toNat := below
        _ ≤ 6 * maxUnits * pow10 (-exponent).toNat :=
          Nat.mul_le_mul_right _ (high.trans (Nat.mul_le_mul_left 6 rep.1))
    exact absurd (Nat.le_of_mul_le_mul_right upper (pow10_pos _)) (Nat.not_le.2 maxUnits_lt)

theorem ofRatio_of_rounded {num den : Nat} (h : roundRatio? num den = some units) (negative : Bool) :
    Double.ofRatio negative num den = .finite ⟨negative, units⟩ := by
  unfold Double.ofRatio
  rw [h]

/-- A decimal in the rounding interval of a double is read as this double. -/
theorem Denotes.ofDecimal (h : Denotes units number exponent) (rep : Representable units) (pos : 0 < units)
    (negative : Bool) : Double.ofDecimal negative number exponent = .finite ⟨negative, units⟩ := by
  obtain ⟨notSmall, notLarge⟩ := h.magnitude rep pos
  have inside := h.inside
  rw [Double.ofDecimal, if_neg (not_or.2 ⟨h.ne_zero, by omega⟩), if_neg (by omega)]
  split
  · next fractional =>
    have whole : exponent.toNat = 0 := by omega
    have quarters : 4 * (number * unitsPerOne) = number * (quartersPerOne * pow10 exponent.toNat) := by
      rw [whole, quartersPerOne, show pow10 0 = 1 from rfl]
      ring
    rw [← quarters] at inside
    exact ofRatio_of_rounded (roundRatio?_of_contains rep (pow10_pos _) inside) negative
  · next whole =>
    have fraction : (-exponent).toNat = 0 := by omega
    have quarters :
        4 * (number * pow10 exponent.toNat * unitsPerOne) = number * (quartersPerOne * pow10 exponent.toNat) := by
      rw [quartersPerOne]
      ring
    rw [fraction, ← quarters] at inside
    exact ofRatio_of_rounded (roundRatio?_of_contains rep (pow10_pos 0) inside) negative

end Shortest

namespace Double

theorem representable_ofDecimal (negative : Bool) (digits : Nat) (exponent : Int) :
    (ofDecimal negative digits exponent).Representable := by
  unfold ofDecimal
  dsimp only
  split
  · exact ⟨Nat.zero_le _, Nat.dvd_zero _⟩
  · split
    · trivial
    · split
      · exact representable_ofRatio _ _ (pow10_pos _)
      · exact representable_ofRatio _ _ Nat.one_pos

end Double

end RecordSync
