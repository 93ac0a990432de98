import Mathlib.Tactic.Linarith
import Mathlib.Tactic.Ring
import RecordSync.Numeric.Shortest

/-!
# Rounding to binary64

A magnitude of a double is a significand below `2 ^ 53` times a step that is a power of two, and the significand of
every step but the smallest is at least `2 ^ 52`. A quotient is rounded to the double whose rounding interval it lies
in: the interval is narrower below a power of two, where the step halves.
-/

set_option autoImplicit false

namespace RecordSync.Binary64

variable {n d : Nat}

theorem droppedBits_eq (low : d = 0 ∨ 2 ^ (52 + d) ≤ n) (high : n < 2 ^ (53 + d)) : droppedBits n = d := by
  unfold droppedBits
  by_cases zero : n = 0
  · subst zero
    rcases low with rfl | low
    · simp
    · exact absurd low (by simp)
  · have below := (Nat.log2_lt zero).2 high
    rcases low with rfl | low
    · omega
    · have above := (Nat.le_log2 zero).2 low
      omega

theorem lt_droppedBits (n : Nat) : n < 2 ^ (53 + droppedBits n) := by
  by_cases zero : n = 0
  · subst zero
    exact Nat.two_pow_pos _
  · refine (Nat.log2_lt zero).1 ?_
    unfold droppedBits
    omega

theorem droppedBits_le (h : droppedBits n ≠ 0) : 2 ^ (52 + droppedBits n) ≤ n := by
  have zero : n ≠ 0 := by
    rintro rfl
    exact h (by simp [droppedBits])
  refine (Nat.le_log2 zero).1 ?_
  unfold droppedBits at h ⊢
  omega

def Representable (units : Nat) : Prop := units ≤ maxUnits ∧ 2 ^ droppedBits units ∣ units

structure IsSignificand (units significand dropped : Nat) : Prop where
  eq : units = significand * 2 ^ dropped
  lt : significand < 2 ^ 53
  le : dropped ≠ 0 → 2 ^ 52 ≤ significand

theorem IsSignificand.droppedBits {units m : Nat} (h : IsSignificand units m d) : droppedBits units = d := by
  refine droppedBits_eq ?_ ?_
  · rw [h.eq, Nat.pow_add]
    exact (Nat.eq_zero_or_pos d).imp_right fun pos => Nat.mul_le_mul_right _ (h.le (Nat.ne_of_gt pos))
  · rw [h.eq, Nat.pow_add]
    exact (Nat.mul_lt_mul_right (Nat.two_pow_pos d)).2 h.lt

theorem Representable.exists_significand {units : Nat} (h : Representable units) :
    ∃ m, IsSignificand units m (droppedBits units) := by
  obtain ⟨m, eq⟩ := h.2
  have lt := lt_droppedBits units
  have le := droppedBits_le (n := units)
  rw [Nat.pow_add] at lt le
  generalize Binary64.droppedBits units = d at eq lt le ⊢
  rw [Nat.mul_comm] at eq
  subst eq
  exact ⟨m, rfl, Nat.lt_of_mul_lt_mul_right lt,
    fun dropped => Nat.le_of_mul_le_mul_right (le dropped) (Nat.two_pow_pos d)⟩

/-- What is at most a half away is the nearest, and of two nearest ones the even one is taken. -/
theorem divNearestEven_eq {num den k : Nat} (pos : 0 < den) (low : 2 * (k * den) ≤ 2 * num + den)
    (high : 2 * num ≤ 2 * (k * den) + den)
    (tie : k % 2 = 0 ∨ 2 * (k * den) < 2 * num + den ∧ 2 * num < 2 * (k * den) + den) :
    divNearestEven num den = k := by
  have parts := Nat.div_add_mod num den
  have rest := Nat.mod_lt num pos
  have lower : num / den ≤ k := by
    apply Nat.le_of_not_lt
    intro lt
    have := Nat.mul_le_mul_left den (Nat.succ_le_of_lt lt)
    rw [Nat.mul_succ, Nat.mul_comm den k] at this
    omega
  have upper : k ≤ num / den + 1 := by
    apply Nat.le_of_not_lt
    intro lt
    have := Nat.mul_le_mul_left den (Nat.succ_le_of_lt lt)
    rw [Nat.mul_succ, Nat.mul_succ, Nat.mul_comm den k] at this
    omega
  rw [divNearestEven]
  rcases Nat.le_or_eq_of_le_succ upper with le | eq
  · have same : num / den = k := Nat.le_antisymm lower le
    rw [same] at parts ⊢
    rw [Nat.mul_comm] at parts
    rw [if_neg (by omega)]
    split
    · omega
    · rfl
  · subst eq
    rw [Nat.succ_mul (num / den), Nat.mul_comm (num / den)] at low high tie
    split
    · rfl
    · rw [if_pos (by omega)]
      omega

theorem le_divNearestEven {num den k : Nat} (pos : 0 < den) (h : k * den ≤ num) : k ≤ divNearestEven num den := by
  have := (Nat.le_div_iff_mul_le pos).2 h
  unfold divNearestEven
  dsimp only
  split_ifs <;> omega

theorem divNearestEven_le {num den k : Nat} (pos : 0 < den) (h : num < k * den) : divNearestEven num den ≤ k := by
  have := (Nat.div_lt_iff_lt_mul pos).2 h
  unfold divNearestEven
  dsimp only
  split_ifs <;> omega

theorem roundRatio?_def (num den : Nat) : roundRatio? num den =
    let rounded := divNearestEven num (den * 2 ^ droppedBits (num / den)) * 2 ^ droppedBits (num / den)
    if rounded ≤ maxUnits then some rounded else none := by
  rw [roundRatio?, Nat.one_shiftLeft]

theorem le_significand {num den : Nat} (pos : 0 < den) (shifted : droppedBits (num / den) ≠ 0) :
    2 ^ 52 ≤ divNearestEven num (den * 2 ^ droppedBits (num / den)) := by
  refine le_divNearestEven (Nat.mul_pos pos (Nat.two_pow_pos _)) ?_
  have le := (Nat.le_div_iff_mul_le pos).1 (droppedBits_le shifted)
  rw [Nat.pow_add] at le
  rwa [Nat.mul_comm den, ← Nat.mul_assoc]

theorem representable_roundRatio? {num den units : Nat} (pos : 0 < den) (h : roundRatio? num den = some units) :
    Representable units := by
  rw [roundRatio?_def] at h
  dsimp only at h
  split at h
  · next fits =>
    cases h
    refine ⟨fits, ?_⟩
    have least (shifted : droppedBits (num / den) ≠ 0) := le_significand pos shifted
    generalize dropped : droppedBits (num / den) = d at least ⊢
    have stepPos : 0 < den * 2 ^ d := Nat.mul_pos pos (Nat.two_pow_pos d)
    have most : divNearestEven num (den * 2 ^ d) ≤ 2 ^ 53 := by
      refine divNearestEven_le stepPos ?_
      have lt := (Nat.div_lt_iff_lt_mul pos).1 (lt_droppedBits (num / den))
      rw [dropped, Nat.pow_add] at lt
      rwa [Nat.mul_comm den, ← Nat.mul_assoc]
    generalize divNearestEven num (den * 2 ^ d) = k at most least
    rcases Nat.lt_or_eq_of_le most with lt | rfl
    · rw [(IsSignificand.mk rfl lt least).droppedBits]
      exact Nat.dvd_mul_left _ _
    · -- the significand is full, so the step doubles
      have full : IsSignificand (2 ^ 53 * 2 ^ d) (2 ^ 52) (d + 1) := ⟨by ring, by decide, fun _ => Nat.le_refl _⟩
      rw [full.droppedBits]
      exact ⟨2 ^ 52, by ring⟩
  · cases h

theorem roundRatio?_eq {num den units k e : Nat} (dropped : droppedBits (num / den) = e)
    (rounded : divNearestEven num (den * 2 ^ e) = k) (eq : units = k * 2 ^ e) (fits : units ≤ maxUnits) :
    roundRatio? num den = some units := by
  rw [roundRatio?_def, dropped]
  dsimp only
  rw [rounded, ← eq, if_pos fits]

open Shortest

theorem interval_closed {units m : Nat} (h : IsSignificand units m d) :
    (interval units).closed = true ↔ m % 2 = 0 := by
  simp only [interval, Nat.one_shiftLeft, h.droppedBits, beq_iff_eq]
  rw [h.eq, Nat.mul_div_cancel _ (Nat.two_pow_pos d)]

/-- The interval below a power of two is half as wide, since the step halves there. -/
theorem interval_low {units m : Nat} (h : IsSignificand units m d) :
    (interval units).low = 4 * units - (if d ≠ 0 ∧ m = 2 ^ 52 then 1 else 2) * 2 ^ d := by
  have corner : (d ≠ 0 ∧ units = 2 ^ (52 + d)) ↔ (d ≠ 0 ∧ m = 2 ^ 52) := by
    rw [h.eq, Nat.pow_add, Nat.mul_left_inj (Nat.ne_of_gt (Nat.two_pow_pos d))]
  simp only [interval, Nat.one_shiftLeft, h.droppedBits, corner]
  split <;> simp

theorem interval_high {units m : Nat} (h : IsSignificand units m d) :
    (interval units).high = 4 * units + 2 * 2 ^ d := by
  simp only [interval, Nat.one_shiftLeft, h.droppedBits]

/-- The distance to the ends of the interval, in quarters of the step. -/
theorem bounds_of_contains {units m num den : Nat} (sig : IsSignificand units m d)
    (inside : (interval units).contains (4 * num) den = true) :
    4 * (m * (den * 2 ^ d)) ≤ 4 * num + (if d ≠ 0 ∧ m = 2 ^ 52 then 1 else 2) * (den * 2 ^ d) ∧
      4 * num ≤ 4 * (m * (den * 2 ^ d)) + 2 * (den * 2 ^ d) ∧
      (m % 2 = 0 ∨ 4 * (m * (den * 2 ^ d)) < 4 * num + 2 * (den * 2 ^ d) ∧
        4 * num < 4 * (m * (den * 2 ^ d)) + 2 * (den * 2 ^ d)) := by
  have scaled : 4 * units * den = 4 * (m * (den * 2 ^ d)) := by rw [sig.eq]; ring
  have closed := interval_closed sig
  unfold Interval.contains at inside
  rw [interval_low sig, interval_high sig, Nat.add_mul, Nat.sub_mul, scaled, Nat.mul_assoc 2, Nat.mul_assoc (ite _ _ _),
    Nat.mul_comm _ den] at inside
  generalize den * 2 ^ d = step at inside ⊢
  by_cases even : m % 2 = 0
  · rw [if_pos (closed.2 even), Bool.and_eq_true, decide_eq_true_eq, decide_eq_true_eq] at inside
    exact ⟨Nat.sub_le_iff_le_add.1 inside.1, inside.2, .inl even⟩
  · -- a power of two is even
    have inner : ¬(d ≠ 0 ∧ m = 2 ^ 52) := fun corner => even (by rw [corner.2]; decide)
    rw [if_neg fun h => even (closed.1 h), if_neg inner, Bool.and_eq_true, decide_eq_true_eq,
      decide_eq_true_eq] at inside
    rw [if_neg inner]
    omega

theorem roundRatio?_of_near {units m num den : Nat} (sig : IsSignificand units m d) (fits : units ≤ maxUnits)
    (pos : 0 < den) (low : 4 * (m * (den * 2 ^ d)) ≤ 4 * num + 2 * (den * 2 ^ d))
    (above : d ≠ 0 → 2 ^ 52 * (den * 2 ^ d) ≤ num)
    (high : 4 * num ≤ 4 * (m * (den * 2 ^ d)) + 2 * (den * 2 ^ d))
    (tie : m % 2 = 0 ∨ 4 * (m * (den * 2 ^ d)) < 4 * num + 2 * (den * 2 ^ d) ∧
      4 * num < 4 * (m * (den * 2 ^ d)) + 2 * (den * 2 ^ d)) :
    roundRatio? num den = some units := by
  have stepPos : 0 < den * 2 ^ d := Nat.mul_pos pos (Nat.two_pow_pos d)
  refine roundRatio?_eq (droppedBits_eq ?_ ?_) (divNearestEven_eq stepPos ?_ ?_ ?_) sig.eq fits
  · refine (Nat.eq_zero_or_pos d).imp_right fun shifted => (Nat.le_div_iff_mul_le pos).2 ?_
    rw [Nat.pow_add, Nat.mul_assoc, Nat.mul_comm _ den]
    exact above (Nat.ne_of_gt shifted)
  · rw [Nat.div_lt_iff_lt_mul pos, Nat.pow_add, Nat.mul_assoc, Nat.mul_comm _ den]
    have most := Nat.mul_le_mul_right (den * 2 ^ d) (Nat.le_sub_one_of_lt sig.lt)
    omega
  all_goals omega

/-- A quotient in the rounding interval of a double is rounded to it. -/
theorem roundRatio?_of_contains {units num den : Nat} (h : Representable units) (pos : 0 < den)
    (inside : (interval units).contains (4 * num) den = true) : roundRatio? num den = some units := by
  obtain ⟨m, sig⟩ := h.exists_significand
  generalize droppedBits units = d at sig
  have stepPos : 0 < den * 2 ^ d := Nat.mul_pos pos (Nat.two_pow_pos d)
  obtain ⟨low, high, tie⟩ := bounds_of_contains sig inside
  by_cases corner : d ≠ 0 ∧ m = 2 ^ 52
  · rw [if_pos corner, Nat.one_mul] at low
    obtain ⟨shifted, rfl⟩ := corner
    by_cases above : 2 ^ 52 * (den * 2 ^ d) ≤ num
    · exact roundRatio?_of_near sig h.1 pos (by omega) (fun _ => above) high tie
    · -- the quotient is below a power of two, so its step is half as long
      obtain ⟨e, rfl⟩ := Nat.exists_eq_add_one_of_ne_zero shifted
      have half : den * 2 ^ (e + 1) = 2 * (den * 2 ^ e) := by ring
      rw [half] at low high above stepPos
      refine roundRatio?_eq (e := e) (k := 2 ^ 53) (droppedBits_eq ?_ ?_)
        (divNearestEven_eq (by omega) ?_ ?_ (.inl (by decide))) (by rw [sig.eq]; ring) h.1
      · refine .inr ((Nat.le_div_iff_mul_le pos).2 ?_)
        rw [Nat.pow_add, Nat.mul_assoc, Nat.mul_comm _ den]
        omega
      · rw [Nat.div_lt_iff_lt_mul pos, Nat.pow_add, Nat.mul_assoc, Nat.mul_comm _ den]
        omega
      · omega
      · omega
  · rw [if_neg corner] at low
    refine roundRatio?_of_near sig h.1 pos low (fun shifted => ?_) high tie
    have least := sig.le shifted
    have more : 2 ^ 52 + 1 ≤ m := Nat.lt_of_le_of_ne least fun eq => corner ⟨shifted, eq.symm⟩
    have := Nat.mul_le_mul_right (den * 2 ^ d) more
    omega

theorem roundRatio?_self {units : Nat} (h : Representable units) : roundRatio? units 1 = some units := by
  obtain ⟨m, sig⟩ := h.exists_significand
  have pos : 0 < 1 * 2 ^ droppedBits units := Nat.mul_pos Nat.one_pos (Nat.two_pow_pos _)
  refine roundRatio?_eq (by rw [Nat.div_one]) (divNearestEven_eq (k := m) pos ?_ ?_ (.inr ⟨?_, ?_⟩)) sig.eq h.1
  all_goals
    have eq := sig.eq
    rw [Nat.one_mul] at pos ⊢
    omega

theorem dvd_shift {n : Nat} (h : n < 2 ^ 53) (shift : Nat) : 2 ^ droppedBits (n * 1 <<< shift) ∣ n * 1 <<< shift := by
  rw [Nat.one_shiftLeft]
  by_cases zero : n = 0
  · simp [zero]
  · have below : n * 2 ^ shift < 2 ^ (53 + shift) := by
      rw [Nat.pow_add]
      exact (Nat.mul_lt_mul_right (Nat.two_pow_pos shift)).2 h
    have bits := (Nat.log2_lt (Nat.mul_ne_zero zero (Nat.ne_of_gt (Nat.two_pow_pos shift)))).2 below
    have dropped : droppedBits (n * 2 ^ shift) ≤ shift := by
      unfold droppedBits
      omega
    exact (Nat.pow_dvd_pow 2 dropped).mul_left n

theorem shift_le_shift {n : Nat} (h : n < 2 ^ 53) {shift most : Nat} (le : shift ≤ most) :
    n * 1 <<< shift ≤ (1 <<< 53 - 1) <<< most := by
  rw [Nat.one_shiftLeft, Nat.one_shiftLeft, Nat.shiftLeft_eq]
  exact Nat.mul_le_mul (Nat.le_sub_one_of_lt h) (Nat.pow_le_pow_right Nat.two_pos le)

theorem representable_of_lt {n : Nat} (h : n < 2 ^ 53) : Representable (n * unitsPerOne) := by
  unfold unitsPerOne Representable maxUnits
  exact ⟨shift_le_shift h (by decide), dvd_shift h _⟩

end RecordSync.Binary64

namespace RecordSync.Double

open Binary64

def Representable : Double → Prop
  | .finite x => Binary64.Representable x.units
  | _ => True

theorem representable_ofRatio (negative : Bool) (num : Nat) {den : Nat} (pos : 0 < den) :
    (ofRatio negative num den).Representable := by
  unfold ofRatio
  split
  · next units rounded => exact representable_roundRatio? pos rounded
  · trivial

theorem representable_ofInt (n : Int) : (ofInt n).Representable := representable_ofRatio _ _ Nat.one_pos

theorem ofRatio_of_representable {units : Nat} (h : Binary64.Representable units) (negative : Bool) :
    ofRatio negative units 1 = .finite ⟨negative, units⟩ := by
  unfold ofRatio
  rw [roundRatio?_self h]

theorem ofInt_of_lt {n : Int} (h : n.natAbs < 2 ^ 53) :
    ofInt n = .finite ⟨decide (n < 0), n.natAbs * unitsPerOne⟩ :=
  ofRatio_of_representable (representable_of_lt h) _

end RecordSync.Double
