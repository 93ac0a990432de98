import RecordSync.Proofs.Numeric.Rounding

/-!
# The shortest digits read back

The grid of seventeen digits is so fine that one of the two neighbours of a double lies in its rounding interval, so the
search ends with a decimal that is rounded to the double again.
-/

set_option autoImplicit false

namespace RecordSync.Shortest

open Binary64

theorem unitsPerOne_pos : 0 < unitsPerOne := by
  rw [unitsPerOne, Nat.one_shiftLeft]
  exact Nat.two_pow_pos 1074

theorem pow10_pos (n : Nat) : 0 < pow10 n := Nat.pow_pos (by decide)

theorem pow10_add (m n : Nat) : pow10 (m + n) = pow10 m * pow10 n := Nat.pow_add 10 m n

theorem pow10_le {m n : Nat} (h : m ≤ n) : pow10 m ≤ pow10 n := Nat.pow_le_pow_right (by decide) h

theorem Interval.contains_congr (i : Interval) {num den num' den' : Nat} (pos : 0 < den) (pos' : 0 < den')
    (same : num * den' = num' * den) : i.contains num den = i.contains num' den' := by
  have low_le : i.low * den ≤ num ↔ i.low * den' ≤ num' := by
    rw [← Nat.mul_le_mul_right_iff pos', same, Nat.mul_right_comm, Nat.mul_le_mul_right_iff pos]
  have le_high : num ≤ i.high * den ↔ num' ≤ i.high * den' := by
    rw [← Nat.mul_le_mul_right_iff pos', same, Nat.mul_right_comm, Nat.mul_le_mul_right_iff pos]
  have low_lt : i.low * den < num ↔ i.low * den' < num' := by
    rw [← Nat.mul_lt_mul_right pos', same, Nat.mul_right_comm, Nat.mul_lt_mul_right pos]
  have lt_high : num < i.high * den ↔ num' < i.high * den' := by
    rw [← Nat.mul_lt_mul_right pos', same, Nat.mul_right_comm, Nat.mul_lt_mul_right pos]
  simp only [Interval.contains, low_le, le_high, low_lt, lt_high]

theorem Interval.contains_of_lt {i : Interval} {num den : Nat} (low : i.low * den < num) (high : num < i.high * den) :
    i.contains num den = true := by
  unfold Interval.contains
  split
  · simp [Nat.le_of_lt low, Nat.le_of_lt high]
  · simp [low, high]

/-- The decimal `number · 10 ^ exponent` lies in the rounding interval of a magnitude. -/
structure Denotes (units number : Nat) (exponent : Int) : Prop where
  ne_zero : number ≠ 0
  inside : (interval units).contains (number * (quartersPerOne * pow10 exponent.toNat)) (pow10 (-exponent).toNat) = true

theorem denotes_shift {units number zeros : Nat} {exponent : Int} :
    Denotes units (number * pow10 zeros) exponent ↔ Denotes units number (exponent + zeros) := by
  have powers : zeros + exponent.toNat + (-(exponent + zeros)).toNat =
      (exponent + zeros).toNat + (-exponent).toNat := by omega
  have same : number * pow10 zeros * (quartersPerOne * pow10 exponent.toNat) * pow10 (-(exponent + zeros)).toNat =
      number * (quartersPerOne * pow10 (exponent + zeros).toNat) * pow10 (-exponent).toNat :=
    calc
      _ = number * quartersPerOne * pow10 (zeros + exponent.toNat + (-(exponent + zeros)).toNat) := by
        rw [pow10_add, pow10_add]; ring
      _ = _ := by rw [powers, pow10_add]; ring
  have inside := (interval units).contains_congr (pow10_pos _) (pow10_pos _) same
  have ne_zero : number * pow10 zeros ≠ 0 ↔ number ≠ 0 := by simp [Nat.ne_of_gt (pow10_pos zeros)]
  exact ⟨fun h => ⟨ne_zero.1 h.ne_zero, inside ▸ h.inside⟩, fun h => ⟨ne_zero.2 h.ne_zero, inside ▸ h.inside⟩⟩

theorem digitCount_pos (n : Nat) : 0 < digitCount n := Nat.length_toDigits_pos

theorem lt_pow10_digitCount (n : Nat) : n < pow10 (digitCount n) :=
  (Nat.length_toDigits_le_iff (by decide) (digitCount_pos n)).1 (Nat.le_refl _)

theorem pow10_le_of_digitCount {n : Nat} (pos : 0 < n) : pow10 (digitCount n - 1) ≤ n := by
  apply Nat.le_of_not_lt
  intro lt
  rcases Nat.eq_zero_or_pos (digitCount n - 1) with zero | more
  · rw [zero] at lt
    exact absurd lt (by simpa [pow10] using Nat.ne_of_gt pos)
  · have := (Nat.length_toDigits_le_iff (by decide) more).2 lt
    unfold digitCount at *
    omega

/-- The first digit of a magnitude stands right of the point or further to the left. -/
theorem unitsPerOne_le {units : Nat} (pos : 0 < units) :
    unitsPerOne * pow10 (decimalPoint units - 1).toNat ≤ units * pow10 (1 - decimalPoint units).toNat := by
  rw [decimalPoint]
  split
  · next whole =>
    have count := digitCount_pos (units / unitsPerOne)
    have le := pow10_le_of_digitCount (Nat.div_pos whole unitsPerOne_pos)
    rw [Nat.le_div_iff_mul_le unitsPerOne_pos] at le
    have before : ((digitCount (units / unitsPerOne) : Int) - 1).toNat = digitCount (units / unitsPerOne) - 1 := by omega
    have after : (1 - (digitCount (units / unitsPerOne) : Int)).toNat = 0 := by omega
    rw [before, after, Nat.mul_comm]
    simpa [pow10] using le
  · have lt := lt_pow10_digitCount (unitsPerOne / units)
    rw [Nat.div_lt_iff_lt_mul pos, Nat.mul_comm] at lt
    generalize digitCount (unitsPerOne / units) = guess at lt
    dsimp only
    split
    · next reached =>
      have before : (1 - ((guess - 1 : Nat) : Int) - 1).toNat = 0 := by omega
      have after : (1 - (1 - ((guess - 1 : Nat) : Int))).toNat = guess - 1 := by omega
      rw [before, after]
      simpa [pow10] using reached
    · have before : (1 - (guess : Int) - 1).toNat = 0 := by omega
      have after : (1 - (1 - (guess : Int))).toNat = guess := by omega
      rw [before, after]
      simpa [pow10] using Nat.le_of_lt lt

/-- A neighbour on a grid is taken only if it lies in the interval. -/
theorem denotes_of_onGrid? {units multiple n : Nat} {point : Int} (h : onGrid? units point n = some multiple) :
    Denotes units multiple (point - n) := by
  unfold onGrid? at h
  dsimp only at h
  generalize 4 * units * pow10 (-(point - n)).toNat / (quartersPerOne * pow10 (point - n).toNat) = lower at h
  generalize low : ((interval units).contains (lower * (quartersPerOne * pow10 (point - n).toNat))
    (pow10 (-(point - n)).toNat) && lower != 0) = lowerFits at h
  generalize up : (interval units).contains ((lower + 1) * (quartersPerOne * pow10 (point - n).toNat))
    (pow10 (-(point - n)).toNat) = upperFits at h
  have lowerDenotes (fits : lowerFits = true) : Denotes units lower (point - n) := by
    rw [fits, Bool.and_eq_true, bne_iff_ne] at low
    exact ⟨low.2, low.1⟩
  have upperDenotes (fits : upperFits = true) : Denotes units (lower + 1) (point - n) :=
    ⟨Nat.succ_ne_zero _, up.trans fits⟩
  split at h
  · next both =>
    rw [Bool.and_eq_true] at both
    have result : multiple = lower ∨ multiple = lower + 1 := by
      split at h <;> (try split at h) <;> cases h <;> omega
    rcases result with rfl | rfl
    · exact lowerDenotes both.1
    · exact upperDenotes both.2
  · split at h
    · next fits => cases h; exact lowerDenotes fits
    · split at h
      · next fits => cases h; exact upperDenotes fits
      · cases h

/-- The step of the grid of seventeen digits, in proportion to the magnitude. -/
theorem step_seventeen_le {units : Nat} (pos : 0 < units) {point : Int} (h : point = decimalPoint units) :
    quartersPerOne * pow10 (point - (17 : Nat)).toNat * 10 ^ 16 ≤ 4 * units * pow10 (-(point - (17 : Nat))).toNat := by
  have first := unitsPerOne_le pos
  rw [← h] at first
  have powers : (point - 1).toNat + (-(point - (17 : Nat))).toNat =
      (point - (17 : Nat)).toNat + 16 + (1 - point).toNat := by omega
  refine Nat.le_of_mul_le_mul_right ?_ (pow10_pos (1 - point).toNat)
  calc
    _ = quartersPerOne * pow10 ((point - (17 : Nat)).toNat + 16 + (1 - point).toNat) := by
      rw [pow10_add, pow10_add, show pow10 16 = 10 ^ 16 from rfl]; ring
    _ = unitsPerOne * pow10 (point - 1).toNat * (4 * pow10 (-(point - (17 : Nat))).toNat) := by
      rw [← powers, pow10_add, quartersPerOne]; ring
    _ ≤ units * pow10 (1 - point).toNat * (4 * pow10 (-(point - (17 : Nat))).toNat) := Nat.mul_le_mul_right _ first
    _ = _ := by ring

/-- A grid whose step is shorter than the interval meets it, in one of the neighbours of the magnitude. -/
theorem neighbour_inside {units step den lower rest : Nat} (h : Representable units)
    (fine : step * 10 ^ 16 ≤ 4 * units * den) (parts : step * lower + rest = 4 * units * den) (restLt : rest < step)
    (lowerPos : 0 < lower) :
    (interval units).contains (lower * step) den = true ∨ (interval units).contains ((lower + 1) * step) den = true := by
  obtain ⟨m, sig⟩ := h.exists_significand
  generalize droppedBits units = d at sig
  have scaled : 4 * units * den = 4 * (m * (den * 2 ^ d)) := by rw [sig.eq]; ring
  have low : (interval units).low * den = 4 * units * den - (if d ≠ 0 ∧ m = 2 ^ 52 then 1 else 2) * (den * 2 ^ d) := by
    rw [interval_low sig, Nat.sub_mul, Nat.mul_assoc (ite _ _ _), Nat.mul_comm (2 ^ d)]
  have high : (interval units).high * den = 4 * units * den + 2 * (den * 2 ^ d) := by
    rw [interval_high sig, Nat.add_mul, Nat.mul_assoc 2, Nat.mul_comm (2 ^ d)]
  have before : step * lower = lower * step := Nat.mul_comm _ _
  have after : (lower + 1) * step = lower * step + step := Nat.succ_mul _ _
  have positive : 0 < lower * step := Nat.mul_pos lowerPos (by omega)
  have bound := Nat.mul_le_mul_right (den * 2 ^ d) (Nat.le_sub_one_of_lt sig.lt)
  have width : step < (if d ≠ 0 ∧ m = 2 ^ 52 then 1 else 2) * (den * 2 ^ d) + 2 * (den * 2 ^ d) := by
    split
    · next corner => rw [scaled, corner.2] at fine; omega
    · omega
  generalize (if d ≠ 0 ∧ m = 2 ^ 52 then 1 else 2) * (den * 2 ^ d) = below at low width
  by_cases near : rest < below
  · left
    refine Interval.contains_of_lt ?_ ?_ <;> omega
  · right
    refine Interval.contains_of_lt ?_ ?_ <;> omega

theorem onGrid?_seventeen {units : Nat} (h : Representable units) (pos : 0 < units) :
    ∃ multiple, onGrid? units (decimalPoint units) 17 = some multiple := by
  have fine := step_seventeen_le pos rfl
  have stepPos : 0 < quartersPerOne * pow10 (decimalPoint units - (17 : Nat)).toNat :=
    Nat.mul_pos (Nat.mul_pos (by decide) unitsPerOne_pos) (pow10_pos _)
  unfold onGrid?
  dsimp only
  generalize pow10 (-(decimalPoint units - (17 : Nat))).toNat = den at fine ⊢
  generalize quartersPerOne * pow10 (decimalPoint units - (17 : Nat)).toNat = step at fine stepPos ⊢
  have lowerPos : 0 < 4 * units * den / step := Nat.div_pos (by omega) stepPos
  have fits := neighbour_inside h fine (Nat.div_add_mod _ _) (Nat.mod_lt _ stepPos) lowerPos
  generalize 4 * units * den / step = lower at lowerPos fits ⊢
  have nonzero : (lower != 0) = true := by simpa using Nat.ne_of_gt lowerPos
  rw [nonzero, Bool.and_true]
  generalize (interval units).contains (lower * step) den = lowerFits at fits ⊢
  generalize (interval units).contains ((lower + 1) * step) den = upperFits at fits ⊢
  cases lowerFits <;> cases upperFits
  · simp at fits
  · exact ⟨_, rfl⟩
  · exact ⟨_, rfl⟩
  · rw [if_pos rfl]
    split_ifs <;> exact ⟨_, rfl⟩

def value (digits : List Nat) : Nat := digits.foldl (fun n d => 10 * n + d) 0

theorem foldl_replicate_zero (n zeros : Nat) :
    (List.replicate zeros 0).foldl (fun n d => 10 * n + d) n = n * pow10 zeros := by
  induction zeros generalizing n with
  | zero => simp [pow10]
  | succ zeros ih => rw [List.replicate_succ, List.foldl_cons, ih, Nat.add_comm zeros, pow10_add]; simp [pow10]; ring

theorem value_append_zeros (digits : List Nat) (zeros : Nat) :
    value (digits ++ List.replicate zeros 0) = value digits * pow10 zeros := by
  rw [value, List.foldl_append, foldl_replicate_zero, value]

/-- The digits of a positive number are its significant ones and zeros. -/
theorem significant_append_zeros (n : Nat) :
    ∃ zeros, significant n ++ List.replicate zeros 0 = (Nat.toDigits 10 n).map fun c => c.toNat - '0'.toNat := by
  unfold significant
  generalize (Nat.toDigits 10 n).map (fun c => c.toNat - '0'.toNat) = digits
  refine ⟨(digits.reverse.takeWhile (· == 0)).length, ?_⟩
  have zeros : (digits.reverse.takeWhile (· == 0)).reverse =
      List.replicate (digits.reverse.takeWhile (· == 0)).length 0 := by
    refine List.eq_replicate_iff.2 ⟨List.length_reverse, fun d listed => ?_⟩
    have all := List.all_takeWhile (p := (· == 0)) (l := digits.reverse)
    exact beq_iff_eq.1 (List.all_eq_true.1 all d (List.mem_reverse.1 listed))
  rw [← zeros, ← List.reverse_append, List.takeWhile_append_dropWhile, List.reverse_reverse]

theorem value_toDigits (n : Nat) : value ((Nat.toDigits 10 n).map fun c => c.toNat - '0'.toNat) = n := by
  rw [value, List.foldl_map]
  exact Nat.ofDigitChars_toDigits (by decide) (by decide)

theorem foldl_lt {digits : List Nat} (small : ∀ d ∈ digits, d < 10) (n : Nat) :
    digits.foldl (fun n d => 10 * n + d) n < (n + 1) * pow10 digits.length := by
  induction digits generalizing n with
  | nil => simp [pow10]
  | cons d digits ih =>
    have first := small d (.head _)
    calc
      _ < (10 * n + d + 1) * pow10 digits.length := ih (fun d listed => small d (.tail _ listed)) _
      _ ≤ (n + 1) * pow10 1 * pow10 digits.length := Nat.mul_le_mul_right _ (by rw [show pow10 1 = 10 from rfl]; omega)
      _ = (n + 1) * pow10 (digits.length + 1) := by rw [Nat.add_comm digits.length, pow10_add, Nat.mul_assoc]

theorem lt_of_mem_toDigits {n d : Nat} (h : d ∈ (Nat.toDigits 10 n).map fun c => c.toNat - '0'.toNat) : d < 10 := by
  obtain ⟨c, written, rfl⟩ := List.mem_map.1 h
  have digit := Nat.isDigit_of_mem_toDigits (by decide) (by decide) written
  rw [Char.isDigit, Bool.and_eq_true, decide_eq_true_eq, decide_eq_true_eq] at digit
  have most : c.toNat ≤ 57 := digit.2
  show c.toNat - 48 < 10
  omega

theorem head?_toDigits {n : Nat} (pos : 0 < n) :
    ((Nat.toDigits 10 n).map fun c => c.toNat - '0'.toNat).head? ≠ some 0 := by
  intro zero
  have count : ((Nat.toDigits 10 n).map fun c => c.toNat - '0'.toNat).length = digitCount n := List.length_map _
  have number := value_toDigits n
  have small := fun d => lt_of_mem_toDigits (n := n) (d := d)
  have first := pow10_le_of_digitCount pos
  generalize ((Nat.toDigits 10 n).map fun c => c.toNat - '0'.toNat) = digits at *
  obtain ⟨rest, rfl⟩ := List.head?_eq_some_iff.1 zero
  have lt := foldl_lt (show ∀ d ∈ rest, d < 10 from fun d listed => small d (.tail _ listed)) 0
  rw [value, List.foldl_cons] at number
  rw [← count] at first
  simp at lt number first
  omega

theorem lt_of_mem_significant {n d : Nat} (h : d ∈ significant n) : d < 10 := by
  obtain ⟨zeros, parts⟩ := significant_append_zeros n
  exact lt_of_mem_toDigits (parts ▸ List.mem_append_left _ h)

theorem head?_significant {n : Nat} (pos : 0 < n) : (significant n).head? ≠ some 0 := by
  intro zero
  obtain ⟨zeros, parts⟩ := significant_append_zeros n
  refine head?_toDigits pos ?_
  rw [← parts, List.head?_append, zero]
  rfl

structure DigitsOf (units : Nat) (d : Digits) : Prop where
  small : ∀ digit ∈ d.digits, digit < 10
  leading : d.digits.head? ≠ some 0
  denotes : Denotes units (value d.digits) (d.point - d.digits.length)

theorem digits_of_onGrid? {units multiple n : Nat} {point : Int} (h : onGrid? units point n = some multiple) :
    DigitsOf units ⟨significant multiple, point - n + digitCount multiple⟩ where
  small _ listed := lt_of_mem_significant listed
  leading := head?_significant (Nat.pos_of_ne_zero (denotes_of_onGrid? h).ne_zero)
  denotes := by
    obtain ⟨zeros, parts⟩ := significant_append_zeros multiple
    have number : value (significant multiple) * pow10 zeros = multiple := by
      rw [← value_append_zeros, parts, value_toDigits]
    have count : (significant multiple).length + zeros = digitCount multiple := by
      have := congrArg List.length parts
      simpa [digitCount] using this
    have found := denotes_of_onGrid? h
    rw [← number, denotes_shift] at found
    have place : point - n + digitCount multiple - (significant multiple).length = point - n + zeros := by omega
    exact place ▸ found

/-- The search ends with the first grid that has a decimal in the interval. -/
theorem search_of {units last : Nat} {point : Int} (found : ∃ multiple, onGrid? units point last = some multiple) :
    ∀ fuel n, n + fuel = last + 1 → n ≤ last → DigitsOf units (search units point n fuel)
  | 0, n, count, le => by omega
  | fuel + 1, n, count, le => by
    unfold search
    split
    · next multiple here => exact digits_of_onGrid? here
    · next missing =>
      refine search_of found fuel (n + 1) (by omega) ?_
      obtain ⟨multiple, here⟩ := found
      have : n ≠ last := by
        rintro rfl
        rw [missing] at here
        cases here
      omega

theorem digits_of {units : Nat} (h : Representable units) (pos : 0 < units) : DigitsOf units (digits units) :=
  search_of (onGrid?_seventeen h pos) 17 1 rfl (by decide)

end RecordSync.Shortest
