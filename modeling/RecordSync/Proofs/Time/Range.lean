import RecordSync.Proofs.Numeric.Parts
import RecordSync.Time.Instant

/-!
# The range of instants

Years have four digits, so an instant in milliseconds has less than 53 bits, and is the same number when it is made a
double.
-/

set_option autoImplicit false

namespace RecordSync

namespace Decimal

theorem appendDigits_lt {digits : List Char} (all : AllDigits digits) {n bound : Nat} (h : n < bound) :
    appendDigits n digits < bound * 10 ^ digits.length := by
  induction digits generalizing n bound with
  | nil => simpa [appendDigits] using h
  | cons c rest ih =>
    have value : c.toNat - '0'.toNat < 10 :=
      forall_isDigit (P := fun c => c.toNat - '0'.toNat < 10) (by decide) (all c (.head _))
    have next : 10 * n + (c.toNat - '0'.toNat) < bound * 10 := by omega
    have step := ih (fun c listed => all c (.tail _ listed)) next
    rw [List.length_cons, Nat.pow_succ']
    rwa [Nat.mul_assoc] at step

end Decimal

namespace Timestamp

theorem readFixed_lt {count n : Nat} {cs rest : List Char} (h : readFixed count cs = some (n, rest)) :
    n < 10 ^ count := by
  unfold readFixed at h
  dsimp only at h
  split at h
  · next digits =>
    cases h
    have all := Decimal.appendDigits_lt (List.all_eq_true.1 digits.2) Nat.zero_lt_one
    rwa [digits.1, Nat.one_mul] at all
  · cases h

theorem readFraction_lt {n : Nat} {cs rest : List Char} (h : readFraction cs = some (n, rest)) : n < 1000 := by
  unfold readFraction at h
  split at h
  · next chars =>
    dsimp only at h
    split at h
    · cases h
    · cases h
      have digits : Decimal.AllDigits (((Decimal.takeDigits chars).1 ++ ['0', '0']).take 3) := by
        intro c listed
        rcases List.mem_append.1 (List.mem_of_mem_take listed) with read | zero
        · exact List.all_eq_true.1 List.all_takeWhile c read
        · exact Decimal.allDigits_zeros 2 c zero
      have all := Decimal.appendDigits_lt digits Nat.zero_lt_one
      rw [Nat.one_mul] at all
      exact all.trans_le (Nat.pow_le_pow_right (by decide) (List.length_take_le 3 _))
  · cases h
    decide

theorem daysInMonth_le (year month : Nat) : daysInMonth year month ≤ 31 := by
  unfold daysInMonth
  split
  · split <;> decide
  all_goals decide

theorem daysBeforeMonth_le (year month : Nat) : daysBeforeMonth year month ≤ 31 * (month - 1) := by
  unfold daysBeforeMonth
  induction month - 1 with
  | zero => simp
  | succ n ih =>
    rw [List.range_succ, List.foldl_append]
    have most := daysInMonth_le year (n + 1)
    simp only [List.foldl_cons, List.foldl_nil]
    omega

structure InRange (t : Timestamp) : Prop where
  year : t.year < 10000
  millis : t.millis < 1000
  valid : t.isValid = true

theorem inRange_of_read? {text : String} {t : Timestamp} (h : read? text = some t) : t.InRange := by
  unfold read? at h
  obtain ⟨⟨year, _⟩, readYear, h⟩ := Option.bind_eq_some_iff.1 h
  iterate 10 obtain ⟨⟨_, _⟩, -, h⟩ := Option.bind_eq_some_iff.1 h
  obtain ⟨⟨millis, _⟩, readMillis, h⟩ := Option.bind_eq_some_iff.1 h
  obtain ⟨⟨_, _⟩, -, made⟩ := Option.bind_eq_some_iff.1 h
  dsimp only at made
  split at made
  · next complete =>
    cases made
    exact ⟨readFixed_lt readYear, readFraction_lt readMillis, (Bool.and_eq_true_iff.1 complete).2⟩
  · cases made

theorem InRange.natAbs_toMillis_lt {t : Timestamp} (h : t.InRange) : t.toMillis.natAbs < 2 ^ 53 := by
  obtain ⟨year, millis, valid⟩ := h
  simp only [isValid, Bool.and_eq_true, decide_eq_true_eq] at valid
  have monthDays := daysBeforeMonth_le t.year t.month
  have days := daysInMonth_le t.year t.month
  have dayNumber : -730000 ≤ t.dayNumber ∧ t.dayNumber ≤ 3700000 := by
    unfold dayNumber daysBeforeYear
    omega
  unfold toMillis
  omega

end Timestamp

theorem natAbs_lt_of_parseInstant? {text : String} {millis : Int} (h : parseInstant? text = some millis) :
    millis.natAbs < 2 ^ 53 := by
  obtain ⟨t, read, rfl⟩ := Option.map_eq_some_iff.1 h
  exact (Timestamp.inRange_of_read? read).natAbs_toMillis_lt

end RecordSync
