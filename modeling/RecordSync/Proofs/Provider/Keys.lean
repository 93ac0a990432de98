import RecordSync.Proofs.Json.WellFormed
import RecordSync.Proofs.Numeric.Integral
import RecordSync.Proofs.Provider.Rows

/-!
# Keys of the same value

A key is read from a value and matched against others. Texts, and numbers of which one is less than `2 ^ 53` away from
zero, match exactly when they are the same. Farther numbers match when their nearest doubles are the same, after what is
beyond `2 ^ 63` has been brought there.
-/

set_option autoImplicit false

namespace RecordSync

open Binary64

namespace Number

variable {x y : Number}

def FitsKey (x : Number) : Prop := x.exactUnits.natAbs ≤ 2 ^ 63 * unitsPerOne

def keyDouble (x : Number) : Double :=
  if 2 ^ 63 * unitsPerOne < x.exactUnits then .ofInt (2 ^ 63)
  else if x.exactUnits < -(2 ^ 63 * unitsPerOne) then .ofInt (-2 ^ 63)
  else x.toDouble

theorem keyDouble_of_fitsKey (fits : x.FitsKey) : x.keyDouble = x.toDouble := by
  unfold FitsKey at fits
  rw [keyDouble, if_neg (by omega), if_neg (by omega)]

theorem numEq_toDouble_of_same (hx : (Json.num x).WellFormed) (hy : (Json.num y).WellFormed)
    (same : x.exactUnits = y.exactUnits) : x.toDouble.numEq y.toDouble = true := by
  cases x with
  | int m =>
    cases y with
    | int n =>
      exact eq_of_mul_unitsPerOne same ▸ Double.numEq_self (Double.ofInt_ne_nan m)
    | double y =>
      obtain ⟨z, nearest, value⟩ := Double.ofInt_eq_of_signedUnits hy same.symm
      rw [toDouble, toDouble, nearest, Double.numEq_finite, value]
  | double x =>
    cases y with
    | int n =>
      obtain ⟨z, nearest, value⟩ := Double.ofInt_eq_of_signedUnits hx same
      rw [toDouble, toDouble, nearest, Double.numEq_finite, value]
    | double y => exact Double.numEq_finite.2 same

end Number

theorem clampSigned64_of_near {n : Int} (near : n.natAbs < 2 ^ 53) : clampSigned64 n = n := by
  unfold clampSigned64
  split_ifs <;> omega

theorem le_clampSigned64_of_far {n : Int} (far : 2 ^ 53 ≤ n.natAbs) : 2 ^ 53 ≤ (clampSigned64 n).natAbs := by
  unfold clampSigned64
  split_ifs <;> omega

theorem ofInt_clampSigned64_of_lt {n : Int} (beyond : 2 ^ 63 < n) : Double.ofInt (clampSigned64 n) = .ofInt (2 ^ 63) := by
  have last : clampSigned64 n = 0x7fffffffffffffff := by
    unfold clampSigned64
    split_ifs <;> omega
  rw [last]
  decide +kernel

theorem ofInt_clampSigned64_of_le {n : Int} (low : -2 ^ 63 ≤ n) (high : n ≤ 2 ^ 63) :
    Double.ofInt (clampSigned64 n) = .ofInt n := by
  by_cases last : n = 2 ^ 63
  · subst last
    decide +kernel
  · have within : clampSigned64 n = n := by
      unfold clampSigned64
      split_ifs <;> omega
    rw [within]

namespace PrimaryKey

variable {v w : Json} {key : PrimaryKey}

def Same : Json → Option Json → Prop
  | .str s, some (.str t) => s = t
  | .num x, some (.num y) => x.exactUnits = y.exactUnits
  | _, _ => False

def Far : Json → Prop
  | .num x => ¬x.IsNear
  | _ => False

/-- A key is read from a text, or from a number that is integral. -/
theorem ofValue?_cases (read : ofValue? v = some key) :
    (∃ s, v = .str s ∧ key = .text s) ∨
      ∃ (x : Number) (n : Int), v = .num x ∧ x.exactUnits = n * unitsPerOne ∧ key = .number (clampSigned64 n) := by
  cases v with
  | str s =>
    cases read
    exact .inl ⟨s, rfl, rfl⟩
  | num x =>
    cases x with
    | int n =>
      cases read
      exact .inr ⟨.int n, n, rfl, rfl, rfl⟩
    | double x =>
      obtain ⟨n, whole, rfl⟩ := Option.map_eq_some_iff.1 read
      exact .inr ⟨.double x, n, rfl, Double.signedUnits_of_toInt? whole, rfl⟩
  | _ => cases read

/-- Unless both are far, a key matches exactly the values that are the same. -/
theorem matchesValue_iff_same (read : ofValue? v = some key) (close : ¬(Far v ∧ Far w)) :
    key.matchesValue (some w) = true ↔ Same v (some w) := by
  obtain ⟨s, rfl, rfl⟩ | ⟨x, n, rfl, exact, rfl⟩ := ofValue?_cases read
  · cases w with
    | str t => exact beq_iff_eq
    | _ => exact iff_of_false Bool.false_ne_true id
  · cases w with
    | num y =>
      show y.toDouble.numEq (Number.int (clampSigned64 n)).toDouble = true ↔ x.exactUnits = y.exactUnits
      have same : x.exactUnits = (Number.int n).exactUnits := exact
      have near : x.IsNear ↔ n.natAbs < 2 ^ 53 := by rw [← Number.isNear_int, Number.IsNear, same, Number.IsNear]
      by_cases small : n.natAbs < 2 ^ 53
      · rw [clampSigned64_of_near small, Number.numEq_toDouble_iff (.inr (Number.isNear_int.2 small)), same, eq_comm]
      · -- the key stays far, so it can only be compared with what is near
        have hy : y.IsNear := Classical.byContradiction fun hy => close ⟨fun hx => small (near.1 hx), hy⟩
        have far : ¬(Number.int (clampSigned64 n)).IsNear := fun within =>
          Nat.not_lt.2 (le_clampSigned64_of_far (Nat.not_lt.1 small)) (Number.isNear_int.1 within)
        exact iff_of_false (Number.not_numEq_toDouble hy far) (Number.exactUnits_ne hy fun hx => small (near.1 hx)).symm
    | _ => exact iff_of_false Bool.false_ne_true id

/-- What a key that is read from a number matches, however large the numbers are. -/
theorem matchesValue_number {x y : Number} (wellFormed : (Json.num x).WellFormed)
    (read : ofValue? (.num x) = some key) :
    key.matchesValue (some (.num y)) = y.toDouble.numEq x.keyDouble := by
  obtain ⟨s, wrong, -⟩ | ⟨x', n, same, exact, rfl⟩ := ofValue?_cases read
  · cases wrong
  · cases same
    show y.toDouble.numEq (.ofInt (clampSigned64 n)) = _
    have scale : 0 < (unitsPerOne : Int) := Int.natCast_pos.2 Shortest.unitsPerOne_pos
    have above : 2 ^ 63 * unitsPerOne < x.exactUnits ↔ 2 ^ 63 < n := by rw [exact, Int.mul_lt_mul_right scale]
    have under : x.exactUnits < -(2 ^ 63 * unitsPerOne) ↔ n < -2 ^ 63 := by
      rw [exact, ← Int.neg_mul, Int.mul_lt_mul_right scale]
    unfold Number.keyDouble
    split_ifs with beyond below
    · rw [ofInt_clampSigned64_of_lt (above.1 beyond)]
    · have first : clampSigned64 n = -2 ^ 63 := by
        have low := under.1 below
        unfold clampSigned64
        split_ifs <;> omega
      rw [first]
    · rw [under, Int.not_lt] at below
      rw [above, Int.not_lt] at beyond
      rw [ofInt_clampSigned64_of_le below beyond]
      have wide : (Json.num (.int n)).WellFormed := by
        simp only [Json.WellFormed, fitsSigned64, fitsUnsigned64, Bool.or_eq_true, Bool.and_eq_true, decide_eq_true_eq]
        omega
      exact Double.numEq_congr (Number.numEq_toDouble_of_same wide wellFormed exact.symm) _

theorem matchesValue_of_near (read : ofValue? v = some key) (near : ¬Far v) (value : Option Json) :
    key.matchesValue value = true ↔ Same v value := by
  cases value with
  | none => exact iff_of_false (by cases key <;> exact Bool.false_ne_true) (by cases v <;> exact id)
  | some w => exact matchesValue_iff_same read fun both => near both.1

def Fits : Json → Prop
  | .str _ => True
  | .num x => x.FitsKey
  | _ => False

theorem matchesValue_of_same (hv : v.WellFormed) (hw : w.WellFormed) (fits : Fits v) (read : ofValue? v = some key)
    (same : Same v (some w)) : key.matchesValue (some w) = true := by
  cases v with
  | str s => exact (matchesValue_iff_same read And.left).2 same
  | num x =>
    cases w with
    | num y =>
      rw [matchesValue_number hv read, Number.keyDouble_of_fitsKey fits]
      exact Number.numEq_toDouble_of_same hw hv (Eq.symm same)
    | _ => cases same
  | _ => cases fits

theorem same_self (read : ofValue? v = some key) : Same v (some v) := by
  obtain ⟨s, rfl, -⟩ | ⟨x, n, rfl, -⟩ := ofValue?_cases read <;> rfl

structure First {α : Type} (keyOf : α → Option Json) (v : Json) (all before : List α) (found : α) (after : List α) :
    Prop where
  split : all = before ++ found :: after
  same : Same v (keyOf found)
  others : ∀ other ∈ before, ¬Same v (keyOf other)

/-- It is the item itself that the key was read from, unless the item has a predecessor of the same key. -/
theorem exists_first {α : Type} {keyOf : α → Option Json} {all : List α} {item : α} (listed : item ∈ all)
    (own : keyOf item = some v) (read : ofValue? v = some key) (near : ¬Far v) :
    ∃ before found after, First keyOf v all before found after ∧ (found = item ∨ item ∈ after) := by
  have law (other : α) : key.matchesValue (keyOf other) = true ↔ Same v (keyOf other) :=
    matchesValue_of_near read near (keyOf other)
  have itself : Same v (keyOf item) := own ▸ same_self read
  obtain ⟨found, before, after, others, here, split, -⟩ :=
    @List.exists_of_eraseP α (fun other => key.matchesValue (keyOf other)) all item listed ((law item).2 itself)
  have fresh : ∀ other ∈ before, ¬Same v (keyOf other) := fun other ho same => others other ho ((law other).2 same)
  refine ⟨before, found, after, ⟨split, (law found).1 here, fresh⟩, ?_⟩
  rw [split, List.mem_append, List.mem_cons] at listed
  obtain front | same | behind := listed
  · exact absurd itself (fresh item front)
  · exact .inl same.symm
  · exact .inr behind

end PrimaryKey

namespace Rows

variable {v : Json} {key : PrimaryKey} {r : Rows} {before after : List Entity} {found : Entity}

def keyValue (r : Rows) (row : Entity) : Option Json := KeyMap.get? row r.primary

theorem locates_of_first (read : PrimaryKey.ofValue? v = some key) (near : ¬PrimaryKey.Far v)
    (first : PrimaryKey.First r.keyValue v r.entities before found after) : r.Locates key before found after where
  split := first.split
  found := (PrimaryKey.matchesValue_of_near read near _).2 first.same
  first := fun other ho => Bool.eq_false_iff.2 fun hit =>
    first.others other ho ((PrimaryKey.matchesValue_of_near read near _).1 hit)

end Rows

end RecordSync
