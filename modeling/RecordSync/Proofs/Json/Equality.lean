import RecordSync.Json.Basic
import RecordSync.Proofs.KeyMap

/-!
# Equality of JSON values

Values are equal when they agree field by field and element by element. Equality is coarser than identity, since
the two zeros are equal, but it is an equivalence, and two objects in key order are equal exactly when they show equal
fields under all names.
-/

set_option autoImplicit false

namespace RecordSync

namespace Number

theorem beq_int (a b : Int) : (Number.int a == Number.int b) = (a == b) := rfl

theorem beq_double (a b : FiniteDouble) : (Number.double a == Number.double b) = (a == b) := rfl

instance : EquivBEq Number where
  rfl := by
    intro a
    cases a with
    | int n => rw [beq_int]; exact beq_self_eq_true n
    | double x => rw [beq_double, FiniteDouble.beq_iff]
  symm := by
    intro a b h
    cases a <;> cases b <;> try cases h
    · rw [beq_int, beq_iff_eq] at h ⊢
      exact h.symm
    · rw [beq_double, FiniteDouble.beq_iff] at h ⊢
      exact h.symm
  trans := by
    intro a b c h k
    cases a <;> cases b <;> (try cases h) <;> cases c <;> try cases k
    · rw [beq_int, beq_iff_eq] at h k ⊢
      exact h.trans k
    · rw [beq_double, FiniteDouble.beq_iff] at h k ⊢
      exact h.trans k

end Number

namespace Json

mutual

theorem equal_refl : (j : Json) → equal j j = true
  | .null => rfl
  | .bool b => by simp [equal]
  | .num n => by simp [equal]
  | .str s => by simp [equal]
  | .arr items => by rw [equal]; exact equalItems_refl items
  | .obj fields => by rw [equal]; exact equalFields_refl fields

theorem equalItems_refl : (items : List Json) → equalItems items items = true
  | [] => rfl
  | j :: rest => by rw [equalItems, equal_refl j, equalItems_refl rest]; rfl

theorem equalFields_refl : (fields : List (String × Json)) → equalFields fields fields = true
  | [] => rfl
  | (k, j) :: rest => by rw [equalFields, equal_refl j, equalFields_refl rest]; simp

end

mutual

theorem equal_symm : (a b : Json) → equal a b = true → equal b a = true
  | .null, b, h => by cases b <;> simp_all [equal]
  | .bool a, b, h => by cases b <;> simp_all [equal]
  | .num a, b, h => by
    cases b with
    | num b => rw [equal] at h ⊢; exact BEq.symm h
    | _ => simp [equal] at h
  | .str a, b, h => by cases b <;> simp_all [equal]
  | .arr a, b, h => by
    cases b with
    | arr b => rw [equal] at h ⊢; exact equalItems_symm a b h
    | _ => simp [equal] at h
  | .obj a, b, h => by
    cases b with
    | obj b => rw [equal] at h ⊢; exact equalFields_symm a b h
    | _ => simp [equal] at h

theorem equalItems_symm : (a b : List Json) → equalItems a b = true → equalItems b a = true
  | [], b, h => by cases b <;> simp_all [equalItems]
  | a :: as, [], h => by simp [equalItems] at h
  | a :: as, b :: bs, h => by
    rw [equalItems, Bool.and_eq_true] at h ⊢
    exact ⟨equal_symm a b h.1, equalItems_symm as bs h.2⟩

theorem equalFields_symm : (a b : List (String × Json)) → equalFields a b = true → equalFields b a = true
  | [], b, h => by cases b <;> simp_all [equalFields]
  | a :: as, [], h => by simp [equalFields] at h
  | (k, a) :: as, (l, b) :: bs, h => by
    rw [equalFields, Bool.and_eq_true, Bool.and_eq_true] at h ⊢
    exact ⟨⟨BEq.symm h.1.1, equal_symm a b h.1.2⟩, equalFields_symm as bs h.2⟩

end

mutual

theorem equal_trans : (a b c : Json) → equal a b = true → equal b c = true → equal a c = true
  | .null, b, c, h, k => by
    cases b with
    | null => exact k
    | _ => simp [equal] at h
  | .bool a, b, c, h, k => by
    cases b with
    | bool b =>
      rw [equal, beq_iff_eq] at h
      exact h ▸ k
    | _ => simp [equal] at h
  | .num a, b, c, h, k => by
    cases b with
    | num b =>
      cases c with
      | num c => rw [equal] at h k ⊢; exact BEq.trans h k
      | _ => simp [equal] at k
    | _ => simp [equal] at h
  | .str a, b, c, h, k => by
    cases b with
    | str b =>
      rw [equal, beq_iff_eq] at h
      exact h ▸ k
    | _ => simp [equal] at h
  | .arr a, b, c, h, k => by
    cases b with
    | arr b =>
      cases c with
      | arr c => rw [equal] at h k ⊢; exact equalItems_trans a b c h k
      | _ => simp [equal] at k
    | _ => simp [equal] at h
  | .obj a, b, c, h, k => by
    cases b with
    | obj b =>
      cases c with
      | obj c => rw [equal] at h k ⊢; exact equalFields_trans a b c h k
      | _ => simp [equal] at k
    | _ => simp [equal] at h

theorem equalItems_trans : (a b c : List Json) →
    equalItems a b = true → equalItems b c = true → equalItems a c = true
  | [], b, c, h, k => by cases b <;> simp_all [equalItems]
  | a :: as, [], c, h, k => by simp [equalItems] at h
  | a :: as, b :: bs, [], h, k => by simp [equalItems] at k
  | a :: as, b :: bs, c :: cs, h, k => by
    rw [equalItems, Bool.and_eq_true] at h k ⊢
    exact ⟨equal_trans a b c h.1 k.1, equalItems_trans as bs cs h.2 k.2⟩

theorem equalFields_trans : (a b c : List (String × Json)) →
    equalFields a b = true → equalFields b c = true → equalFields a c = true
  | [], b, c, h, k => by cases b <;> simp_all [equalFields]
  | a :: as, [], c, h, k => by simp [equalFields] at h
  | a :: as, b :: bs, [], h, k => by simp [equalFields] at k
  | (j, a) :: as, (l, b) :: bs, (m, c) :: cs, h, k => by
    rw [equalFields, Bool.and_eq_true, Bool.and_eq_true] at h k ⊢
    exact ⟨⟨BEq.trans h.1.1 k.1.1, equal_trans a b c h.1.2 k.1.2⟩, equalFields_trans as bs cs h.2 k.2⟩

end

instance : EquivBEq Json where
  rfl := fun {a} => equal_refl a
  symm := fun {a b} => equal_symm a b
  trans := fun {a b c} => equal_trans a b c

instance : EquivBEq (Option Json) where
  rfl := by
    intro a
    cases a with
    | none => rfl
    | some a => exact equal_refl a
  symm := by
    intro a b h
    cases a with
    | none => cases b <;> simp_all
    | some a =>
      cases b with
      | none => cases h
      | some b => exact equal_symm a b h
  trans := by
    intro a b c h k
    cases b with
    | none => cases a <;> simp_all
    | some b =>
      cases a with
      | none => cases h
      | some a =>
        cases c with
        | none => cases k
        | some c => exact equal_trans a b c h k

theorem get?_of_equalFields {a b : Object} (h : equalFields a b = true) (key : String) :
    (KeyMap.get? a key == KeyMap.get? b key) = true := by
  induction a generalizing b with
  | nil =>
    cases b with
    | nil => rfl
    | cons _ _ => simp [equalFields] at h
  | cons entry as ih =>
    obtain ⟨k, x⟩ := entry
    cases b with
    | nil => simp [equalFields] at h
    | cons other bs =>
      obtain ⟨l, y⟩ := other
      rw [equalFields, Bool.and_eq_true, Bool.and_eq_true, beq_iff_eq] at h
      obtain ⟨⟨rfl, equal⟩, rest⟩ := h
      rw [KeyMap.get?_cons, KeyMap.get?_cons]
      split
      · exact equal
      · exact ih rest

/-- The least name decides: it stands first in both objects or in neither. -/
theorem eq_of_beq_get? {a b : Object} {k l : String} {x y : Json} (ha : KeyMap.Ordered ((k, x) :: a))
    (hb : KeyMap.Ordered ((l, y) :: b))
    (h : ∀ key, (KeyMap.get? ((k, x) :: a) key == KeyMap.get? ((l, y) :: b) key) = true) : k = l := by
  apply Decidable.byContradiction
  intro hne
  by_cases lt : k < l
  · have shown := h k
    rw [hb.get?_of_lt lt, KeyMap.get?_cons, if_pos rfl] at shown
    simp at shown
  · have shown := h l
    rw [ha.get?_of_lt (KeyMap.key_lt_of_not_lt lt (Ne.symm hne)), KeyMap.get?_cons, if_pos rfl] at shown
    simp at shown

theorem equalFields_of_get? {a b : Object} (ha : KeyMap.Ordered a) (hb : KeyMap.Ordered b)
    (h : ∀ key, (KeyMap.get? a key == KeyMap.get? b key) = true) : equalFields a b = true := by
  induction a generalizing b with
  | nil =>
    cases b with
    | nil => rfl
    | cons other bs =>
      have shown := h other.1
      rw [KeyMap.get?_cons, if_pos rfl] at shown
      simp at shown
  | cons entry as ih =>
    obtain ⟨k, x⟩ := entry
    cases b with
    | nil =>
      have shown := h k
      rw [KeyMap.get?_cons, if_pos rfl] at shown
      simp at shown
    | cons other bs =>
      obtain ⟨l, y⟩ := other
      obtain rfl := eq_of_beq_get? ha hb h
      have first := h k
      rw [KeyMap.get?_cons, KeyMap.get?_cons, if_pos rfl, if_pos rfl] at first
      have rest : equalFields as bs = true := by
        refine ih ha.tail hb.tail fun key => ?_
        by_cases hk : k = key
        · subst hk
          rw [ha.get?_tail, hb.get?_tail]
          rfl
        · have shown := h key
          rwa [KeyMap.get?_cons, KeyMap.get?_cons, if_neg hk, if_neg hk] at shown
      rw [equalFields, rest, show equal x y = true from first]
      simp

end Json

def Number.plainZero : Number → Bool
  | .int _ => true
  | .double x => !(x.negative && x.isZero)

theorem FiniteDouble.units_ne_zero {m : Nat} (h : (Number.double ⟨true, m⟩).plainZero = true) : m ≠ 0 := by
  rintro rfl
  cases h

theorem FiniteDouble.eq_of_beq {x y : FiniteDouble} (hx : (Number.double x).plainZero = true)
    (hy : (Number.double y).plainZero = true) (h : (x == y) = true) : x = y := by
  rw [beq_iff] at h
  obtain ⟨s, m⟩ := x
  obtain ⟨t, n⟩ := y
  have signs : s = t := by
    cases s with
    | false =>
      cases t with
      | false => rfl
      | true =>
        have opposite : (m : Int) = -n := h
        have nonzero := units_ne_zero hy
        omega
    | true =>
      cases t with
      | false =>
        have opposite : -(m : Int) = n := h
        have nonzero := units_ne_zero hx
        omega
      | true => rfl
  have units : m = n := by
    simp only [signedUnits, signs] at h
    split at h <;> omega
  rw [signs, units]

theorem Number.eq_of_beq {m n : Number} (hm : m.plainZero = true) (hn : n.plainZero = true) (h : (m == n) = true) :
    m = n := by
  cases m with
  | int a =>
    cases n with
    | int b =>
      rw [beq_int, beq_iff_eq] at h
      rw [h]
    | double y => cases h
  | double x =>
    cases n with
    | int b => cases h
    | double y =>
      rw [beq_double] at h
      rw [FiniteDouble.eq_of_beq hm hn h]

namespace Json

mutual

def plainZeros : Json → Bool
  | .num n => n.plainZero
  | .arr items => plainZerosOfItems items
  | .obj fields => plainZerosOfFields fields
  | _ => true

def plainZerosOfItems : List Json → Bool
  | [] => true
  | j :: rest => plainZeros j && plainZerosOfItems rest

def plainZerosOfFields : List (String × Json) → Bool
  | [] => true
  | (_, j) :: rest => plainZeros j && plainZerosOfFields rest

end

mutual

theorem eq_of_equal : (a b : Json) → plainZeros a = true → plainZeros b = true → equal a b = true → a = b
  | .null, b, _, _, h => by cases b <;> simp_all [equal]
  | .bool a, b, _, _, h => by cases b <;> simp_all [equal]
  | .num a, b, ha, hb, h => by
    cases b with
    | num b => rw [Number.eq_of_beq ha hb h]
    | _ => simp [equal] at h
  | .str a, b, _, _, h => by cases b <;> simp_all [equal]
  | .arr a, b, ha, hb, h => by
    cases b with
    | arr b => rw [eq_of_equalItems a b ha hb h]
    | _ => simp [equal] at h
  | .obj a, b, ha, hb, h => by
    cases b with
    | obj b => rw [eq_of_equalFields a b ha hb h]
    | _ => simp [equal] at h

theorem eq_of_equalItems : (a b : List Json) → plainZerosOfItems a = true → plainZerosOfItems b = true →
    equalItems a b = true → a = b
  | [], b, _, _, h => by cases b <;> simp_all [equalItems]
  | a :: as, [], _, _, h => by simp [equalItems] at h
  | a :: as, b :: bs, ha, hb, h => by
    rw [plainZerosOfItems, Bool.and_eq_true] at ha hb
    rw [equalItems, Bool.and_eq_true] at h
    rw [eq_of_equal a b ha.1 hb.1 h.1, eq_of_equalItems as bs ha.2 hb.2 h.2]

theorem eq_of_equalFields : (a b : List (String × Json)) → plainZerosOfFields a = true → plainZerosOfFields b = true →
    equalFields a b = true → a = b
  | [], b, _, _, h => by cases b <;> simp_all [equalFields]
  | a :: as, [], _, _, h => by simp [equalFields] at h
  | (k, a) :: as, (l, b) :: bs, ha, hb, h => by
    rw [plainZerosOfFields, Bool.and_eq_true] at ha hb
    rw [equalFields, Bool.and_eq_true, Bool.and_eq_true, beq_iff_eq] at h
    rw [h.1.1, eq_of_equal a b ha.1 hb.1 h.1.2, eq_of_equalFields as bs ha.2 hb.2 h.2]

end

end Json

end RecordSync
