import RecordSync.Identity

/-!
# Identifiers are distinct

Two numbers never have the same identifier: the number can be read back from its digits.
-/

set_option autoImplicit false

namespace RecordSync.IdSupply

def digitValue (c : Char) : Nat := ((List.range 16).find? fun d => Nat.digitChar d == c).getD 0

theorem digitValue_digitChar {d : Nat} (h : d < 16) : digitValue (Nat.digitChar d) = d := by
  have all : ∀ d < 16, digitValue (Nat.digitChar d) = d := by decide
  exact all d h

def valueOf (digits : List Char) : Nat := digits.foldl (fun n c => 16 * n + digitValue c) 0

theorem valueOf_toDigits (n : Nat) : valueOf (Nat.toDigits 16 n) = n := by
  induction n using Nat.strongRecOn with
  | ind n ih =>
    by_cases small : n < 16
    · rw [Nat.toDigits_of_lt_base small]
      show 16 * 0 + digitValue (Nat.digitChar n) = n
      rw [digitValue_digitChar small]
      omega
    · have less : n / 16 < n := by omega
      rw [Nat.toDigits_of_base_le (by omega) (by omega), valueOf, List.foldl_append]
      show 16 * valueOf (Nat.toDigits 16 (n / 16)) + digitValue (Nat.digitChar (n % 16)) = n
      rw [ih _ less, digitValue_digitChar (Nat.mod_lt n (by omega))]
      omega

theorem valueOf_zeros (zeros : Nat) (digits : List Char) :
    valueOf (List.replicate zeros '0' ++ digits) = valueOf digits := by
  induction zeros with
  | zero => rfl
  | succ zeros ih =>
    have zero : 16 * 0 + digitValue '0' = 0 := by decide
    rw [← ih, List.replicate_succ, List.cons_append, valueOf, List.foldl_cons, zero, valueOf]

theorem text_injective {purpose : IdPurpose} {a b : Nat} (h : text purpose a = text purpose b) : a = b := by
  have digits := String.ofList_injective ((String.append_right_inj _).1 h)
  have values := congrArg valueOf digits
  rwa [valueOf_zeros, valueOf_zeros, valueOf_toDigits, valueOf_toDigits] at values

theorem text_ne_empty (purpose : IdPurpose) (number : Nat) : text purpose number ≠ "" := by
  intro empty
  have front : leader purpose = "" := (String.append_eq_empty_iff.1 empty).1
  cases purpose <;> exact absurd front (by decide)

end RecordSync.IdSupply
