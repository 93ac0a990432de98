import RecordSync.Unicode.Ranges

/-!
# Operations on sets of characters

Union, intersection, difference and complement of sets that are given as ranges. Code points that are not
characters are stepped over: the character after U+D7FF is U+E000. `covers_coalesceFrom` says that joining
ranges that touch changes no membership.
-/

set_option autoImplicit false

namespace RecordSync.Unicode

def maxCode : Nat := 0x10FFFF

def nextCode (code : Nat) : Nat := if code = 0xD7FF then 0xE000 else code + 1

def previousCode (code : Nat) : Nat := if code = 0xE000 then 0xD7FF else code - 1

namespace Ranges

def covers (pairs : List (Nat × Nat)) (code : Nat) : Bool :=
  pairs.any fun p => p.1 ≤ code && code ≤ p.2

def coalesceFrom (p : Nat × Nat) : List (Nat × Nat) → List (Nat × Nat)
  | [] => [p]
  | q :: rest =>
    if q.1 ≤ p.2 + 1 then coalesceFrom (p.1, max p.2 q.2) rest
    else p :: coalesceFrom q rest

theorem covers_coalesceFrom (p : Nat × Nat) (rest : List (Nat × Nat)) (code : Nat)
    (proper : p.1 ≤ p.2) (ascending : (p :: rest).Pairwise fun a b => a.1 ≤ b.1)
    (others : ∀ q ∈ rest, q.1 ≤ q.2) :
    covers (coalesceFrom p rest) code = covers (p :: rest) code := by
  induction rest generalizing p with
  | nil => rfl
  | cons q rest ih =>
    have hq : q.1 ≤ q.2 := others q (by simp)
    have hpq : p.1 ≤ q.1 := (List.pairwise_cons.1 ascending).1 q (by simp)
    have tail := (List.pairwise_cons.1 ascending).2
    have hr : ∀ r ∈ rest, r.1 ≤ r.2 := fun r h => others r (by simp [h])
    by_cases touch : q.1 ≤ p.2 + 1
    · have joined : ((p.1, max p.2 q.2) :: rest).Pairwise fun a b => a.1 ≤ b.1 := by
        refine List.pairwise_cons.2 ⟨fun r h => ?_, (List.pairwise_cons.1 tail).2⟩
        exact (List.pairwise_cons.1 ascending).1 r (by simp [h])
      rw [coalesceFrom, if_pos touch, ih _ (by simp only; omega) joined hr]
      simp only [covers, List.any_cons, ← Bool.or_assoc]
      congr 1
      rw [Bool.eq_iff_iff]
      simp only [Bool.and_eq_true, Bool.or_eq_true, decide_eq_true_eq]
      omega
    · rw [coalesceFrom, if_neg touch]
      simp only [covers, List.any_cons] at ih ⊢
      rw [ih q hq tail hr]

def coalesce : List (Nat × Nat) → List (Nat × Nat)
  | [] => []
  | p :: rest => coalesceFrom p rest

def ofPairs (pairs : List (Nat × Nat)) : Ranges :=
  ⟨(coalesce (pairs.mergeSort fun p q => p.1 < q.1 || (p.1 == q.1 && p.2 ≤ q.2))).toArray⟩

def toList (r : Ranges) : List (Nat × Nat) := r.bounds.toList

def empty : Ranges := ⟨#[]⟩

def isEmpty (r : Ranges) : Bool := r.bounds.isEmpty

def range (first last : Nat) : Ranges := ⟨#[(first, last)]⟩

def union (a b : Ranges) : Ranges := ofPairs (a.toList ++ b.toList)

def unionAll (sets : List Ranges) : Ranges := ofPairs (sets.flatMap toList)

def intersection (a b : Ranges) : Ranges :=
  ofPairs (a.toList.flatMap fun p => b.toList.filterMap fun q =>
    let first := max p.1 q.1
    let last := min p.2 q.2
    if first ≤ last then some (first, last) else none)

def cutOut (q p : Nat × Nat) : List (Nat × Nat) :=
  if p.2 < q.1 || q.2 < p.1 then [p]
  else
    (if p.1 < q.1 then [(p.1, previousCode q.1)] else []) ++
      (if q.2 < p.2 then [(nextCode q.2, p.2)] else [])

def difference (a b : Ranges) : Ranges :=
  ofPairs (a.toList.flatMap fun p => b.toList.foldl (fun pieces q => pieces.flatMap (cutOut q)) [p])

def symmetricDifference (a b : Ranges) : Ranges := (a.union b).difference (a.intersection b)

def gaps (last : Nat) : List (Nat × Nat) → List (Nat × Nat)
  | [] => if last < maxCode then [(nextCode last, maxCode)] else []
  | q :: rest =>
    let (low, high) := (nextCode last, previousCode q.1)
    (min low high, max low high) :: gaps q.2 rest

/-- All characters outside of a set. Where a set has a gap without characters between two ranges, the
characters next to that gap belong to both the set and its complement. -/
def complement (r : Ranges) : Ranges :=
  ⟨match r.toList with
    | [] => #[(0, maxCode)]
    | p :: rest => ((if 0 < p.1 then [(0, previousCode p.1)] else []) ++ gaps p.2 rest).toArray⟩

def isAscii (r : Ranges) : Bool := r.bounds.back?.all fun p => p.2 ≤ 0x7F

def single? (r : Ranges) : Option Char :=
  match r.toList with
  | [(first, last)] => if first = last then some (Char.ofNat first) else none
  | _ => none

end Ranges

end RecordSync.Unicode
