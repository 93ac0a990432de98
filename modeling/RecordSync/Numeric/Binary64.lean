/-!
# Binary64 numbers as exact integers

Every finite binary64 number is an integer multiple of `2 ^ (-1074)`, so a finite number is kept as
its sign and that multiple. Comparison is then comparison of integers, and every arithmetic
operation is an exact integer computation followed by one rounding, `Binary64.roundRatio?`.
-/

set_option autoImplicit false

namespace RecordSync

/-- A finite binary64 number: its sign and its magnitude in units of `2 ^ (-1074)`. The sign of
zero is kept, because it is written out. -/
structure FiniteDouble where
  negative : Bool
  units : Nat
  deriving DecidableEq, Repr, Inhabited

namespace FiniteDouble

def zero : FiniteDouble := ⟨false, 0⟩

def signedUnits (x : FiniteDouble) : Int := if x.negative then -(x.units : Int) else x.units

instance : BEq FiniteDouble := ⟨fun x y => x.signedUnits == y.signedUnits⟩

theorem beq_iff (x y : FiniteDouble) : (x == y) = true ↔ x.signedUnits = y.signedUnits := by
  simp [BEq.beq]

def isZero (x : FiniteDouble) : Bool := x.units == 0

end FiniteDouble

inductive Double where
  | finite (x : FiniteDouble)
  | infinite (negative : Bool)
  | nan
  deriving DecidableEq, Repr, Inhabited

namespace Binary64

def unitsPerOne : Nat := 1 <<< 1074

def maxUnits : Nat := ((1 <<< 53) - 1) <<< 2045

def droppedBits (units : Nat) : Nat := units.log2 - 52

def divNearestEven (num den : Nat) : Nat :=
  let quotient := num / den
  let rest := num % den
  if den < 2 * rest then quotient + 1
  else if 2 * rest = den then quotient + quotient % 2
  else quotient

/-- The magnitude `num / den` (in units) rounded to 53 significant bits, to nearest with ties to
even; `none` when the result is beyond the finite range. -/
def roundRatio? (num den : Nat) : Option Nat :=
  let step := 1 <<< droppedBits (num / den)
  let rounded := divNearestEven num (den * step) * step
  if rounded ≤ maxUnits then some rounded else none

end Binary64

namespace Double

open Binary64

def zero : Double := .finite .zero

def ofRatio (negative : Bool) (num den : Nat) : Double :=
  match roundRatio? num den with
  | some units => .finite ⟨negative, units⟩
  | none => .infinite negative

def ofSignedUnits (n : Int) : Double := ofRatio (decide (n < 0)) n.natAbs 1

def ofInt (n : Int) : Double := ofRatio (decide (n < 0)) (n.natAbs * unitsPerOne) 1

def one : Double := ofInt 1

def maxValue : Double := .finite ⟨false, maxUnits⟩

def neg : Double → Double
  | .finite x => .finite { x with negative := !x.negative }
  | .infinite s => .infinite (!s)
  | .nan => .nan

def isNegative : Double → Bool
  | .finite x => x.negative
  | .infinite s => s
  | .nan => false

def isNaN : Double → Bool
  | .nan => true
  | _ => false

def isZero : Double → Bool
  | .finite x => x.isZero
  | _ => false

def add : Double → Double → Double
  | .nan, _ | _, .nan => .nan
  | .infinite s, .infinite t => if s == t then .infinite s else .nan
  | .infinite s, .finite _ | .finite _, .infinite s => .infinite s
  | .finite x, .finite y =>
    if x.isZero && y.isZero then .finite ⟨x.negative && y.negative, 0⟩
    else ofSignedUnits (x.signedUnits + y.signedUnits)

def div : Double → Double → Double
  | .nan, _ | _, .nan => .nan
  | .infinite _, .infinite _ => .nan
  | .infinite s, .finite y => .infinite (s != y.negative)
  | .finite x, .infinite t => .finite ⟨x.negative != t, 0⟩
  | .finite x, .finite y =>
    if y.isZero then
      if x.isZero then .nan else .infinite (x.negative != y.negative)
    else ofRatio (x.negative != y.negative) (x.units * unitsPerOne) y.units

def compare? : Double → Double → Option Ordering
  | .nan, _ | _, .nan => none
  | .infinite s, .infinite t => some (if s == t then .eq else if s then .lt else .gt)
  | .infinite s, .finite _ => some (if s then .lt else .gt)
  | .finite _, .infinite t => some (if t then .gt else .lt)
  | .finite x, .finite y => some (compare x.signedUnits y.signedUnits)

/-- Equality of doubles: the zeros are equal, and nothing equals a `nan`. -/
def numEq (x y : Double) : Bool := compare? x y == some .eq

def less (x y : Double) : Bool := compare? x y == some .lt

def toInt? : Double → Option Int
  | .finite x =>
    if x.units % unitsPerOne = 0 then some (x.signedUnits / unitsPerOne) else none
  | _ => none

end Double

end RecordSync
