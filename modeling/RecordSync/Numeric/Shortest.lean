import RecordSync.Numeric.Binary64

/-!
# The shortest decimal digits of a double

Among the decimal numbers that read back as a given double, the ones with the fewest significant
digits are of interest, and of those the one nearest to the double. On the grid of `n`-digit decimals
only the two neighbours of the double have to be tried: if any grid point reads back, one of them
does.
-/

set_option autoImplicit false

namespace RecordSync

/-- Significant digits of a positive number: the value is `0.d₁d₂… · 10 ^ point`, the first digit
is not zero and neither is the last. -/
structure Digits where
  digits : List Nat
  point : Int
  deriving DecidableEq, Repr

namespace Shortest

open Binary64

/-- The numbers that round to `units`, in quarter units, with the information whether the ends belong
to them: a significand that is even wins the tie on both sides. -/
structure Interval where
  low : Nat
  high : Nat
  closed : Bool

def interval (units : Nat) : Interval :=
  let dropped := droppedBits units
  let step := 1 <<< dropped
  let below := if dropped ≠ 0 ∧ units = 1 <<< (52 + dropped) then step else 2 * step
  { low := 4 * units - below, high := 4 * units + 2 * step, closed := units / step % 2 == 0 }

def Interval.contains (i : Interval) (num den : Nat) : Bool :=
  if i.closed then i.low * den ≤ num && num ≤ i.high * den
  else i.low * den < num && num < i.high * den

def quartersPerOne : Nat := 4 * unitsPerOne

def pow10 (n : Nat) : Nat := Nat.pow 10 n

def digitCount (n : Nat) : Nat := (Nat.toDigits 10 n).length

/-- The exponent `k` with `10 ^ (k - 1) ≤ units · 2 ^ (-1074) < 10 ^ k`. For numbers below one, the
first place `j` at which `10 ^ j` times the number is at least one decides. -/
def decimalPoint (units : Nat) : Int :=
  if unitsPerOne ≤ units then digitCount (units / unitsPerOne)
  else
    let guess := digitCount (unitsPerOne / units)
    if unitsPerOne ≤ units * pow10 (guess - 1) then 1 - ((guess - 1 : Nat) : Int) else 1 - (guess : Int)

/-- The `n`-digit decimal nearest to `units` among those that read back as it, as an integer
multiple of `10 ^ (point - n)`. An exact tie goes to the even multiple. -/
def onGrid? (units : Nat) (point : Int) (n : Nat) : Option Nat :=
  let place := point - n
  -- one grid step is `stepNum / stepDen` quarter units
  let stepNum := quartersPerOne * pow10 place.toNat
  let stepDen := pow10 (-place).toNat
  let value := 4 * units * stepDen
  let lower := value / stepNum
  let rest := value % stepNum
  let i := interval units
  let lowerFits := i.contains (lower * stepNum) stepDen && lower != 0
  let upperFits := i.contains ((lower + 1) * stepNum) stepDen
  if lowerFits && upperFits then
    if 2 * rest < stepNum then some lower
    else if stepNum < 2 * rest then some (lower + 1)
    else some (lower + lower % 2)
  else if lowerFits then some lower
  else if upperFits then some (lower + 1)
  else none

def significant (n : Nat) : List Nat :=
  (((Nat.toDigits 10 n).map (fun c => c.toNat - '0'.toNat)).reverse.dropWhile (· == 0)).reverse

def search (units : Nat) (point : Int) (n : Nat) : Nat → Digits
  | 0 => ⟨[], 0⟩
  | fuel + 1 =>
    match onGrid? units point n with
    | some multiple => ⟨significant multiple, point - n + digitCount multiple⟩
    | none => search units point (n + 1) fuel

def digits (units : Nat) : Digits := search units (decimalPoint units) 1 17

end Shortest

end RecordSync
