import RecordSync.Numeric.Decimal

/-!
# Bounded integers

The integer ranges that data formats allow, and the reading of integers from text.
-/

set_option autoImplicit false

namespace RecordSync

def fitsUnsigned64 (n : Int) : Bool := 0 ≤ n && n < 0x10000000000000000

def fitsSigned64 (n : Int) : Bool := -0x8000000000000000 ≤ n && n < 0x8000000000000000

def fitsUnsigned32 (n : Int) : Bool := 0 ≤ n && n < 0x100000000

def readDigits? (cs : List Char) : Option Nat :=
  if cs.isEmpty || !cs.all Decimal.isDigit then none else some (Decimal.appendDigits 0 cs)

def readIndex? (text : String) : Option Nat :=
  let digits := match text.toList with
    | '+' :: rest => rest
    | cs => cs
  (readDigits? digits).filter fun n => fitsUnsigned64 n

def readSigned64? (text : String) : Option Int :=
  let (negative, digits) := Decimal.takeSign text.toList
  ((readDigits? digits).map fun n => if negative then -(n : Int) else (n : Int)).filter fitsSigned64

end RecordSync
