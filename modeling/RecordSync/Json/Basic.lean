import RecordSync.KeyMap
import RecordSync.Numeric.Integer

/-!
# JSON values

A number is an integer or a finite double, and the two kinds never equal each other; doubles are equal
when their values are. The fields of an object stand in key order.
-/

set_option autoImplicit false

namespace RecordSync

inductive Number where
  | int (value : Int)
  | double (value : FiniteDouble)
  deriving DecidableEq, Repr, Inhabited

namespace Number

instance : BEq Number where
  beq
    | .int a, .int b => a == b
    | .double a, .double b => a == b
    | _, _ => false

def toDouble : Number → Double
  | .int n => .ofInt n
  | .double x => .finite x

def toSigned64? : Number → Option Int
  | .int n => if fitsSigned64 n then some n else none
  | .double _ => none

def toUnsigned64? : Number → Option Nat
  | .int n => if fitsUnsigned64 n then some n.toNat else none
  | .double _ => none

def text : Number → String
  | .int n => toString n
  | .double x => Decimal.dataLayout.render x

end Number

inductive Json where
  | null
  | bool (value : Bool)
  | num (value : Number)
  | str (value : String)
  | arr (items : List Json)
  | obj (fields : List (String × Json))
  deriving Repr, Inhabited

abbrev Object := KeyMap Json

namespace Json

mutual

def equal : Json → Json → Bool
  | .null, .null => true
  | .bool a, .bool b => a == b
  | .num a, .num b => a == b
  | .str a, .str b => a == b
  | .arr a, .arr b => equalItems a b
  | .obj a, .obj b => equalFields a b
  | _, _ => false

def equalItems : List Json → List Json → Bool
  | [], [] => true
  | a :: as, b :: bs => equal a b && equalItems as bs
  | _, _ => false

def equalFields : List (String × Json) → List (String × Json) → Bool
  | [], [] => true
  | (k, a) :: as, (l, b) :: bs => k == l && equal a b && equalFields as bs
  | _, _ => false

end

instance : BEq Json := ⟨equal⟩

/-- The JSON number of a double; one that is not finite has none and becomes `null`. -/
def ofDouble : Double → Json
  | .finite x => .num (.double x)
  | _ => .null

def ofInt (n : Int) : Json := .num (.int n)

def ofNat (n : Nat) : Json := .num (.int n)

def isNull : Json → Bool
  | .null => true
  | _ => false

def str? : Json → Option String
  | .str s => some s
  | _ => none

def bool? : Json → Option Bool
  | .bool b => some b
  | _ => none

def arr? : Json → Option (List Json)
  | .arr items => some items
  | _ => none

def obj? : Json → Option Object
  | .obj fields => some fields
  | _ => none

def signed64? : Json → Option Int
  | .num n => n.toSigned64?
  | _ => none

def unsigned64? : Json → Option Nat
  | .num n => n.toUnsigned64?
  | _ => none

def field? (j : Json) (name : String) : Option Json := j.obj?.bind (KeyMap.get? · name)

/-- Does a possibly missing value count as present for new-entity checks? Missing values, `null`,
`false`, zero and the empty text do not. -/
def truthy : Option Json → Bool
  | none => false
  | some .null => false
  | some (.bool b) => b
  | some (.num n) => !n.toDouble.isZero
  | some (.str s) => !s.isEmpty
  | some (.arr _) => true
  | some (.obj _) => true

mutual

def depth : Json → Nat
  | .arr items => 1 + depthOfItems items
  | .obj fields => 1 + depthOfFields fields
  | _ => 1

def depthOfItems : List Json → Nat
  | [] => 0
  | j :: rest => max (depth j) (depthOfItems rest)

def depthOfFields : List (String × Json) → Nat
  | [] => 0
  | (_, j) :: rest => max (depth j) (depthOfFields rest)

end

end Json

end RecordSync
