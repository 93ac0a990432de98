import RecordSync.Json.Basic
import RecordSync.Text
import RecordSync.Time.Instant
import RecordSync.Unicode.Letters

/-!
# Scalars

Values are compared by what they stand for: timestamps by instant, numbers, booleans and numeric texts by
number, other texts by content, arrays and objects by structure. `null` and a missing value equal only
each other.
-/

set_option autoImplicit false

namespace RecordSync

inductive Scalar where
  | undefined
  | null
  | bool (value : Bool)
  | number (value : Double)
  | text (value : String)
  | date (millis : Int)
  | other (value : Json)
  deriving Inhabited

namespace Scalar

def ofText (ignoreCase : Bool) (s : String) : Scalar :=
  match parseInstant? s with
  | some millis => .date millis
  | none => .text (if ignoreCase then Unicode.toLower s else s)

def of (value : Option Json) (ignoreCase : Bool) : Scalar :=
  match value with
  | none => .undefined
  | some .null => .null
  | some (.bool b) => .bool b
  | some (.num n) => .number n.toDouble
  | some (.str s) => ofText ignoreCase s
  | some j => .other j

/-- The number a scalar counts as. A blank text counts as zero. -/
def number? : Scalar → Option Double
  | .number x => some x
  | .date millis => some (.ofInt millis)
  | .bool b => some (if b then .one else .zero)
  | .text s =>
    let trimmed := Unicode.trim s
    if trimmed.isEmpty then some .zero else Decimal.readDouble? trimmed
  | _ => none

def looseEq : Scalar → Scalar → Bool
  | .undefined, .undefined | .undefined, .null | .null, .undefined | .null, .null => true
  | .undefined, _ | .null, _ | _, .undefined | _, .null => false
  | .text a, .text b => a == b
  | .other a, .other b => a == b
  | .other _, _ | _, .other _ => false
  | a, b =>
    match a.number?, b.number? with
    | some x, some y => x.numEq y
    | _, _ => false

def compare? : Scalar → Scalar → Option Ordering
  | .undefined, _ | .null, _ | _, .undefined | _, .null => none
  | .other _, _ | _, .other _ => none
  | .text a, .text b => some (compare a b)
  | a, b =>
    match a.number?, b.number? with
    | some x, some y => x.compare? y
    | _, _ => none

end Scalar

namespace Json

def isNumber : Json → Bool
  | .num _ => true
  | _ => false

def isDate : Json → Bool
  | .str s => (parseInstant? s).isSome
  | _ => false

end Json

/-- The order of sorting by a field. Missing values and `null` come first, two texts are compared by
content, and values that cannot be compared count as equal. -/
def compareValues (a b : Option Json) : Ordering :=
  match a.filter (!·.isNull), b.filter (!·.isNull) with
  | none, none => .eq
  | none, some _ => .lt
  | some _, none => .gt
  | some (.str x), some (.str y) => compare x y
  | some x, some y => ((Scalar.of (some x) false).compare? (Scalar.of (some y) false)).getD .eq

end RecordSync
