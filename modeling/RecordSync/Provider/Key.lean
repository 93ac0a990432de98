import RecordSync.Json.Printer

/-!
# Primary keys

The key of an entity is an integer or a text. A key read from an entity matches the values that stand for the
same key, whichever kind of number they are.
-/

set_option autoImplicit false

namespace RecordSync

inductive PrimaryKey where
  | number (n : Int)
  | text (s : String)
  deriving DecidableEq, Repr

inductive Cursor where
  | number (n : Int)
  | text (s : String)
  deriving DecidableEq, Repr

def clampSigned64 (n : Int) : Int :=
  if n < -0x8000000000000000 then -0x8000000000000000
  else if 0x7fffffffffffffff < n then 0x7fffffffffffffff
  else n

namespace PrimaryKey

def toJson : PrimaryKey → Json
  | .number n => .ofInt n
  | .text s => .str s

def display : PrimaryKey → String
  | .number n => toString n
  | .text s => s

def ofJson? : Json → Option PrimaryKey
  | .str s => some (.text s)
  | j => j.signed64?.map .number

/-- The key that a value of an entity stands for. Whole doubles count as integers; what is beyond the range of
keys is brought to its end. -/
def ofValue? : Json → Option PrimaryKey
  | .str s => some (.text s)
  | .num (.int n) => some (.number (clampSigned64 n))
  | .num (.double x) => (Double.finite x).toInt?.map fun n => .number (clampSigned64 n)
  | _ => none

/-- Does a stored value stand for this key? Numbers are compared as doubles. -/
def matchesValue : PrimaryKey → Option Json → Bool
  | .number n, some (.num v) => v.toDouble.numEq (.ofInt n)
  | .text s, some (.str v) => s == v
  | _, _ => false

end PrimaryKey

namespace Cursor

def toJson : Cursor → Json
  | .number n => .ofInt n
  | .text s => .str s

def ofJson? : Json → Option Cursor
  | .str s => some (.text s)
  | j => j.signed64?.map .number

end Cursor

end RecordSync
