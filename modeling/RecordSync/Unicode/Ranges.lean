import RecordSync.Text

/-!
# Sets of characters as ranges

Sets of code points are ascending ranges. The tables of character properties are lines of such ranges in
hexadecimal (`41-5A AA B5`); a stride after a slash keeps every so many code points of a range
(`100-12E/2`). Tables are decoded into arrays, and membership is a binary search.
-/

set_option autoImplicit false

namespace RecordSync.Unicode

def hexValue? (c : Char) : Option Nat :=
  if '0' ≤ c ∧ c ≤ '9' then some (c.toNat - 48)
  else if 'a' ≤ c ∧ c ≤ 'f' then some (c.toNat - 87)
  else if 'A' ≤ c ∧ c ≤ 'F' then some (c.toNat - 55)
  else none

def hexNumber (cs : List Char) : Nat := cs.foldl (fun n c => 16 * n + (hexValue? c).getD 0) 0

def words (lines : List String) : List (List Char) :=
  lines.flatMap fun line => Text.splitChars ' ' line.toList

/-- Ascending, disjoint ranges of code points, both ends included. -/
structure Ranges where
  bounds : Array (Nat × Nat)
  deriving Inhabited, DecidableEq

namespace Ranges

def ofWord (word : List Char) : List (Nat × Nat) :=
  let first := hexNumber (word.takeWhile fun c => c != '-' && c != '/')
  match word.dropWhile (· != '-') with
  | [] => [(first, first)]
  | _ :: rest =>
    let last := hexNumber (rest.takeWhile (· != '/'))
    match rest.dropWhile (· != '/') with
    | [] => [(first, last)]
    | _ :: digits =>
      let stride := hexNumber digits
      (List.range ((last - first) / stride + 1)).map fun i => (first + i * stride, first + i * stride)

def pairsOfLines (lines : List String) : List (Nat × Nat) :=
  ((words lines).filter (!·.isEmpty)).flatMap ofWord

def ofLines (lines : List String) : Ranges := ⟨(pairsOfLines lines).toArray⟩

/-- Binary search in the ranges with indices from `low` up to but excluding `high`; every step at
least halves their number. -/
def search (bounds : Array (Nat × Nat)) (code low high : Nat) : Nat → Bool
  | 0 => false
  | fuel + 1 =>
    if high ≤ low then false
    else
      let middle := (low + high) / 2
      let (first, last) := bounds[middle]?.getD (0, 0)
      if code < first then search bounds code low middle fuel
      else if last < code then search bounds code (middle + 1) high fuel
      else true

def containsCode (r : Ranges) (code : Nat) : Bool :=
  search r.bounds code 0 r.bounds.size (r.bounds.size + 1)

def contains (r : Ranges) (c : Char) : Bool := r.containsCode c.toNat

end Ranges

structure Run where
  first : Nat
  last : Nat
  stride : Nat
  distance : Int
  deriving Inhabited

namespace Run

def readDistance (cs : List Char) : Int :=
  let value (digits : List Char) : Nat := digits.foldl (fun n c => 10 * n + (c.toNat - 48)) 0
  match cs with
  | '-' :: digits => -(value digits : Int)
  | '+' :: digits => value digits
  | _ => 0

def ofWord (word : List Char) : Run :=
  let first := word.takeWhile (· != '-')
  let rest := (word.dropWhile (· != '-')).drop 1
  let last := rest.takeWhile (· != '/')
  let rest := (rest.dropWhile (· != '/')).drop 1
  { first := hexNumber first
    last := hexNumber last
    stride := (rest.headD '1').toNat - 48
    distance := readDistance (rest.drop 1) }

def ofLines (lines : List String) : Array Run := ((words lines).map ofWord).toArray

def find? (runs : Array Run) (code : Nat) : Option Run :=
  runs.find? fun r => r.first ≤ code && code ≤ r.last && (code - r.first) % r.stride == 0

def apply (runs : Array Run) (code : Nat) : Nat :=
  match find? runs code with
  | some r => (code + r.distance).toNat
  | none => code

end Run

/-- A property, or a value of one, under the loose forms of its names: the general categories most of whose characters
have it, the other characters that have it, and the characters of these categories that do not. -/
structure PropertyEntry where
  names : List String
  categories : List String
  plus : List String
  minus : List String

end RecordSync.Unicode
