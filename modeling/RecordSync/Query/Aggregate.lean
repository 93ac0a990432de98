import RecordSync.Query.Filter

/-!
# Aggregates

A row list is folded once for every field and method. A descriptor that is given twice is folded twice. A sum
stays an integer as long as it fits 64 bits; an average divides once, after the last row.
-/

set_option autoImplicit false

namespace RecordSync

inductive AggregateMethod where
  | average
  | count
  | max
  | min
  | sum
  deriving DecidableEq, Repr

namespace AggregateMethod

def name : AggregateMethod → String
  | .average => "average"
  | .count => "count"
  | .max => "max"
  | .min => "min"
  | .sum => "sum"

def all : List AggregateMethod := [.average, .count, .max, .min, .sum]

def ofName? (name : String) : Option AggregateMethod := all.find? fun m => m.name == name

theorem ofName?_name (m : AggregateMethod) : ofName? m.name = some m := by cases m <;> decide

end AggregateMethod

structure AggregateDescriptor where
  field : Path
  method : AggregateMethod

namespace AggregateDescriptor

def ofJson? (j : Json) : Option AggregateDescriptor := do
  let d ← j.described? ["field", "aggregate"]
  let field ← d.required? "field" Json.path?
  let method ← d.required? "aggregate" fun j => j.variant?.bind AggregateMethod.ofName?
  return { field, method }

def toJson (d : AggregateDescriptor) : Json :=
  .obj [("aggregate", .str d.method.name), ("field", .str (Path.toDotted d.field))]

end AggregateDescriptor

/-- The result by the dotted text of the field; methods in alphabetical order. A method that saw no
value is left out. -/
abbrev AggregateResult := KeyMap (List (AggregateMethod × Json))

structure Accumulator where
  value : Option Json
  count : Nat

namespace Accumulator

def start : Accumulator := ⟨none, 0⟩

def isNumber (value : Option Json) : Bool := value.any Json.isNumber

def isComparable (value : Option Json) : Bool := value.any fun j => j.isNumber || j.isDate

def less (a b : Option Json) : Bool := (Scalar.of a false).compare? (Scalar.of b false) == some .lt

def asDouble : Option Json → Double
  | some (.num n) => n.toDouble
  | _ => .zero

def addNumbers (a b : Json) : Json :=
  let exactSum : Option Int := do
    let x ← a.signed64?
    let y ← b.signed64?
    if fitsSigned64 (x + y) then some (x + y) else none
  match exactSum with
  | some n => .ofInt n
  | none => .ofDouble ((asDouble (some a)).add (asDouble (some b)))

/-- Until a number has been seen, the latest value is kept, whatever it is. -/
def addValue (acc : Accumulator) (value : Option Json) : Accumulator :=
  match acc.value, value with
  | some current, some v =>
    if !current.isNumber then { acc with value }
    else if v.isNumber then { acc with value := some (addNumbers current v) }
    else acc
  | some current, none => if current.isNumber then acc else { acc with value := none }
  | none, value => { acc with value }

def keepExtreme (further : Option Json → Option Json → Bool) (acc : Accumulator)
    (value : Option Json) : Accumulator :=
  let acc := if isComparable acc.value then acc else { acc with value }
  if isComparable value && further acc.value value then { acc with value } else acc

def step (method : AggregateMethod) (isLast : Bool) (acc : Accumulator) (value : Option Json) :
    Accumulator :=
  match method with
  | .sum => acc.addValue value
  | .count => ⟨some (.ofNat (acc.count + 1)), acc.count + 1⟩
  | .average =>
    let acc := acc.addValue value
    let acc := if isNumber value then { acc with count := acc.count + 1 } else acc
    if isLast && 0 < acc.count && isNumber acc.value then
      { acc with value := some (.ofDouble ((asDouble acc.value).div (.ofInt acc.count))) }
    else acc
  | .max => acc.keepExtreme (fun current v => less current v) value
  | .min => acc.keepExtreme (fun current v => less v current) value

def fold (method : AggregateMethod) (paths : List Path) : Accumulator → List Lookup → Accumulator
  | acc, [] => acc
  | acc, row :: rest =>
    fold method paths (paths.foldl (fun acc path => step method rest.isEmpty acc (row path)) acc) rest

end Accumulator

def aggregateValue (rows : List Lookup) (ds : List AggregateDescriptor) (field : String)
    (method : AggregateMethod) : Option Json :=
  let paths := (ds.filter fun d => Path.toDotted d.field == field && d.method == method).map (·.field)
  (Accumulator.fold method paths .start rows).value

def aggregate {α : Type} [Record α] (rows : List α) (ds : List AggregateDescriptor) :
    AggregateResult :=
  let lookups := rows.map Record.lookup
  if rows.isEmpty then []
  else
    KeyMap.ofList (ds.map fun d =>
      let field := Path.toDotted d.field
      (field, AggregateMethod.all.filterMap fun m =>
        (aggregateValue lookups ds field m).map (m, ·)))

namespace AggregateResult

def get? (r : AggregateResult) (field : String) (method : AggregateMethod) : Option Json :=
  (KeyMap.get? r field).bind (·.lookup method)

def toJson (r : AggregateResult) : Json :=
  .obj (KeyMap.mapValues (fun methods => .obj (methods.map fun entry => (entry.1.name, entry.2))) r)

end AggregateResult

end RecordSync
