import RecordSync.Query.Filter

/-!
# Sorting

Rows are sorted by a list of descriptors, the first one that tells two rows apart deciding. The sort is
stable. Descending order swaps the operands of a comparison; it does not negate the result.
-/

set_option autoImplicit false

namespace RecordSync

inductive SortDir where
  | asc
  | desc
  deriving DecidableEq, Repr, Inhabited

namespace SortDir

def name : SortDir → String
  | .asc => "asc"
  | .desc => "desc"

def ofName? : String → Option SortDir
  | "asc" => some .asc
  | "desc" => some .desc
  | _ => none

theorem ofName?_name (d : SortDir) : ofName? d.name = some d := by cases d <;> rfl

def ofJson? (j : Json) : Option SortDir := j.variant?.bind ofName?

end SortDir

structure Comparator where
  name : String
  compare : Lookup → Lookup → Bool → Ordering

structure SortDescriptor where
  field : Option Path
  comparator : Option Comparator
  dir : Option SortDir

inductive SortInput where
  | absent
  | field (name : String)
  | one (descriptor : SortDescriptor)
  | many (descriptors : List SortDescriptor)

/-- A field name becomes a descriptor; a single descriptor takes the direction given if it has none
of its own; a list stays as it is. -/
def SortInput.normalize (input : SortInput) (dir : SortDir) : Option (List SortDescriptor) :=
  match input with
  | .absent => none
  | .field name => some [{ field := some (Path.ofDotted name), comparator := none, dir := some dir }]
  | .one d => some [{ d with dir := some (d.dir.getD dir) }]
  | .many ds => some ds

namespace SortDescriptor

def compareOperands (d : SortDescriptor) (a b : Lookup) (isDesc : Bool) : Ordering :=
  match d.comparator with
  | some c => c.compare a b isDesc
  | none => let path := d.field.getD []; compareValues (a path) (b path)

def compareRows (d : SortDescriptor) (dir : SortDir) (a b : Lookup) : Ordering :=
  match d.dir.getD dir with
  | .asc => d.compareOperands a b false
  | .desc => d.compareOperands b a true

def compareAll (ds : List SortDescriptor) (dir : SortDir) (a b : Lookup) : Ordering :=
  match ds with
  | [] => .eq
  | d :: rest => (d.compareRows dir a b).then (compareAll rest dir a b)

def ofJson? (j : Json) : Option SortDescriptor := do
  let d ← j.described? ["field", "dir"]
  let field ← d.optional? "field" Json.path?
  let dir ← d.optional? "dir" SortDir.ofJson?
  return { field, comparator := none, dir }

def toJson (d : SortDescriptor) : Json :=
  .obj ((match d.dir with | some dir => [("dir", Json.str dir.name)] | none => []) ++
    (match d.field with | some path => [("field", .str (Path.toDotted path))] | none => []))

end SortDescriptor

/-- Rows in the order of a list of criteria. A sort promises an order for consistent comparisons only. For all others
the stable merge sort is one choice among many. -/
def sortRows {α : Type} [Record α] (rows : List α) (ds : List SortDescriptor) (dir : SortDir) :
    List α :=
  rows.mergeSort fun a b =>
    SortDescriptor.compareAll ds dir (Record.lookup a) (Record.lookup b) != .gt

end RecordSync
