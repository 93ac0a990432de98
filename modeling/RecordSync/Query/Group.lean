import RecordSync.Query.Aggregate
import RecordSync.Query.Sort

/-!
# Grouping

Rows with the same bucket key form a bucket; buckets stand in the order in which their keys first occur.
Several descriptors give a tree of groups, the leaves of which hold the rows.
-/

set_option autoImplicit false

namespace RecordSync

structure GroupDescriptor where
  field : Path
  dir : Option SortDir
  aggregates : List AggregateDescriptor
  comparator : Option Comparator
  skipItemSorting : Bool

inductive GroupInput where
  | field (name : String)
  | one (descriptor : GroupDescriptor)
  | many (descriptors : List GroupDescriptor)

namespace GroupDescriptor

def ofField (field : Path) : GroupDescriptor :=
  { field, dir := none, aggregates := [], comparator := none, skipItemSorting := false }

def sortDescriptor (d : GroupDescriptor) : SortDescriptor :=
  let dir := d.dir.getD .asc
  match d.comparator with
  | some c => { field := none, comparator := some c, dir := some dir }
  | none => { field := some d.field, comparator := none, dir := some dir }

def ofJson? (j : Json) : Option GroupDescriptor := do
  let d ← j.described? ["field", "dir", "aggregates", "skipItemSorting"]
  let field ← d.required? "field" Json.path?
  let dir ← d.optional? "dir" SortDir.ofJson?
  let aggregates ← d.withDefault? "aggregates" [] (Json.list? AggregateDescriptor.ofJson?)
  let skipItemSorting ← d.withDefault? "skipItemSorting" false Json.bool?
  return { field, dir, aggregates, comparator := none, skipItemSorting }

def toJson (d : GroupDescriptor) : Json :=
  .obj ((if d.aggregates.isEmpty then []
      else [("aggregates", Json.arr (d.aggregates.map AggregateDescriptor.toJson))]) ++
    (match d.dir with | some dir => [("dir", .str dir.name)] | none => []) ++
    [("field", .str (Path.toDotted d.field))] ++
    (if d.skipItemSorting then [("skipItemSorting", .bool true)] else []))

end GroupDescriptor

def GroupInput.normalize : GroupInput → List GroupDescriptor
  | .field name => [{ GroupDescriptor.ofField (Path.ofDotted name) with dir := some .asc }]
  | .one d => [d]
  | .many ds => ds

/-- The key of a row's bucket. Dates are kept together by instant, other values by their text. -/
def bucketKey (value : Option Json) : String :=
  match Scalar.of value false with
  | .undefined | .null => "null"
  | .date millis => "date:" ++ toString millis
  | .text s => s
  | .number x => Decimal.plainText x
  | .bool b => if b then "true" else "false"
  | .other j => j.text

structure Bucket (α : Type) where
  field : String
  value : Json
  items : List α

inductive Group (α : Type) where
  | leaf (field : String) (value : Json) (aggregates : AggregateResult) (rows : List α)
  | branch (field : String) (value : Json) (aggregates : AggregateResult) (groups : List (Group α))

namespace Group

variable {α : Type}

def field : Group α → String
  | .leaf field .. | .branch field .. => field

def value : Group α → Json
  | .leaf _ value .. | .branch _ value .. => value

def aggregates : Group α → AggregateResult
  | .leaf _ _ aggregates _ | .branch _ _ aggregates _ => aggregates

def hasSubgroups : Group α → Bool
  | .leaf .. => false
  | .branch .. => true

def size : Group α → Nat
  | .leaf _ _ _ rows => rows.length
  | .branch _ _ _ groups => groups.length

end Group

section Rows

variable {α : Type} [Record α]

def rowsForBuckets (d : GroupDescriptor) (rows : List α) : List α :=
  if d.skipItemSorting then rows else sortRows rows [d.sortDescriptor] .asc

namespace Bucket

def opened (d : GroupDescriptor) (row : α) : Bucket α :=
  { field := Path.toDotted d.field
    value := (Record.lookup row d.field).getD .null
    items := [row] }

def put (b : Bucket α) (row : α) : Bucket α := { b with items := b.items ++ [row] }

end Bucket

structure Filing (α : Type) where
  buckets : List (Bucket α)
  slots : KeyMap Nat

namespace Filing

def empty : Filing α := ⟨[], []⟩

def add (d : GroupDescriptor) (f : Filing α) (row : α) : Filing α :=
  let key := bucketKey (Record.lookup row d.field)
  match KeyMap.get? f.slots key with
  | some slot => { f with buckets := f.buckets.modify slot (·.put row) }
  | none =>
    { buckets := f.buckets ++ [.opened d row]
      slots := KeyMap.insert f.slots key f.buckets.length }

end Filing

def buckets (d : GroupDescriptor) (rows : List α) : List (Bucket α) :=
  ((rowsForBuckets d rows).foldl (Filing.add d) .empty).buckets

def groupBy (rows : List α) (input : GroupInput) : List (Bucket α) :=
  match input.normalize with
  | [] => []
  | d :: _ => buckets d rows

def filterRows [PatternEngine] (rows : List α) (input : FilterInput) (table : OperatorTable) :
    Except QueryError (List α) := do
  let test ← input.compile table
  return rows.filter fun row => test (Record.lookup row)

/-- The groups of a level. The aggregates of a group are computed over the rows of `enclosing` whose
field equals the value of its bucket. -/
def groupWithin : List GroupDescriptor → (rows enclosing : List α) → Except QueryError (List (Group α))
  | [], _, _ => .ok []
  | d :: rest, rows, enclosing =>
    (buckets d rows).mapM fun bucket => do
      let matching ← filterRows enclosing (.item (.equality d.field bucket.value)) .empty
      let aggregates := aggregate matching d.aggregates
      match rest with
      | [] => return .leaf bucket.field bucket.value aggregates bucket.items
      | _ => return .branch bucket.field bucket.value aggregates (← groupWithin rest bucket.items matching)

def group (rows : List α) (input : GroupInput) : Except QueryError (List (Group α)) :=
  match input.normalize with
  | [] => .error .noGroupDescriptor
  | ds => groupWithin ds rows rows

def orderRows (rows : List α) (input : SortInput) (dir : SortDir) : List α :=
  match input.normalize dir with
  | none => rows
  | some ds => sortRows rows ds dir

end Rows

end RecordSync
