import RecordSync.Json.Described
import RecordSync.Query.Operator

/-!
# Filters

A filter is a tree of comparisons. Requests come in several shapes; `FilterInput.normalize` brings all of
them into one group in which every item names its operator. Compiling a normal group yields a test
of rows, or tells which operator or pattern cannot be used.
-/

set_option autoImplicit false

namespace RecordSync

inductive Logic where
  | and
  | or
  deriving DecidableEq, Repr, Inhabited

namespace Logic

def name : Logic → String
  | .and => "and"
  | .or => "or"

def ofName? : String → Option Logic
  | "and" => some .and
  | "or" => some .or
  | _ => none

theorem ofName?_name (l : Logic) : ofName? l.name = some l := by cases l <;> rfl

end Logic

/-- A comparison of one field with a value. Without an operator it asks for equality. -/
structure FilterItem where
  field : Path
  operator : Option Operator
  value : Json
  ignoreCase : Bool

inductive FilterNode where
  | item (item : FilterItem)
  | group (logic : Logic) (children : List FilterNode)

structure FilterGroup where
  logic : Logic
  filters : List FilterNode

inductive FilterInput where
  | absent
  | item (item : FilterItem)
  | items (items : List FilterItem)
  | group (group : FilterGroup)

namespace FilterItem

def equality (field : Path) (value : Json) : FilterItem :=
  { field, operator := none, value, ignoreCase := false }

def effectiveOperator (i : FilterItem) : Operator :=
  (i.operator.getD (.builtin .eq)).canonicalize

def normalize (i : FilterItem) : Except QueryError FilterItem :=
  if i.field.isEmpty then .error .missingField
  else .ok { i with operator := some i.effectiveOperator }

end FilterItem

namespace FilterNode

mutual

def normalize : FilterNode → Except QueryError FilterNode
  | .item i => do return .item (← i.normalize)
  | .group logic children => do return .group logic (← normalizeAll children)

def normalizeAll : List FilterNode → Except QueryError (List FilterNode)
  | [] => .ok []
  | node :: rest => do
    let node ← normalize node
    let rest ← normalizeAll rest
    return node :: rest

end

mutual

def items : FilterNode → List FilterItem
  | .item i => [i]
  | .group _ children => itemsOfAll children

def itemsOfAll : List FilterNode → List FilterItem
  | [] => []
  | node :: rest => items node ++ itemsOfAll rest

end

end FilterNode

namespace FilterGroup

def toNode (g : FilterGroup) : FilterNode := .group g.logic g.filters

def isEmpty (g : FilterGroup) : Bool := g.filters.isEmpty

def items (g : FilterGroup) : List FilterItem := FilterNode.itemsOfAll g.filters

def normalize (g : FilterGroup) : Except QueryError FilterGroup := do
  return { g with filters := ← FilterNode.normalizeAll g.filters }

end FilterGroup

namespace FilterInput

def group? : FilterInput → Option FilterGroup
  | .absent => none
  | .item i => some ⟨.and, [.item i]⟩
  | .items is => some ⟨.and, is.map .item⟩
  | .group g => some g

def normalize (input : FilterInput) : Except QueryError (Option FilterGroup) :=
  match input.group? with
  | none => .ok none
  | some g => do return some (← g.normalize)

end FilterInput

/-- The texts by which the children of a group are put in order before they are compared. -/
structure NodeKey where
  field : String
  kind : String
  value : String

namespace NodeKey

def le (a b : NodeKey) : Bool :=
  match compare a.field b.field with
  | .lt => true
  | .gt => false
  | .eq =>
    match compare a.kind b.kind with
    | .lt => true
    | .gt => false
    | .eq => compare a.value b.value != .gt

end NodeKey

namespace FilterNode

def sortKey : FilterNode → NodeKey
  | .item i => ⟨Path.toDotted i.field, i.effectiveOperator.name, i.value.text⟩
  | .group logic children =>
    ⟨"", match logic with | .and => "And" | .or => "Or", toString children.length⟩

def sortChildren (children : List FilterNode) : List FilterNode :=
  children.mergeSort fun a b => a.sortKey.le b.sortKey

mutual

/-- The node with the children of every group in comparison order. A child keeps its sort key when
its own children are reordered. -/
def arrange : FilterNode → FilterNode
  | .item i => .item i
  | .group logic children => .group logic (sortChildren (arrangeAll children))

def arrangeAll : List FilterNode → List FilterNode
  | [] => []
  | node :: rest => arrange node :: arrangeAll rest

end

def sameItem (a b : FilterItem) : Bool :=
  a.field == b.field && a.effectiveOperator == b.effectiveOperator && a.value == b.value &&
    a.ignoreCase == b.ignoreCase

mutual

def same : FilterNode → FilterNode → Bool
  | .item a, .item b => sameItem a b
  | .group l as, .group m bs => l == m && sameAll as bs
  | _, _ => false

def sameAll : List FilterNode → List FilterNode → Bool
  | [], [] => true
  | a :: as, b :: bs => same a b && sameAll as bs
  | _, _ => false

end

end FilterNode

namespace FilterInput

def compare (a b : FilterInput) : Except QueryError Bool := do
  match ← a.normalize, ← b.normalize with
  | none, none => return true
  | some a, some b => return a.toNode.arrange.same b.toNode.arrange
  | _, _ => return false

end FilterInput

/-- What a row answers when one of its fields is looked up. -/
abbrev Lookup := Path → Option Json

class Record (α : Type) where
  lookup : α → Lookup

instance : Record Json := ⟨Json.get?⟩

/-- The value at a path into an object. The empty path leads nowhere. -/
def Object.lookup (fields : Object) : Lookup
  | [] => none
  | key :: rest => (KeyMap.get? fields key).bind (·.get? rest)

instance : Record Object := ⟨Object.lookup⟩

section Compiling

variable [PatternEngine]

namespace FilterNode

def compileItem (i : FilterItem) (table : OperatorTable) : Except QueryError (Lookup → Bool) := do
  let test ← table.compile i.effectiveOperator i.value i.ignoreCase
  return fun row => test (row i.field)

mutual

def compile (table : OperatorTable) : FilterNode → Except QueryError (Lookup → Bool)
  | .item i => compileItem i table
  | .group logic children => do
    let tests ← compileAll table children
    return match logic with
      | .and => fun row => tests.all (· row)
      | .or => fun row => tests.any (· row)

def compileAll (table : OperatorTable) :
    List FilterNode → Except QueryError (List (Lookup → Bool))
  | [] => .ok []
  | node :: rest => do
    let test ← compile table node
    let tests ← compileAll table rest
    return test :: tests

end

end FilterNode

def FilterInput.compile (input : FilterInput) (table : OperatorTable) :
    Except QueryError (Lookup → Bool) := do
  match ← input.normalize with
  | none => return fun _ => true
  | some g => if g.isEmpty then return fun _ => true else g.toNode.compile table

end Compiling

namespace FilterItem

def ofJson? (j : Json) : Option FilterItem := do
  let d ← j.described? ["field", "operator", "value", "ignoreCase"]
  let field ← d.required? "field" Json.path?
  let operator ← d.optional? "operator" fun j => j.str?.map Operator.parse
  let value ← d.withDefault? "value" Json.null some
  let ignoreCase ← d.withDefault? "ignoreCase" false Json.bool?
  return { field, operator, value, ignoreCase }

def toJson (i : FilterItem) : Json :=
  .obj (KeyMap.ofList
    ([("field", Json.str (Path.toDotted i.field)), ("value", i.value)] ++
      (match i.operator with | some o => [("operator", .str o.name)] | none => []) ++
      (if i.ignoreCase then [("ignoreCase", .bool true)] else [])))

end FilterItem

namespace FilterGroup

def partsOf? (j : Json) : Option (Logic × List Json) := do
  let d ← j.described? ["logic", "filters"]
  let logic ← d.withDefault? "logic" .and fun j => j.variant?.bind Logic.ofName?
  let children ← d.required? "filters" Json.arr?
  return (logic, children)

end FilterGroup

namespace FilterNode

/-- A node is read as a group if it has the shape of one, otherwise as an item. The nesting of the value
bounds the recursion. -/
def ofJsonWithin? : Nat → Json → Option FilterNode
  | 0, _ => none
  | depth + 1, j =>
    let group? := (FilterGroup.partsOf? j).bind fun (logic, children) =>
      (children.mapM (ofJsonWithin? depth)).map (.group logic)
    group?.or ((FilterItem.ofJson? j).map .item)

mutual

def toJson : FilterNode → Json
  | .item i => i.toJson
  | .group logic children =>
    .obj [("filters", .arr (toJsonAll children)), ("logic", .str logic.name)]

def toJsonAll : List FilterNode → List Json
  | [] => []
  | node :: rest => toJson node :: toJsonAll rest

end

end FilterNode

namespace FilterNode

def ofJson? (j : Json) : Option FilterNode := ofJsonWithin? (j.depth + 1) j

end FilterNode

namespace FilterGroup

def ofJson? (j : Json) : Option FilterGroup := do
  let (logic, children) ← partsOf? j
  let filters ← children.mapM FilterNode.ofJson?
  return { logic, filters }

def toJson (g : FilterGroup) : Json := g.toNode.toJson

end FilterGroup

namespace FilterInput

def ofJson (j : Json) : Except QueryError FilterInput :=
  let read {α : Type} (read? : Option α) (make : α → FilterInput) : Except QueryError FilterInput :=
    match read? with
    | some a => .ok (make a)
    | none => .error .malformed
  match j with
  | .null => .ok .absent
  | .arr descriptions => read (descriptions.mapM FilterItem.ofJson?) .items
  | .obj fields =>
    if KeyMap.contains fields "filters" then read (FilterGroup.ofJson? j) .group
    else if KeyMap.contains fields "field" then read (FilterItem.ofJson? j) .item
    else .error .missingField
  | other => .error (.unsupportedFilter other)

end FilterInput

end RecordSync
