import RecordSync.Source.Basic

/-!
# What a source asks for

The filter and the sort of the next fetch. Filter items can be added and taken away one by one; an item is known by its
field and its operator.
-/

set_option autoImplicit false

namespace RecordSync

namespace FilterNode

def isItem (field : Path) (operator : Operator) : FilterNode → Bool
  | .item i => i.field == field && i.effectiveOperator == operator
  | .group _ _ => false

def isItemOn (field : String) (operator : Option Operator) : FilterNode → Bool
  | .item i => Path.toDotted i.field == field && operator.all fun o => i.effectiveOperator == o
  | .group _ _ => false

def withValue (value : Json) : FilterNode → FilterNode
  | .item i => .item { i with value }
  | node => node

end FilterNode

namespace Source

def setSort (s : Source) (sort : SortInput) (dir : SortDir) : Source := { s with sort := sort.normalize dir }

def setFilters (s : Source) (filter : FilterInput) : Except SourceError Source := do
  return { s with filter := ← filter.normalize.mapError .query }

/-- Adds an item at the top of the filter, or puts its value into the item of the same field and operator that is there
already. -/
def addFilter (s : Source) (item : FilterItem) : Except SourceError Source := do
  let item ← item.normalize.mapError .query
  let group := s.filter.getD ⟨.and, []⟩
  let filters := match group.filters.findIdx? (FilterNode.isItem item.field item.effectiveOperator) with
    | some index => group.filters.modify index (FilterNode.withValue item.value)
    | none => group.filters ++ [.item item]
  return { s with filter := some { group with filters } }

def removeFilter (s : Source) (field : String) (operator : Option String) : Bool × Source :=
  let operator := operator.map fun name => (Operator.parse name).canonicalize
  match s.filter with
  | none => (false, s)
  | some group =>
    if group.filters.any (FilterNode.isItemOn field operator) then
      let filters := group.filters.eraseP (FilterNode.isItemOn field operator)
      (true, { s with filter := some { group with filters } })
    else (false, s)

def setPaginator (s : Source) (command : PaginatorCommand) : Bool × Source :=
  let (accepted, paginator) := s.paginator.perform command
  (accepted, { s with paginator })

end Source

end RecordSync
