import RecordSync.Source.Command
import RecordSync.Source.Query

/-!
# Operations that can fail

Whatever takes entities or filters in can fail: an entity is refused, or a filter is invalid, or the provider has no
answer. Here each such operation is a sequence of steps on the state of a source, in the order in which they are made.
What has been written when a step fails stays written.

Models are made by a factory. The factory of a source wraps entities with its schema and its virtual fields.
-/

set_option autoImplicit false

namespace RecordSync

abbrev Attempt (α : Type) := ExceptT SourceError (StateM Source) α

def Attempt.on {α : Type} (attempt : Attempt α) (s : Source) : Except SourceError α × Source :=
  StateT.run (ExceptT.run attempt) s

def Attempt.of {α : Type} (outcome : Except SourceError α) : Attempt α := ExceptT.mk (return outcome)

/-- What a factory has made of an entity: new models, and the model that stands for the entity, unless it is
refused. -/
structure Made where
  ids : IdSupply
  models : List Tracked
  outcome : Except ModelError ModelId

abbrev Factory := IdSupply → List Tracked → EntityRules → Entity → Made

def Factory.wrapping (fields : VirtualFields) : Factory := fun ids table schema entity =>
  let (uuid, later) := ids.next
  match Tracked.build uuid schema fields (.obj entity) with
  | .error e => ⟨ids, [], .error e⟩
  | .ok tracked => ⟨later, [tracked], .ok table.length⟩

namespace Attempt

variable (make : Factory)

def wrap (entity : Entity) : Attempt ModelId := do
  let s ← get
  let made := make s.ids s.models s.schema entity
  set { s with ids := made.ids, models := s.models ++ made.models }
  .of (made.outcome.mapError .model)

def enroll : Item → Attempt ModelId
  | .entity entity => wrap make entity
  | .model id => return id

def enrollAll : List Item → Attempt (List ModelId)
  | [] => return []
  | item :: rest => do
    let id ← enroll make item
    return id :: (← enrollAll rest)

def wrapAll (entities : List Entity) : Attempt (List ModelId) := enrollAll make (entities.map .entity)

def splice (index count : Nat) (items : List Item) : Attempt (List ModelId) := do
  let ids ← enrollAll make items
  modifyGet (·.exchange index count ids)

def insert (index : Nat) (item : Item) : Attempt ModelId := do
  let id ← enroll make item
  modify fun s => (s.exchange index 0 [id]).2
  return id

def add (item : Item) : Attempt ModelId := do
  let s ← get
  insert make s.data.length item

def setData (items : List Item) : Attempt Unit := do
  let ids ← enrollAll make items
  modify (·.replace ids)

def cancelAll : Attempt Unit := do
  let s ← get
  let ids ← wrapAll make s.origin
  modify (·.replace ids)

def setFilters (filter : FilterInput) : Attempt Unit := do
  let filter ← .of (filter.normalize.mapError .query)
  modify ({ · with filter })

def addFilter (item : FilterItem) : Attempt Unit := do
  let item ← .of (item.normalize.mapError .query)
  modify fun s => { s with filter := some (s.filter.getD ⟨.and, []⟩) }
  modify fun s => { s with filter := s.filter.map fun group =>
    { group with filters :=
        match group.filters.findIdx? (FilterNode.isItem item.field item.effectiveOperator) with
        | some index => group.filters.modify index (FilterNode.withValue item.value)
        | none => group.filters ++ [.item item] } }

def receive (answer : Outcome Collection) : Attempt (List ModelId) := do
  let collection ← .of (answer.mapError .provider)
  let ids ← wrapAll make collection.data
  modify fun s => { s with total := collection.total.getD s.total }
  modify ({ · with extra := collection.extra })
  modify ({ · with origin := collection.data })
  modify (·.replace ids)
  return ids

def perform : SourceCommand → Attempt SourceReply
  | .add item => return .model (some (← add make item))
  | .insert index item => return .model (some (← insert make index item))
  | .splice index count items => return .models (← splice make index count items)
  | .setData items => do
    setData make items
    return .done
  | .cancelAll => do
    cancelAll make
    return .done
  | .remove id => return .position (← modifyGet (·.remove id))
  | .removeKey key => return .position (← modifyGet (·.removeKey key))
  | .removeAt index => return .model (← modifyGet (·.removeAt index))
  | .cancel id => do
    modify (·.cancel id)
    return .done
  | .submit => do
    modify (·.submit)
    return .done
  | .edit id command => modifyGet fun s =>
    match s.write id fun tracked => tracked.model.perform tracked.fields command with
    | none => (.verdict none, s)
    | some (w, s) => (.verdict w.result, s)

end Attempt

inductive CollectionOperation where
  | command (c : SourceCommand)
  | setFilters (filter : FilterInput)
  | addFilter (item : FilterItem)
  | receive (answer : Outcome Collection)

def CollectionOperation.attempt (make : Factory) : CollectionOperation → Attempt SourceReply
  | .command c => .perform make c
  | .setFilters filter => do
    Attempt.setFilters filter
    return .done
  | .addFilter item => do
    Attempt.addFilter item
    return .done
  | .receive answer => return .models (← Attempt.receive make answer)

end RecordSync
