import RecordSync.Identity
import RecordSync.Model.Command
import RecordSync.Provider.Basic
import RecordSync.Source.Paginator

/-!
# Data sources

A data source is a live list of models. It keeps the changes that the provider has not been told of yet, what is asked for
with the next fetch, and the entities as the provider last knew them.

All models that a source has ever seen are in its table and are known by their place there: a model that has left the
list is still edited by whoever holds it.
-/

set_option autoImplicit false

namespace RecordSync

abbrev ModelId := Nat

/-- The models whose changes the provider has not been told of. -/
structure Changes where
  added : List ModelId := []
  updated : List ModelId := []
  removed : List ModelId := []

def Changes.isEmpty (c : Changes) : Bool := c.added.isEmpty && c.updated.isEmpty && c.removed.isEmpty

inductive SourceError where
  | model (cause : ModelError)
  | provider (cause : ProviderError)
  | query (cause : QueryError)
  | missingKey (uuid : String)

def SourceError.message : SourceError → String
  | .model cause => cause.message
  | .provider cause => cause.message
  | .query cause => cause.message
  | .missingKey uuid => "Model " ++ uuid ++ " has no usable primary key"

structure Source where
  schema : EntityRules
  fields : VirtualFields
  /-- Is a sync scheduled as soon as there is something to tell the provider? -/
  autoSync : Bool
  ids : IdSupply
  models : List Tracked
  data : List ModelId
  /-- The entities as of the last fetch, sync or submit. -/
  origin : List Entity
  changes : Changes
  removedAt : List (ModelId × Nat)
  filter : Option FilterGroup
  sort : Option (List SortDescriptor)
  paginator : Paginator
  total : Nat
  extra : Entity
  subscriptions : List (ModelId × Nat)
  scheduled : Nat

namespace Source

def empty (schema : EntityRules) (fields : VirtualFields) (autoSync : Bool) (paginator : Paginator) : Source :=
  { schema, fields, autoSync, paginator, ids := .models, models := [], data := [], origin := [], changes := {},
    removedAt := [], filter := none, sort := none, total := 0, extra := [], subscriptions := [], scheduled := 0 }

def model? (s : Source) (id : ModelId) : Option Model := s.models[id]?.map (·.model)

def holds (s : Source) (p : Model → Bool) (id : ModelId) : Bool := (s.model? id).any p

def entity (s : Source) (id : ModelId) : Entity := ((s.model? id).map Model.toEntity).getD []

def entities (s : Source) : List Entity := s.data.map s.entity

def hasKey (s : Source) (key : PrimaryKey) (id : ModelId) : Bool :=
  key.matchesValue ((s.model? id).bind Model.key?)

def find? (s : Source) (key : PrimaryKey) : Option ModelId := s.data.find? (s.hasKey key)

def fetchParams (s : Source) : FetchParams :=
  { filter := s.filter, sort := s.sort, page := s.paginator.page?, pageSize := s.paginator.pageSize?,
    cursor := s.paginator.cursor? }

def enterTable (s : Source) (tracked : Tracked) : ModelId × Source :=
  (s.models.length, { s with models := s.models ++ [tracked] })

def wrap (s : Source) (entity : Entity) : Except ModelError (ModelId × Source) := do
  let (uuid, ids) := s.ids.next
  return { s with ids }.enterTable (← Tracked.build uuid s.schema s.fields (.obj entity))

def wrapAll (s : Source) : List Entity → Except ModelError (List ModelId × Source)
  | [] => .ok ([], s)
  | entity :: rest => do
    let (id, s) ← s.wrap entity
    let (later, s) ← s.wrapAll rest
    return (id :: later, s)

def mapModel (s : Source) (id : ModelId) (f : Model → Model) : Source :=
  { s with models := s.models.modify id fun t => { t with model := f t.model } }

def detach (s : Source) (id : ModelId) : Source :=
  match s.subscriptions.lookup id with
  | none => s
  | some observer =>
    { s.mapModel id (·.dispose observer) with
      subscriptions := s.subscriptions.filter fun entry => entry.1 != id }

def attach (s : Source) (id : ModelId) : Source :=
  let s := s.detach id
  match s.model? id with
  | none => s
  | some model =>
    let (observer, model) := model.observe
    { s.mapModel id (fun _ => model) with subscriptions := s.subscriptions ++ [(id, observer)] }

def attachAll (s : Source) (ids : List ModelId) : Source := ids.foldl attach s

def detachAll (s : Source) : Source := (s.subscriptions.map (·.1)).foldl detach s

def schedule (s : Source) : Source := if s.autoSync then { s with scheduled := s.scheduled + 1 } else s

end Source

end RecordSync
