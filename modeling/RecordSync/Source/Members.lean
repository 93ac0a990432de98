import RecordSync.Source.Basic

/-!
# Members and their changes

- A model that enters the list is `added`, unless its removal was still pending: then it is back, and `updated` if
  it carries edits.
- A member that the provider knows is `updated` as long as it is dirty.
- A member that leaves the list is `removed`, unless it was only `added`.
-/

set_option autoImplicit false

namespace RecordSync

/-- What can enter the list: an entity, which is wrapped, or a model of the table. -/
inductive Item where
  | entity (entity : Entity)
  | model (id : ModelId)

namespace Source

def track (s : Source) (id : ModelId) : Source :=
  let c := s.changes
  if !s.data.contains id || c.added.contains id || s.holds Model.isNew id then s
  else if s.holds Model.isDirty id then
    if c.updated.contains id then s
    else { s with changes := { c with updated := c.updated ++ [id] } }.schedule
  else { s with changes := { c with updated := c.updated.erase id } }

/-- Takes note of what a model reported, if the source follows it. At each signal the model is as the signal shows
it. -/
def follow (s : Source) (id : ModelId) (signal : ModelSignal) : Source :=
  match signal with
  | .warning _ => s
  | .changed _ model =>
    let s := s.mapModel id fun _ => model
    if (s.subscriptions.lookup id).any model.observers.contains then s.track id else s

def write {α : Type} (s : Source) (id : ModelId) (f : Tracked → Written α) : Option (Written α × Source) :=
  s.models[id]?.map fun tracked =>
    let w := f tracked
    (w, (w.signals.foldl (fun s signal => s.follow id signal) s).mapModel id fun _ => w.model)

def enter (s : Source) (id : ModelId) : Bool × Source :=
  let s := s.attach id
  let c := s.changes
  if c.removed.contains id then
    let s := { s with
      changes := { c with removed := c.removed.erase id }
      removedAt := s.removedAt.filter fun entry => entry.1 != id }
    if s.holds Model.isDirty id && !s.holds Model.isNew id && !c.updated.contains id then
      (true, { s with changes := { s.changes with updated := c.updated ++ [id] } })
    else (false, s)
  else if c.added.contains id then (false, s)
  else (true, { s with changes := { c with added := c.added ++ [id] } })

def enterAll (s : Source) : List ModelId → Bool × Source
  | [] => (false, s)
  | id :: rest =>
    let (first, s) := s.enter id
    let (later, s) := s.enterAll rest
    (first || later, s)

def leave (s : Source) (id : ModelId) (index : Nat) : Source :=
  let s := s.detach id
  let c := { s.changes with updated := s.changes.updated.erase id }
  if c.added.contains id then { s with changes := { c with added := c.added.erase id } }
  else if s.holds Model.isNew id || c.removed.contains id then { s with changes := c }
  else
    { s with
      changes := { c with removed := c.removed ++ [id] }
      removedAt := s.removedAt.filter (fun entry => entry.1 != id) ++ [(id, index)] }

def leaveAll (s : Source) (start : Nat) (ids : List ModelId) : Source :=
  (ids.zipIdx start).foldl (fun s entry => s.leave entry.1 entry.2) s

/-- Exchanges up to `count` members at an index, which is clamped, for models. The result is the members that left. -/
def exchange (s : Source) (index count : Nat) (ids : List ModelId) : List ModelId × Source :=
  let start := min index s.data.length
  let removed := (s.data.drop start).take count
  let s := { s with data := s.data.take start ++ ids ++ s.data.drop (start + removed.length) }
  let (carries, s) := (s.leaveAll start removed).enterAll ids
  (removed, if carries then s.schedule else s)

def enroll (s : Source) : Item → Except SourceError (ModelId × Source)
  | .entity entity => (s.wrap entity).mapError .model
  | .model id => .ok (id, s)

def enrollAll (s : Source) : List Item → Except SourceError (List ModelId × Source)
  | [] => .ok ([], s)
  | item :: rest => do
    let (id, s) ← s.enroll item
    let (later, s) ← s.enrollAll rest
    return (id :: later, s)

def splice (s : Source) (index count : Nat) (items : List Item) : Except SourceError (List ModelId × Source) := do
  let (ids, s) ← s.enrollAll items
  return s.exchange index count ids

def insert (s : Source) (index : Nat) (item : Item) : Except SourceError (ModelId × Source) := do
  let (id, s) ← s.enroll item
  return (id, (s.exchange index 0 [id]).2)

def add (s : Source) (item : Item) : Except SourceError (ModelId × Source) := s.insert s.data.length item

def removeAt (s : Source) (index : Nat) : Option ModelId × Source :=
  let (removed, s) := s.exchange index 1 []
  (removed.head?, s)

def removeFirst (s : Source) (p : ModelId → Bool) : Option Nat × Source :=
  match s.data.findIdx? p with
  | none => (none, s)
  | some index => (some index, (s.exchange index 1 []).2)

def remove (s : Source) (id : ModelId) : Option Nat × Source := s.removeFirst (· == id)

def removeKey (s : Source) (key : PrimaryKey) : Option Nat × Source := s.removeFirst (s.hasKey key)

def replace (s : Source) (ids : List ModelId) : Source :=
  { s.detachAll with data := ids, changes := {}, removedAt := [] }.attachAll ids

def setData (s : Source) (items : List Item) : Except SourceError Source := do
  let (ids, s) ← s.enrollAll items
  return s.replace ids

/-- Takes in a page of entities. An entity that cannot be wrapped leaves everything as it was. -/
def load (s : Source) (c : Collection) : Except SourceError (List ModelId × Source) := do
  let (ids, s) ← (s.wrapAll c.data).mapError .model
  let s := { s with total := c.total.getD s.total, extra := c.extra, origin := c.data }
  return (ids, s.replace ids)

/-- Undoes all changes: the list is built again from the entities the provider last knew. -/
def cancelAll (s : Source) : Except SourceError Source := do
  let (ids, s) ← (s.wrapAll s.origin).mapError .model
  return s.replace ids

def restore (s : Source) (id : ModelId) : Source :=
  if s.changes.removed.contains id then
    let index := (s.removedAt.lookup id).getD s.data.length
    let s := { s with
      changes := { s.changes with removed := s.changes.removed.erase id }
      removedAt := s.removedAt.filter fun entry => entry.1 != id }.attach id
    { s with data := s.data.insertIdx (min index s.data.length) id }
  else s

def resetModel (s : Source) (id : ModelId) : Source :=
  match s.write id fun tracked => tracked.model.reset with
  | none => s
  | some (_, s) => { s with changes := { s.changes with updated := s.changes.updated.erase id } }

/-- Undoes the change of one model. A new model leaves the list. -/
def cancel (s : Source) (id : ModelId) : Source :=
  if s.holds Model.isNew id then (s.remove id).2
  else
    let s := if s.holds Model.isDirty id then s.resetModel id else s
    s.restore id

def submit (s : Source) : Source :=
  let s := (s.changes.added ++ s.changes.updated).foldl (fun s id => s.mapModel id Model.submit) s
  { s with changes := {}, removedAt := [], origin := s.entities }

end Source

end RecordSync
