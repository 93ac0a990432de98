import RecordSync.Source.Members

/-!
# Commands on sources

The local operations on a source as values, so that a history of a source is a list.
-/

set_option autoImplicit false

namespace RecordSync

inductive SourceCommand where
  | add (item : Item)
  | insert (index : Nat) (item : Item)
  | splice (index count : Nat) (items : List Item)
  | remove (id : ModelId)
  | removeKey (key : PrimaryKey)
  | removeAt (index : Nat)
  | setData (items : List Item)
  | cancelAll
  | cancel (id : ModelId)
  | submit
  | edit (id : ModelId) (command : ModelCommand)

inductive SourceReply where
  | done
  | position (index : Option Nat)
  | model (id : Option ModelId)
  | models (ids : List ModelId)
  | verdict (accepted : Option Bool)

namespace Source

/-- Carries out a command. An error leaves the source as it was. -/
def perform (s : Source) : SourceCommand → Except SourceError (SourceReply × Source)
  | .add item => do
    let (id, s) ← s.add item
    return (.model (some id), s)
  | .insert index item => do
    let (id, s) ← s.insert index item
    return (.model (some id), s)
  | .splice index count items => do
    let (removed, s) ← s.splice index count items
    return (.models removed, s)
  | .remove id => let (index, s) := s.remove id; .ok (.position index, s)
  | .removeKey key => let (index, s) := s.removeKey key; .ok (.position index, s)
  | .removeAt index => let (id, s) := s.removeAt index; .ok (.model id, s)
  | .setData items => do return (.done, ← s.setData items)
  | .cancelAll => do return (.done, ← s.cancelAll)
  | .cancel id => .ok (.done, s.cancel id)
  | .submit => .ok (.done, s.submit)
  | .edit id command =>
    match s.write id fun tracked => tracked.model.perform tracked.fields command with
    | none => .ok (.verdict none, s)
    | some (w, s) => .ok (.verdict w.result, s)

end Source

end RecordSync
