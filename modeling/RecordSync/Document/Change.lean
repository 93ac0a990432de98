import RecordSync.Json.Path

/-!
# Changes of a document

A change is one structural mutation of a container: a key of an object is added, updated or removed, or a stretch of
an array is exchanged. It can be applied to a container of the right shape.
-/

set_option autoImplicit false

namespace RecordSync

inductive Change where
  | add (name : String) (new : Json)
  | update (name : String) (old new : Json)
  | remove (name : String) (old : Json)
  | splice (index : Nat) (removed added : List Json)

namespace Change

def name? : Change → Option String
  | .add name _ | .update name _ _ | .remove name _ => some name
  | .splice .. => none

def new? : Change → Option Json
  | .add _ new | .update _ _ new => some new
  | _ => none

def isUpdate : Change → Bool
  | .update .. => true
  | _ => false

def withNew (c : Change) (new : Json) : Change :=
  match c with
  | .add name _ => .add name new
  | .update name old _ => .update name old new
  | c => c

/-- The container after the change; `none` when the change does not fit its shape. A splice is clamped to
the end of the array. -/
def applyTo? : Change → Json → Option Json
  | .add name new, .obj fields | .update name _ new, .obj fields =>
    some (.obj (KeyMap.insert fields name new))
  | .update name _ new, .arr items =>
    match readIndex? name with
    | some index => if index < items.length then some (.arr (items.set index new)) else none
    | none => none
  | .remove name _, .obj fields => some (.obj (KeyMap.erase fields name))
  | .splice index removed added, .arr items =>
    some (.arr (items.take index ++ added ++ items.drop (index + removed.length)))
  | _, _ => none

end Change

structure ChangeEvent where
  change : Change
  path : Path

namespace ChangeEvent

def fullPath (e : ChangeEvent) : Path := e.path ++ e.change.name?.toList

def rootName? (e : ChangeEvent) : Option String := e.path.head?.or e.change.name?

def applyTo? (e : ChangeEvent) (root : Json) : Option Json := do
  let container ← root.get? e.path
  let changed ← e.change.applyTo? container
  root.replace? e.path changed

end ChangeEvent

end RecordSync
