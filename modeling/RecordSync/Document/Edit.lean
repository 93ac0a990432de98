import RecordSync.Document.Change

/-!
# Edits of a document

An edit is a request to write. It proposes a change of a container, unless the value is in place already
or the container does not exist. A proposal has to be admitted, possibly in a different form, and is
then applied.
-/

set_option autoImplicit false

namespace RecordSync

inductive Edit where
  /-- Writes a value. The index one past the end of an array appends. -/
  | set (path : Path) (value : Json)
  | remove (path : Path)
  /-- Exchanges up to `count` elements of an array for others; the index is clamped. -/
  | splice (path : Path) (index count : Nat) (items : List Json)
  | push (path : Path) (value : Json)

inductive Proposal where
  | change (event : ChangeEvent)
  | unchanged
  | unresolved

inductive Mutation where
  | applied (event : ChangeEvent)
  | unchanged
  | rejected
  | unresolved

namespace Mutation

def isAccepted : Mutation → Bool
  | .applied _ | .unchanged => true
  | .rejected | .unresolved => false

def event? : Mutation → Option ChangeEvent
  | .applied event => some event
  | _ => none

theorem isAccepted_of_event? {m : Mutation} (h : m.event?.isSome) : m.isAccepted = true := by
  cases m <;> simp_all [event?, isAccepted]

end Mutation

namespace Edit

def proposeSet (container : Json) (parent : Path) (name : String) (value : Json) : Proposal :=
  match container with
  | .obj fields =>
    match KeyMap.get? fields name with
    | some old => if old == value then .unchanged else .change ⟨.update name old value, parent⟩
    | none => .change ⟨.add name value, parent⟩
  | .arr items =>
    match readIndex? name with
    | none => .unresolved
    | some index =>
      match items[index]? with
      | some old => if old == value then .unchanged else .change ⟨.update name old value, parent⟩
      | none => if index = items.length then .change ⟨.splice index [] [value], parent⟩ else .unresolved
  | _ => .unresolved

def proposeRemove (container : Json) (parent : Path) (name : String) : Proposal :=
  match container with
  | .obj fields =>
    match KeyMap.get? fields name with
    | some old => .change ⟨.remove name old, parent⟩
    | none => .unchanged
  | .arr items =>
    match (readIndex? name).bind fun index => items[index]?.map (index, ·) with
    | some (index, old) => .change ⟨.splice index [old] [], parent⟩
    | none => .unchanged
  | _ => .unresolved

def proposeSplice (container : Json) (path : Path) (index count : Nat) (items : List Json) :
    Proposal :=
  match container with
  | .arr current =>
    let start := min index current.length
    let removed := (current.drop start).take count
    if removed.isEmpty && items.isEmpty then .unchanged
    else .change ⟨.splice start removed items, path⟩
  | _ => .unresolved

def parent? (root : Json) (path : Path) : Option (Json × Path × String) := do
  let name ← path.getLast?
  let container ← root.get? path.dropLast
  return (container, path.dropLast, name)

def propose (root : Json) : Edit → Proposal
  | .set path value =>
    match parent? root path with
    | some (container, parent, name) => proposeSet container parent name value
    | none => .unresolved
  | .remove path =>
    match parent? root path with
    | some (container, parent, name) => proposeRemove container parent name
    | none => .unresolved
  | .splice path index count items =>
    match root.get? path with
    | some container => proposeSplice container path index count items
    | none => .unresolved
  | .push path value =>
    match root.get? path with
    | some (.arr items) => proposeSplice (.arr items) path items.length 0 [value]
    | _ => .unresolved

end Edit

def commitChange (root : Json) (event : ChangeEvent) : Mutation × Json :=
  match event.applyTo? root with
  | some changed => (.applied event, changed)
  | none => (.unresolved, root)

def Edit.run (edit : Edit) (allow : ChangeEvent → Option Change) (root : Json) : Mutation × Json :=
  match edit.propose root with
  | .unchanged => (.unchanged, root)
  | .unresolved => (.unresolved, root)
  | .change event =>
    match allow event with
    | none => (.rejected, root)
    | some change => commitChange root { event with change }

end RecordSync
