import RecordSync.Document.Edit

/-!
# Observable documents

Every write to a tree is shown to its interceptors, in the order in which they were registered, each of which may
alter or veto it, and an applied change is then shown to the observers. What interceptors and observers were shown
is part of the result of a write.
-/

set_option autoImplicit false

namespace RecordSync

abbrev Interceptor := Change → Path → Option Change

inductive Sighting where
  | intercepted (id : Nat) (change : Change) (path : Path)
  | observed (id : Nat) (change : Change) (path : Path) (root : Json)

structure Tree where
  root : Json
  interceptors : List (Nat × Interceptor)
  observers : List Nat
  nextId : Nat

namespace Tree

def ofObject (fields : Object) : Tree :=
  { root := .obj fields, interceptors := [], observers := [], nextId := 0 }

def intercept (t : Tree) (i : Interceptor) : Nat × Tree :=
  (t.nextId, { t with interceptors := t.interceptors ++ [(t.nextId, i)], nextId := t.nextId + 1 })

def observe (t : Tree) : Nat × Tree :=
  (t.nextId, { t with observers := t.observers ++ [t.nextId], nextId := t.nextId + 1 })

def unsubscribe (t : Tree) (id : Nat) : Bool × Tree :=
  (t.observers.contains id || t.interceptors.any fun i => i.1 == id,
    { t with
      interceptors := t.interceptors.filter fun i => i.1 != id
      observers := t.observers.filter (· != id) })

def consult (interceptors : List (Nat × Interceptor)) (change : Change) (path : Path) :
    Option Change × List Sighting :=
  match interceptors with
  | [] => (some change, [])
  | (id, i) :: rest =>
    let seen : Sighting := .intercepted id change path
    match i change path with
    | none => (none, [seen])
    | some change =>
      let (result, later) := consult rest change path
      (result, seen :: later)

def notify (observers : List Nat) (event : ChangeEvent) (root : Json) : List Sighting :=
  observers.map fun id => .observed id event.change event.path root

def write (t : Tree) (edit : Edit) (bypass : Bool) : Mutation × Tree × List Sighting :=
  match edit.propose t.root with
  | .unchanged => (.unchanged, t, [])
  | .unresolved => (.unresolved, t, [])
  | .change event =>
    let (admitted, seen) := consult (if bypass then [] else t.interceptors) event.change event.path
    match admitted with
    | none => (.rejected, t, seen)
    | some change =>
      let event := { event with change }
      match event.applyTo? t.root with
      | none => (.unresolved, t, seen)
      | some root => (.applied event, { t with root }, seen ++ notify t.observers event root)

end Tree

inductive TreeCommand where
  | write (edit : Edit) (bypass : Bool)
  | intercept (i : Interceptor)
  | observe
  | unsubscribe (id : Nat)

namespace Tree

def perform (t : Tree) : TreeCommand → Option ChangeEvent × Tree
  | .write edit bypass => ((t.write edit bypass).1.event?, (t.write edit bypass).2.1)
  | .intercept i => (none, (t.intercept i).2)
  | .observe => (none, t.observe.2)
  | .unsubscribe id => (none, (t.unsubscribe id).2)

def performAll (t : Tree) : List TreeCommand → List ChangeEvent × Tree
  | [] => ([], t)
  | command :: rest =>
    let (event, t) := t.perform command
    let (later, t) := t.performAll rest
    (event.toList ++ later, t)

end Tree

end RecordSync
