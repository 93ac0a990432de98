import RecordSync.Document.Edit
import RecordSync.Schema.Validate

/-!
# Tracked models

A model holds one entity twice: the working copy that is edited, and the committed copy it is compared with.
The top-level fields in which the two differ are dirty. Writes to read-only parts and values that do not fit
the schema are refused, with a warning.
-/

set_option autoImplicit false

namespace RecordSync

abbrev Entity := Object

inductive ModelError where
  | validation (errors : List ValidationError)
  | notAnObject (value : Json)

namespace ModelError

def message : ModelError → String
  | .validation errors => "Model validation failed: " ++ ValidationError.summary errors
  | .notAnObject value => "Model data must be an object, got " ++ value.text

end ModelError

structure Model where
  uuid : String
  schema : EntityRules
  root : Json
  committed : Entity
  dirty : List String
  observers : List Nat
  nextObserver : Nat

inductive ModelSignal where
  /-- A change was applied; observers see the model as it is after the whole batch. -/
  | changed (event : ChangeEvent) (model : Model)
  | warning (text : String)

/-- The result of a write, the model after it, and what was reported, in order. -/
structure Written (α : Type) where
  result : α
  model : Model
  signals : List ModelSignal

namespace Model

def build (uuid : String) (schema : EntityRules) (entity : Entity) : Except ModelError Model :=
  match schema.validate (.obj entity) [] with
  | (value, []) =>
    match value with
    | .obj fields =>
      .ok { uuid, schema, root := value, committed := fields, dirty := [], observers := [],
            nextObserver := 0 }
    | other => .error (.notAnObject other)
  | (_, errors) => .error (.validation errors)

def primary (m : Model) : String := m.schema.primary

def field? (m : Model) (name : String) : Option Json := m.root.field? name

def getAt (m : Model) (path : Path) : Option Json := m.root.get? path

def isDirty (m : Model) : Bool := !m.dirty.isEmpty

def isPropertyDirty (m : Model) (name : String) : Bool := m.dirty.contains name

/-- The values of the dirty fields; deleted ones are left out. -/
def dirtyFields (m : Model) : Entity :=
  KeyMap.ofList (m.dirty.filterMap fun name => (m.field? name).map (name, ·))

def key? (m : Model) : Option Json := m.field? m.primary

/-- A model is new as long as its primary key is missing or falsy. -/
def isNew (m : Model) : Bool := !Json.truthy m.key?

def toEntity (m : Model) : Entity := m.root.obj?.getD []

def toStampedEntity (m : Model) : Entity := KeyMap.insert m.toEntity "__uuid" (.str m.uuid)

def observe (m : Model) : Nat × Model :=
  (m.nextObserver,
    { m with observers := m.observers ++ [m.nextObserver], nextObserver := m.nextObserver + 1 })

def dispose (m : Model) (id : Nat) : Model := { m with observers := m.observers.filter (· != id) }

/-- The schema's say on a change: the change with its value cast, or why it is refused. Adding the primary key is
always allowed, so that new models can receive their identity. -/
def allow (schema : EntityRules) (event : ChangeEvent) : Except String Change :=
  let full := event.fullPath
  let addsKey := match event.change with
    | .add name _ => event.path.isEmpty && name == schema.primary
    | _ => false
  if addsKey then .ok event.change
  else if schema.isReadOnly full then
    .error ("rejected write to read-only field `" ++ Path.toDotted full ++ "`")
  else
    match event.change.new? with
    | none => .ok event.change
    | some new =>
      match schema.validate new full with
      | (new, []) => .ok (event.change.withNew new)
      | (_, errors) =>
        .error ("rejected write to `" ++ Path.toDotted full ++ "`: " ++ ValidationError.summary errors)

def track (m : Model) (event : ChangeEvent) : Model :=
  match event.rootName? with
  | none => m
  | some name =>
    let diverged := m.field? name != KeyMap.get? m.committed name
    if diverged then
      if m.dirty.contains name then m else { m with dirty := m.dirty ++ [name] }
    else { m with dirty := m.dirty.erase name }

def write (m : Model) (edit : Edit) (bypass : Bool) : Written Mutation :=
  let admitted (event : ChangeEvent) : Option Change :=
    if bypass then some event.change else (allow m.schema event).toOption
  let (mutation, root) := edit.run admitted m.root
  match mutation with
  | .applied event => ⟨mutation, { m with root }.track event, []⟩
  | .rejected =>
    let reason := match edit.propose m.root with
      | .change event =>
        match allow m.schema event with
        | .error text => [.warning text]
        | .ok _ => []
      | _ => []
    ⟨mutation, m, reason⟩
  | _ => ⟨mutation, m, []⟩

def announce (m : Model) (events : List ChangeEvent) : List ModelSignal :=
  events.map fun event => .changed event m

def edit (m : Model) (e : Edit) : Written Bool :=
  let w := m.write e false
  ⟨w.result.isAccepted, w.model, w.signals ++ w.model.announce w.result.event?.toList⟩

/-- Where a write to a path takes place: keys that lead to nothing yet, or to `null`, are folded into the
value that is written, so that the write happens at the deepest place that exists. -/
def vivify (root : Json) (path : Path) (value : Json) : Path × Json :=
  let isVacant (depth : Nat) : Bool :=
    match root.get? (path.take depth) with
    | none | some .null => true
    | some _ => false
  let depth := ((List.range' 1 (path.length - 1)).find? isVacant).getD path.length
  (path.take depth, (path.drop depth).foldr (fun key inner => .obj [(key, inner)]) value)

def setAt (m : Model) (path : Path) (value : Json) : Written Bool :=
  if path.isEmpty then ⟨false, m, []⟩
  else
    let (target, folded) := vivify m.root path value
    if target.length < path.length && m.schema.isReadOnly path then
      ⟨false, m, [.warning ("rejected write to read-only field `" ++ Path.toDotted path ++ "`")]⟩
    else m.edit (.set target folded)

def push (m : Model) (path : Path) (value : Json) : Written Bool := m.edit (.push path value)

def splice (m : Model) (path : Path) (index count : Nat) (items : List Json) : Written Bool :=
  m.edit (.splice path index count items)

def remove (m : Model) (path : Path) : Written Bool := m.edit (.remove path)

/-- Writes top-level fields one after the other, without telling observers; the result is whether all were
accepted, and the events. -/
def writeAll (m : Model) (bypass : Bool) : List (String × Json) → Written (Bool × List ChangeEvent)
  | [] => ⟨(true, []), m, []⟩
  | (name, value) :: rest =>
    let w := m.write (.set [name] value) bypass
    let later := w.model.writeAll bypass rest
    ⟨(w.result.isAccepted && later.result.1, w.result.event?.toList ++ later.result.2), later.model,
      w.signals ++ later.signals⟩

/-- Writes top-level fields as one batch: observers are told when all of them are in place. -/
def setMany (m : Model) (values : Entity) : Written Bool :=
  let w := m.writeAll false values
  ⟨w.result.1, w.model, w.signals ++ w.model.announce w.result.2⟩

def submit (m : Model) : Model := { m with committed := m.toEntity, dirty := [] }

def revertField (m : Model) (name : String) : Written Mutation :=
  let edit := match KeyMap.get? m.committed name with
    | some value => Edit.set [name] value
    | none => .remove [name]
  let w := m.write edit true
  { w with model := { w.model with dirty := w.model.dirty.filter (· != name) } }

def revertFields (m : Model) : List String → Written (List ChangeEvent)
  | [] => ⟨[], m, []⟩
  | name :: rest =>
    let w := m.revertField name
    let later := w.model.revertFields rest
    ⟨w.result.event?.toList ++ later.result, later.model, w.signals ++ later.signals⟩

def revert (m : Model) (names : List String) : Written Unit :=
  let w := m.revertFields names
  ⟨(), w.model, w.signals ++ w.model.announce w.result⟩

def reset (m : Model) : Written Unit := m.revert m.dirty

def resetProperty (m : Model) (name : String) : Written Unit :=
  if m.isPropertyDirty name then m.revert [name] else ⟨(), m, []⟩

/-- Writes the fields a server has the last word on, whatever the schema says, and makes the result the
committed copy. Observers are told before it is. -/
def rebase (m : Model) (values : Entity) : Written Unit :=
  let w := m.writeAll true values
  ⟨(), w.model.submit, w.signals ++ w.model.announce w.result.2⟩

end Model

end RecordSync
