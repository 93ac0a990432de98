import RecordSync.Model.Basic

/-!
# Virtual fields

A virtual field is computed when it is read and carries out a write of other fields when it is written. It
is addressed by its name as a whole, before paths are looked at.
-/

set_option autoImplicit false

namespace RecordSync

structure VirtualField where
  getter : Option (Model → Option Json)
  setter : Option (Model → Json → Written Bool)

abbrev VirtualFields := KeyMap VirtualField

namespace VirtualFields

def getter? (fields : VirtualFields) (name : String) : Option (Model → Option Json) :=
  (KeyMap.get? fields name).bind (·.getter)

def setter? (fields : VirtualFields) (name : String) : Option (Model → Json → Written Bool) :=
  (KeyMap.get? fields name).bind (·.setter)

end VirtualFields

structure Tracked where
  model : Model
  fields : VirtualFields

def Tracked.build (uuid : String) (schema : EntityRules) (fields : VirtualFields) (value : Json) :
    Except ModelError Tracked :=
  match value with
  | .obj entity => do return { model := ← Model.build uuid schema entity, fields }
  | other => .error (.notAnObject other)

namespace Model

def property (m : Model) (fields : VirtualFields) (name : String) : Option Json :=
  match fields.getter? name with
  | some getter => getter m
  | none => m.getAt (Path.ofDotted name)

def set (m : Model) (fields : VirtualFields) (name : String) (value : Json) : Written Bool :=
  match fields.setter? name with
  | some setter => setter m value
  | none => m.setAt (Path.ofDotted name) value

def setVirtual (m : Model) (fields : VirtualFields) : List (String × Json) → Written Bool
  | [] => ⟨true, m, []⟩
  | (name, value) :: rest =>
    let w := m.set fields name value
    let later := w.model.setVirtual fields rest
    ⟨w.result && later.result, later.model, w.signals ++ later.signals⟩

/-- Writes several top-level fields: the stored ones as one batch, then the virtual ones. -/
def setFields (m : Model) (fields : VirtualFields) (values : Entity) : Written Bool :=
  let (virtual, stored) := values.partition fun entry => (fields.setter? entry.1).isSome
  let w := m.setMany stored
  let later := w.model.setVirtual fields virtual
  ⟨w.result && later.result, later.model, w.signals ++ later.signals⟩

end Model

end RecordSync
