import RecordSync.Model.Command
import RecordSync.Report.Document
import RecordSync.Report.Failure

/-!
# Models as data
-/

set_option autoImplicit false

namespace RecordSync

def validationReport (errors : List ValidationError) : Json :=
  .obj [("errors", .arr (errors.map ValidationError.toJson)), ("len", .ofNat errors.length),
    ("ok", .bool errors.isEmpty), ("text", .str (ValidationError.summary errors))]

def Model.report (m : Model) : Json :=
  .ofFields [("js", .obj m.toEntity), ("committed", .obj m.committed), ("dirty", Path.toJson m.dirty),
    ("dirtyFields", .obj m.dirtyFields), ("isDirty", .bool m.isDirty), ("isNew", .bool m.isNew),
    ("key", .ofFound m.key?)]

def warningsReport (signals : List ModelSignal) : Json :=
  .arr (signals.filterMap fun
    | .warning text => some (.str text)
    | .changed _ _ => none)

def eventsReport (names : List (Nat × String)) (signals : List ModelSignal) : Json :=
  .arr (signals.flatMap fun
    | .warning _ => []
    | .changed e m => m.observers.filterMap fun id =>
      (names.lookup id).map fun name =>
        .obj [("change", e.change.toJson), ("js", .obj m.toEntity), ("observer", .str name),
          ("path", Path.toJson e.path)])

def ModelCommand.ofJson? (kind : String) (j : Json) : Option ModelCommand :=
  let name : Option String := (j.field? "path").bind Json.str?
  let dotted : Option Path := name.map Path.ofDotted
  let value := j.field? "value"
  let values := (j.field? "values").bind Json.obj?
  match kind with
  | "set" => do return .set (← name) (← value)
  | "set_at" => do return .setAt (← Json.path? (← j.field? "path")) (← value)
  | "set_many" => values.map .setMany
  | "push" => do return .push (← dotted) (← value)
  | "splice" => do
    return .splice (← dotted) (← (← j.field? "index").unsigned64?) (← (← j.field? "delete").unsigned64?)
      (← (← j.field? "items").arr?)
  | "remove" => dotted.map .remove
  | "submit" => some .submit
  | "reset" => some .reset
  | "reset_property" => name.map .resetProperty
  | "rebase" => values.map .rebase
  | _ => none

def Model.answer? (m : Model) (fields : VirtualFields) (kind : String) (j : Json) : Option Json :=
  let name : Option String := (j.field? "path").bind Json.str?
  match kind with
  | "get" => name.map fun name => .ofFound (m.getAt (Path.ofDotted name))
  | "property" => name.map fun name => .ofFound (m.property fields name)
  | "get_at" => ((j.field? "path").bind Json.path?).map fun path => .ofFound (m.getAt path)
  | "is_property_dirty" => name.map fun name => .bool (m.isPropertyDirty name)
  | "to_js" =>
    some (.obj (if j.field? "uuid" == some (.bool true) then m.toStampedEntity else m.toEntity))
  | "primary" => some (.arr [.str m.primary, .str m.schema.primary])
  | _ => none

def Model.respond? (m : Model) (fields : VirtualFields) (kind : String) (j : Json) : Option (Written Json) :=
  match m.answer? fields kind j with
  | some answer => some ⟨answer, m, []⟩
  | none => (ModelCommand.ofJson? kind j).map fun command =>
    let w := m.perform fields command
    ⟨.orNull (w.result.map .bool), w.model, w.signals⟩

end RecordSync
