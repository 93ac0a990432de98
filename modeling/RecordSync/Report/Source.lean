import RecordSync.Report.Model
import RecordSync.Report.Paginator
import RecordSync.Report.Provider
import RecordSync.Source.Command
import RecordSync.Source.Session

/-!
# Sources as data

Models are shown by labels, which are given in the order in which the models are first shown.
-/

set_option autoImplicit false

namespace RecordSync

def SourceError.failure (e : SourceError) : Failure :=
  match e with
  | .model cause => cause.failure
  | .provider cause => cause.failure
  | .query cause => cause.failure
  | .missingKey _ => { kind := "MissingKey", message := some e.message }

structure Labels where
  shown : List ModelId

namespace Labels

def meet (l : Labels) (ids : List ModelId) : Labels :=
  ids.foldl (fun l id => if l.shown.contains id then l else ⟨l.shown ++ [id]⟩) l

def name (l : Labels) (id : ModelId) : Json := .str ("m" ++ toString (l.shown.idxOf id))

def names (l : Labels) (ids : List ModelId) : Json := .arr (ids.map l.name)

def find? (l : Labels) (label : Json) : Option ModelId :=
  l.shown.find? fun id => l.name id == label

end Labels

structure Shown where
  ids : List ModelId := []
  render : Labels → Json

namespace Shown

def plain (j : Json) : Shown := { render := fun _ => j }

def model (id : ModelId) : Shown := { ids := [id], render := fun l => l.name id }

def models (ids : List ModelId) : Shown := { ids, render := fun l => l.names ids }

def present (s : Shown) (l : Labels) : Json × Labels :=
  let l := l.meet s.ids
  (s.render l, l)

end Shown

namespace Source

def memberReport (s : Source) (l : Labels) (id : ModelId) : Json :=
  let dirty := ((s.model? id).map Model.dirty).getD []
  .obj [("dirty", .arr (dirty.map .str)), ("isNew", .bool (s.holds Model.isNew id)), ("js", .obj (s.entity id)),
    ("model", l.name id)]

def report (s : Source) : Shown :=
  let c := s.changes
  { ids := s.data ++ c.added ++ c.updated ++ c.removed
    render := fun l => .ofFields
      [("data", .arr (s.data.map (s.memberReport l))), ("added", l.names c.added), ("updated", l.names c.updated),
        ("removed", l.names c.removed), ("hasChanges", .bool !c.isEmpty), ("origin", .arr (s.origin.map .obj)),
        ("total", .ofNat s.total), ("meta", .obj s.extra)] }

def filterReport (s : Source) : Json := .orNull (s.filter.map FilterGroup.toJson)

def sortReport (s : Source) : Json := .orNull (s.sort.map fun ds => .arr (ds.map SortDescriptor.toJson))

end Source

def Session.info (s : Session) : Json :=
  let source := s.source
  .ofFields [("cursor", .orNull (source.paginator.cursor?.map Cursor.toJson)), ("empty", .bool source.data.isEmpty),
    ("fetching", .bool s.isFetching), ("len", .ofNat source.data.length), ("loading", .bool s.isFetching),
    ("noChanges", .bool source.changes.isEmpty), ("page", .orNull (source.paginator.page?.map .ofNat)),
    ("pageSize", .orNull (source.paginator.pageSize?.map .ofNat)), ("paginator", source.paginator.toJson),
    ("primary", .str source.schema.primary), ("schemaPrimary", .str source.schema.primary),
    ("syncing", .bool s.isSyncing)]

def SourceReply.report : SourceReply → Shown
  | .done => .plain .null
  | .position index => .plain (.orNull (index.map .ofNat))
  | .model none => .plain .null
  | .model (some id) => .model id
  | .models ids => .models ids
  | .verdict accepted => .plain (.orNull (accepted.map .bool))

namespace Session

def Operation.ofName? : String → Option Operation
  | "sync" => some .sync
  | "fetch" => some .fetch
  | "fetch_init" => some .fetchInit
  | _ => none

def completionReport (operation : Operation) : Option Completion → Shown
  | none => .plain .null
  | some (.error e) => .plain e.failure.toJson
  | some (.ok ids) => if operation == .sync then .plain .null else .models ids

end Session

def Item.ofJson? (l : Labels) (j : Json) : Option Item :=
  match j.field? "model" with
  | some label => (l.find? label).map .model
  | none => ((j.field? "entity").bind Json.obj?).map .entity

def SourceCommand.ofJson? (l : Labels) (kind : String) (j : Json) : Option SourceCommand := do
  let index := (j.field? "index").bind Json.unsigned64?
  let model := (j.field? "model").bind l.find?
  let items := (j.field? "items").bind (Json.list? (Item.ofJson? l))
  match kind with
  | "add" => return .add (← Item.ofJson? l j)
  | "insert" => return .insert (← index) (← Item.ofJson? l j)
  | "splice" => return .splice (← index) (← (← j.field? "delete").unsigned64?) (← items)
  | "remove" => return .remove (← model)
  | "remove_at" => return .removeAt (← index)
  | "set_data" => return .setData (← items)
  | "cancel" =>
    match j.field? "model" with
    | none => return .cancelAll
    | some .null => return .cancelAll
    | some label => return .cancel (← l.find? label)
  | "submit" => return .submit
  | _ => none

end RecordSync
