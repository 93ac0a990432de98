import RecordSync.Provider.Chain
import RecordSync.Report.Failure

/-!
# Providers as data
-/

set_option autoImplicit false

namespace RecordSync

def Collection.toJson (c : Collection) : Json :=
  .obj [("data", .arr (c.data.map .obj)), ("meta", .obj c.extra), ("total", .orNull (c.total.map .ofNat))]

def Request.toJson : Request → Json
  | .fetch params => .arr [.str "fetch", .orNull (params.map FetchParams.toJson)]
  | .get key => .arr [.str "get", key.toJson]
  | .create entity => .arr [.str "create", .obj entity]
  | .update key changes => .arr [.str "update", .arr [key.toJson, .obj changes]]
  | .remove key => .arr [.str "remove", key.toJson]

def HttpRequest.toJson (m : HttpRequest) : Json :=
  .obj [("body", .ofFound m.body), ("method", .str m.method.name),
    ("query", .arr (m.query.map fun (name, value) => .arr [.str name, .str value])), ("url", .str m.url)]

def Outcome.report (request : Request) (outcome : Outcome request.Answer) : Json :=
  match request, outcome with
  | _, .error e => e.failure.toJson
  | .fetch _, .ok collection => collection.toJson
  | .get _, .ok entity => .ofFound (entity.map .obj)
  | .create _, .ok entity => .obj entity
  | .update _ _, .ok entity => .obj entity
  | .remove _, .ok () => .null

def RequestKind.ofName? : String → Option RequestKind
  | "fetch" => some .fetch
  | "get" => some .get
  | "create" => some .create
  | "update" => some .update
  | "remove" => some .remove
  | _ => none

def Rows.report (r : Rows) : Json :=
  .obj [("data", .arr (r.entities.map .obj)), ("empty", .bool r.entities.isEmpty),
    ("len", .ofNat r.entities.length)]

namespace Provider

def snapshotsReport (p : Provider) (policy : SnapshotPolicy) : Json :=
  .arr ((p.snapshots.filter (·.policy == policy)).map fun s => .bool s.rows.isSome)

def traffic (before after : Provider) : List (String × Json) :=
  let calls := (after.recorders.zip before.recorders).flatMap fun (r, old) => r.log.drop old.log.length
  let messages := after.messages.drop before.messages.length
  (if after.hasRecorder then [("calls", Json.arr (calls.map Request.toJson))] else []) ++
    (if after.service?.isSome then [("requests", Json.arr (messages.map HttpRequest.toJson))] else [])

end Provider

end RecordSync
