import RecordSync.Document.Tree
import RecordSync.Json.Described

/-!
# Changes and edits as data
-/

set_option autoImplicit false

namespace RecordSync

def Path.toJson (p : Path) : Json := .arr (p.map .str)

namespace Change

def toJson : Change → Json
  | .add name new => .obj [("name", .str name), ("new", new), ("type", .str "add")]
  | .update name old new => .obj [("name", .str name), ("new", new), ("old", old), ("type", .str "update")]
  | .remove name old => .obj [("name", .str name), ("old", old), ("type", .str "remove")]
  | .splice index removed added =>
    .obj [("added", .arr added), ("index", .ofNat index), ("removed", .arr removed), ("type", .str "splice")]

def ofJson? (j : Json) : Option Change := do
  match ← (← j.field? "type").str? with
  | "add" => return .add (← (← j.field? "name").str?) (← j.field? "new")
  | "update" => return .update (← (← j.field? "name").str?) (← j.field? "old") (← j.field? "new")
  | "remove" => return .remove (← (← j.field? "name").str?) (← j.field? "old")
  | "splice" =>
    return .splice (← (← j.field? "index").unsigned64?) (← (← j.field? "removed").arr?)
      (← (← j.field? "added").arr?)
  | _ => none

end Change

def Mutation.toJson : Mutation → Json
  | .unchanged => .str "unchanged"
  | .rejected => .str "rejected"
  | .unresolved => .str "unresolved"
  | .applied e =>
    .obj [("applied", .ofFields [("change", e.change.toJson), ("path", Path.toJson e.path),
      ("fullPath", Path.toJson e.fullPath), ("root", .orNull (e.rootName?.map .str)),
      ("newValue", .ofFound e.change.new?), ("isUpdate", .bool e.change.isUpdate)])]

def Sighting.toJson : Sighting → Json
  | .intercepted _ change path => .obj [("intercepted", change.toJson), ("path", Path.toJson path)]
  | .observed id change path root =>
    .obj [("change", change.toJson), ("observer", .ofNat id), ("path", Path.toJson path), ("root", root)]

def Edit.ofJson? (kind : String) (j : Json) : Option Edit := do
  let path ← match j.field? "path" with
    | none => some []
    | some p => Json.path? p
  match kind with
  | "set" => return .set path (← j.field? "value")
  | "push" => return .push path (← j.field? "value")
  | "remove" => return .remove path
  | "splice" =>
    return .splice path (← (← j.field? "index").unsigned64?) (← (← j.field? "delete").unsigned64?)
      (← (← j.field? "items").arr?)
  | _ => none

end RecordSync
