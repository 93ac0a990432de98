import RecordSync.Query.Group

/-!
# Results of queries as data
-/

set_option autoImplicit false

namespace RecordSync

def Operator.report (o : Operator) : Json :=
  let isNamed := match o with
    | .named _ => true
    | _ => false
  .obj [("name", .str o.name), ("named", .bool isNamed)]

def Scalar.report (s : Scalar) : Json :=
  let typed (type : String) (value : Json) : Json := .obj [("type", .str type), ("value", value)]
  match s with
  | .undefined => .obj [("type", .str "undefined")]
  | .null => .obj [("type", .str "null")]
  | .bool b => typed "bool" (.bool b)
  | .number x => typed "number" (.ofDouble x)
  | .text s => typed "text" (.str s)
  | .date millis => typed "date" (.ofInt millis)
  | .other j => typed "other" j

def orderingToJson : Ordering → Json
  | .lt => .ofInt (-1)
  | .eq => .ofInt 0
  | .gt => .ofInt 1

section Rows

variable {α : Type} (rowToJson : α → Json)

def Bucket.toJson (b : Bucket α) : Json :=
  .obj [("field", .str b.field), ("items", .arr (b.items.map rowToJson)), ("value", b.value)]

def Group.describe (g : Group α) (members : String × Json) : Json :=
  .ofFields [("field", .str g.field), ("value", g.value), ("hasSubgroups", .bool g.hasSubgroups),
    ("aggregates", g.aggregates.toJson), ("len", .ofNat g.size), ("empty", .bool (g.size == 0)), members]

mutual

def Group.toJson : Group α → Json
  | .leaf field value aggregates rows =>
    (Group.leaf field value aggregates rows).describe ("rows", .arr (rows.map rowToJson))
  | .branch field value aggregates groups =>
    (Group.branch field value aggregates groups).describe ("groups", .arr (Group.allToJson groups))

def Group.allToJson : List (Group α) → List Json
  | [] => []
  | g :: rest => Group.toJson g :: Group.allToJson rest

end

def rowsReport (rows : List α) : Json :=
  .obj [("empty", .bool rows.isEmpty), ("len", .ofNat rows.length), ("rows", .arr (rows.map rowToJson))]

end Rows

def AggregateResult.report (r : AggregateResult) (d : AggregateDescriptor) : Json :=
  let field := Path.toDotted d.field
  let methods := (KeyMap.get? r field).map fun ms => Json.obj (ms.map fun entry => (entry.1.name, entry.2))
  .ofFields [("method", .str d.method.name), ("get", .ofFound (r.get? field d.method)),
    ("field", .orNull methods), ("empty", .bool r.isEmpty), ("inner", r.toJson)]

end RecordSync
