import RecordSync.Json.Described

/-!
# Schemas

A schema describes the entities of one kind: the types of their values, the properties of objects, the items
of arrays, defaults, read-only parts and the name of the primary key. A path into an entity leads to
the schema of the value there; outside of what is described, everything is accepted.
-/

set_option autoImplicit false

namespace RecordSync

inductive ValueType where
  | string
  | number
  | integer
  | boolean
  | object
  | array
  | null
  deriving DecidableEq, Repr

namespace ValueType

def name : ValueType → String
  | .string => "string"
  | .number => "number"
  | .integer => "integer"
  | .boolean => "boolean"
  | .object => "object"
  | .array => "array"
  | .null => "null"

def all : List ValueType := [.string, .number, .integer, .boolean, .object, .array, .null]

def ofName? (name : String) : Option ValueType := all.find? fun t => t.name == name

theorem ofName?_name (t : ValueType) : ofName? t.name = some t := by cases t <;> decide

def ofJson? (j : Json) : Option ValueType := j.variant?.bind ofName?

end ValueType

inductive TypeSet where
  | one (type : ValueType)
  | many (types : List ValueType)
  deriving DecidableEq, Repr

namespace TypeSet

def types : TypeSet → List ValueType
  | .one t => [t]
  | .many ts => ts

def ofJson? (j : Json) : Option TypeSet :=
  ((ValueType.ofJson? j).map .one).or ((Json.list? ValueType.ofJson? j).map .many)

def toJson : TypeSet → Json
  | .one t => .str t.name
  | .many ts => .arr (ts.map fun t => .str t.name)

end TypeSet

structure Schema where
  declared : Option TypeSet
  properties : List (String × Schema)
  required : List String
  items : Option Schema
  default : Option Json
  readOnly : Bool
  primaryKey : Option String

namespace Schema

def empty : Schema :=
  { declared := none, properties := [], required := [], items := none, default := none,
    readOnly := false, primaryKey := none }

def ofType (t : ValueType) : Schema := { empty with declared := some (.one t) }

def standard : Schema := { ofType .object with primaryKey := some "id" }

def types (s : Schema) : List ValueType := (s.declared.map TypeSet.types).getD []

def primary (s : Schema) : String := s.primaryKey.getD "id"

def member? (s : Schema) (key : String) : Option Schema :=
  match KeyMap.get? s.properties key with
  | some p => some p
  | none => if (readIndex? key).isSome then s.items else none

def «at» (s : Schema) : Path → Schema
  | [] => s
  | key :: rest =>
    match s.member? key with
    | some m => m.at rest
    | none => empty

def isReadOnly (s : Schema) (path : Path) : Bool := (s.at path).readOnly

mutual

/-- The defaults a schema declares for the properties of an object. Nested objects take part when they
contribute at least one. -/
def defaults : Schema → Object
  | ⟨_, properties, _, _, _, _, _⟩ => defaultsOf properties

def defaultsOf : List (String × Schema) → Object
  | [] => []
  | (key, p) :: rest =>
    let nested := defaults p
    if p.types = [.object] then
      if nested.isEmpty then defaultsOf rest else (key, .obj nested) :: defaultsOf rest
    else
      match p.default with
      | some value => (key, value) :: defaultsOf rest
      | none => defaultsOf rest

end

/-- Reads a description; the nesting of the value bounds the recursion. -/
def ofJsonWithin? : Nat → Json → Option Schema
  | 0, _ => none
  | depth + 1, j => do
    let d ← j.described?
      ["type", "properties", "required", "items", "default", "readOnly", "primaryKey"]
    let declared ← d.optional? "type" TypeSet.ofJson?
    let properties ← d.withDefault? "properties" [] fun j =>
      j.obj?.bind fun fields =>
        fields.mapM fun (key, p) => (ofJsonWithin? depth p).map (key, ·)
    let required ← d.withDefault? "required" [] (Json.list? Json.str?)
    let items ← d.optional? "items" (ofJsonWithin? depth)
    let default ← d.optional? "default" some
    let readOnly ← d.withDefault? "readOnly" false Json.bool?
    let primaryKey ← d.optional? "primaryKey" Json.str?
    return { declared, properties, required, items, default, readOnly, primaryKey }

def ofJson? (j : Json) : Option Schema := ofJsonWithin? (j.depth + 1) j

mutual

/-- The description as data. Whether a value is read-only is always written; other absent or empty
parts are left out. -/
def toJson : Schema → Json
  | ⟨declared, properties, required, items, default, readOnly, primaryKey⟩ =>
    .obj ((default.map fun value => ("default", value)).toList ++ itemsToJson items ++
      (primaryKey.map fun key => ("primaryKey", Json.str key)).toList ++
      (if properties.isEmpty then [] else [("properties", Json.obj (propertiesToJson properties))]) ++
      [("readOnly", .bool readOnly)] ++
      (if required.isEmpty then [] else [("required", Json.arr (required.map .str))]) ++
      (declared.map fun types => ("type", types.toJson)).toList)

def itemsToJson : Option Schema → List (String × Json)
  | none => []
  | some s => [("items", toJson s)]

def propertiesToJson : List (String × Schema) → List (String × Json)
  | [] => []
  | (key, p) :: rest => (key, toJson p) :: propertiesToJson rest

end

end Schema

/-- Schemas by name; the standard schema stands for every other name. -/
structure SchemaRegistry where
  schemas : KeyMap Schema

namespace SchemaRegistry

def empty : SchemaRegistry := ⟨[]⟩

def add (r : SchemaRegistry) (name : String) (s : Schema) : SchemaRegistry :=
  ⟨KeyMap.insert r.schemas name s⟩

def addJson? (r : SchemaRegistry) (name : String) (j : Json) : Option SchemaRegistry :=
  (Schema.ofJson? j).map (r.add name)

def contains (r : SchemaRegistry) (name : String) : Bool := KeyMap.contains r.schemas name

def get (r : SchemaRegistry) (name : String) : Schema := (KeyMap.get? r.schemas name).getD .standard

end SchemaRegistry

end RecordSync
