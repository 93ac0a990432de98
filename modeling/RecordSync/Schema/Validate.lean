import RecordSync.Json.Printer
import RecordSync.Schema.Basic
import RecordSync.Text

/-!
# Validation

Validating a value against a schema also normalises it: missing properties receive their defaults, numeric
texts become numbers where a number is asked for, and numbers become texts or booleans where one of
those is. What still does not fit is reported with the path at which it stands.
-/

set_option autoImplicit false

namespace RecordSync

structure ValidationError where
  message : String
  path : Path
  value : Json
  keyword : String

namespace ValidationError

def text (e : ValidationError) : String :=
  if e.path.isEmpty then e.message else Path.toDotted e.path ++ ": " ++ e.message

def summary (errors : List ValidationError) : String :=
  "validation failed: " ++ "; ".intercalate (errors.map text)

end ValidationError

namespace Schema

/-- The number a text denotes, blanks around it aside: an integer if it is one within 64 bits, and
otherwise a finite double. -/
def numberOfText? (s : String) : Option Json :=
  let trimmed := Unicode.trim s
  match readSigned64? trimmed with
  | some n => some (.ofInt n)
  | none =>
    match Decimal.readDouble? trimmed with
    | some (.finite x) => some (.num (.double x))
    | _ => none

def cast? (value : Json) (types : List ValueType) : Option Json :=
  match value with
  | .str s => if .number ∈ types ∨ .integer ∈ types then numberOfText? s else none
  | .num n =>
    if .string ∈ types then some (.str n.text)
    else if .boolean ∈ types then some (.bool (!n.toDouble.isZero))
    else none
  | _ => none

def isIntegral : Number → Bool
  | .int _ => true
  | .double x => (Double.finite x).toInt?.isSome

/-- The type of a value. Integral numbers are integers, unless all numbers are asked for. -/
def typeOf (value : Json) (allNumbers : Bool) : ValueType :=
  match value with
  | .str _ => .string
  | .bool _ => .boolean
  | .num n => if allNumbers || !isIntegral n then .number else .integer
  | .null => .null
  | .arr _ => .array
  | .obj _ => .object

def checkType (types : List ValueType) (path : Path) (value : Json) : Json × List ValidationError :=
  if types.isEmpty then (value, [])
  else
    let value := (cast? value types).getD value
    if typeOf value (types.contains .number) ∈ types then (value, [])
    else
      let names := ",".intercalate (types.map ValueType.name)
      (value, [{ message := "Type must be: " ++ names, path, value, keyword := "type" }])

/-- The required keys that an object lacks. A key with a truthy default is never missing. -/
def missingKeys (s : Schema) (fields : Object) : List String :=
  s.required.filter fun key =>
    !Json.truthy ((KeyMap.get? s.properties key).bind (·.default)) &&
      ((KeyMap.get? fields key).getD .null).isNull

def checkRequired (s : Schema) (path : Path) (fields : Object) : List ValidationError :=
  match s.missingKeys fields with
  | [] => []
  | missing =>
    [{ message := "(" ++ ", ".intercalate missing ++ ") is required", path, value := .obj fields,
       keyword := "required" }]

mutual

/-- The value after validation, and the complaints, in the order in which they arise. -/
def validateAt : Schema → Path → Json → Json × List ValidationError
  | ⟨declared, properties, required, items, default, readOnly, primaryKey⟩, path, value =>
    let s : Schema := ⟨declared, properties, required, items, default, readOnly, primaryKey⟩
    match checkType s.types path value with
    | (.obj fields, errors) =>
      if .object ∈ s.types then
        let missing := checkRequired s path fields
        let (fields, nested) := validateProperties properties path fields
        (.obj fields, errors ++ missing ++ nested)
      else (.obj fields, errors)
    | (.arr elements, errors) =>
      if .array ∈ s.types then
        let (elements, nested) := validateItems items path 0 elements
        (.arr elements, errors ++ nested)
      else (.arr elements, errors)
    | (value, errors) => (value, errors)

def validateProperties : List (String × Schema) → Path → Object → Object × List ValidationError
  | [], _, fields => (fields, [])
  | (key, s) :: rest, path, fields =>
    match (KeyMap.get? fields key).or s.default with
    | none => validateProperties rest path fields
    | some value =>
      let (value, errors) := validateAt s (path ++ [key]) value
      let (fields, nested) := validateProperties rest path (KeyMap.insert fields key value)
      (fields, errors ++ nested)

def validateItems : Option Schema → Path → Nat → List Json → List Json × List ValidationError
  | none, _, _, elements => (elements, [])
  | some s, path, start, elements =>
    let results := (elements.zipIdx start).map fun (element, index) =>
      validateAt s (path ++ [toString index]) element
    (results.map (·.1), results.flatMap (·.2))

end

/-- Validates a value against the schema at a path; complaints count paths from that value on. -/
def validate (s : Schema) (value : Json) (path : Path) : Json × List ValidationError :=
  validateAt (s.at path) [] value

theorem checkType_obj (types : List ValueType) (path : Path) (fields : Object) :
    (checkType types path (.obj fields)).1 = .obj fields := by
  unfold checkType
  split
  · rfl
  · have uncast : (cast? (.obj fields) types).getD (.obj fields) = .obj fields := rfl
    simp only [uncast]
    split <;> rfl

theorem ordered_validateProperties (properties : List (String × Schema)) (path : Path) {fields : Object}
    (h : KeyMap.Ordered fields) : KeyMap.Ordered (validateProperties properties path fields).1 := by
  induction properties generalizing fields with
  | nil => rw [validateProperties]; exact h
  | cons property rest ih =>
    obtain ⟨key, s⟩ := property
    rw [validateProperties]
    split
    · exact ih h
    · exact ih (h.insert key _)

theorem validateAt_obj (s : Schema) (path : Path) (fields : Object) :
    ∃ after, (validateAt s path (.obj fields)).1 = .obj after ∧
      (KeyMap.Ordered fields → KeyMap.Ordered after) := by
  obtain ⟨declared, properties, required, items, default, readOnly, primaryKey⟩ := s
  rw [validateAt]
  have same := checkType_obj
    (types ⟨declared, properties, required, items, default, readOnly, primaryKey⟩) path fields
  generalize checkType _ path (.obj fields) = checked at same ⊢
  obtain ⟨value, errors⟩ := checked
  cases same
  dsimp only
  split
  · exact ⟨_, rfl, ordered_validateProperties properties path⟩
  · exact ⟨fields, rfl, id⟩

end Schema

/-- What a model asks of the schema of its entity, whatever kind of schema that is. -/
structure EntityRules where
  primary : String
  isReadOnly : Path → Bool
  validate : Json → Path → Json × List ValidationError
  /-- An object that is validated keeps its fields in key order. -/
  ordered : ∀ {fields after : Object} {path : Path}, (validate (.obj fields) path).1 = .obj after →
    KeyMap.Ordered fields → KeyMap.Ordered after

def Schema.rules (s : Schema) : EntityRules where
  primary := s.primary
  isReadOnly := s.isReadOnly
  validate := s.validate
  ordered := by
    intro fields after path shown ordered
    obtain ⟨validated, found, keeps⟩ := (s.at path).validateAt_obj [] fields
    have same : validated = after := Json.obj.inj (found.symm.trans shown)
    exact same ▸ keeps ordered

instance : Coe Schema EntityRules := ⟨Schema.rules⟩

def EntityRules.standard : EntityRules := Schema.standard.rules

end RecordSync
