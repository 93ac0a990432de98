import RecordSync.Json.Path

/-!
# Reading described values

A structure is described by an object of its fields, unknown fields ignored, or by an array of its fields
in their declared order, which in JSON must not be longer than the declaration. A missing field can take a
default, which is why a reader of a field sees an optional value.
-/

set_option autoImplicit false

namespace RecordSync.Json

abbrev Described := String → Option Json

structure Latitude where
  surplus : Bool
  isNothing : Json → Bool

def Latitude.json : Latitude := ⟨false, isNull⟩

def described? (j : Json) (names : List String) (latitude : Latitude := .json) : Option Described :=
  match j with
  | .obj fields => some (KeyMap.get? fields)
  | .arr items =>
    if items.length ≤ names.length || latitude.surplus then some fun name => (names.zip items).lookup name
    else none
  | _ => none

namespace Described

variable {α : Type}

def required? (d : Described) (name : String) (read : Json → Option α) : Option α :=
  (d name).bind read

def withDefault? (d : Described) (name : String) (default : α) (read : Json → Option α) :
    Option α :=
  match d name with
  | none => some default
  | some j => read j

def optional? (d : Described) (name : String) (read : Json → Option α) : Option (Option α) :=
  match d name with
  | none => some none
  | some .null => some none
  | some j => (read j).map some

end Described

def variant? (j : Json) (latitude : Latitude := .json) : Option String :=
  match j with
  | .str s => some s
  | .obj [(name, content)] => if latitude.isNothing content then some name else none
  | _ => none

def list? {α : Type} (read : Json → Option α) : Json → Option (List α)
  | .arr items => items.mapM read
  | _ => none

def ofFound (value : Option Json) : Json :=
  match value with
  | some j => .obj [("some", j)]
  | none => .null

def orNull (value : Option Json) : Json := value.getD .null

def ofFields (fields : List (String × Json)) : Json := .obj (KeyMap.ofList fields)

def path? : Json → Option Path
  | .str s => some (Path.ofDotted s)
  | .arr items => items.mapM str?
  | _ => none

end RecordSync.Json
