import RecordSync.Model.Basic
import RecordSync.Provider.Key
import RecordSync.Query.Sort

/-!
# Requests to providers

A provider keeps the entities of one kind. This module holds what is said to it and what it answers: the five
requests, each with the type of its answer, the parameters of a fetch, and the reasons for a failure.
-/

set_option autoImplicit false

namespace RecordSync

inductive ProviderError where
  | notFound (key : PrimaryKey)
  | transport (reason : String)
  | http (status : Nat) (body : Json)
  | notAnObject (value : Json)
  | notACollection (value : Json)
  | dataNotAList (value : Json)
  | missingData
  | missingEnvelope (name : String)
  | unwrapped (name : String) (value : Json)
  | unsupportedKey (value : Json)
  | missingPathParam (name : String)
  | query (cause : QueryError)

namespace ProviderError

def message : ProviderError → String
  | .notFound key => "Item \"" ++ key.display ++ "\" not found."
  | .transport reason => "Transport error: " ++ reason
  | .http status body => "HTTP " ++ toString status ++ ": " ++ body.str?.getD body.text
  | .notAnObject value => "Invalid response: expected an object, got " ++ value.text
  | .notACollection value => "Invalid response: expected a collection, got " ++ value.text
  | .dataNotAList value => "Invalid response: `data` must be an array, got " ++ value.text
  | .missingData => "Invalid response: missing `data`"
  | .missingEnvelope name => "Invalid response: missing `" ++ name ++ "` in response"
  | .unwrapped name value =>
    "Invalid response: expected an object with `" ++ name ++ "`, got " ++ value.text
  | .unsupportedKey value => "Invalid response: unsupported primary key " ++ value.text
  | .missingPathParam name => "Missing path parameter: " ++ name
  | .query cause => "Query error: " ++ cause.message

end ProviderError

def PrimaryKey.ofValue (value : Json) : Except ProviderError PrimaryKey :=
  match ofValue? value with
  | some key => .ok key
  | none => .error (.unsupportedKey value)

structure FetchParams where
  filter : Option FilterGroup := none
  sort : Option (List SortDescriptor) := none
  page : Option Nat := none
  pageSize : Option Nat := none
  cursor : Option Cursor := none

namespace FetchParams

def toJson (p : FetchParams) : Json :=
  let parts : List (String × Option Json) :=
    [("cursor", p.cursor.map Cursor.toJson), ("filter", p.filter.map FilterGroup.toJson),
      ("page", p.page.map .ofNat), ("pageSize", p.pageSize.map .ofNat),
      ("sort", p.sort.map fun ds => .arr (ds.map SortDescriptor.toJson))]
  .obj (parts.filterMap fun (name, value) => value.map (name, ·))

end FetchParams

/-- A page of entities, the number of all entities that a fetch asks for if it is known, and whatever else came
along. -/
structure Collection where
  data : List Entity
  total : Option Nat
  extra : Entity

def Entity.ofJson (value : Json) : Except ProviderError Entity :=
  match value with
  | .obj fields => .ok fields
  | other => .error (.notAnObject other)

namespace Collection

/-- Reads an answer: a list of entities, or an object that holds them as `data`, beside an optional `total` and
any other fields. -/
def ofJson : Json → Except ProviderError Collection
  | .arr items => do return { data := ← items.mapM Entity.ofJson, total := none, extra := [] }
  | .obj fields =>
    match KeyMap.get? fields "data" with
    | some (.arr items) => do
      return { data := ← items.mapM Entity.ofJson
               total := (KeyMap.get? fields "total").bind Json.unsigned64?
               extra := KeyMap.erase (KeyMap.erase fields "data") "total" }
    | some other => .error (.dataNotAList other)
    | none => .error .missingData
  | other => .error (.notACollection other)

end Collection

inductive Request where
  | fetch (params : Option FetchParams)
  | get (key : PrimaryKey)
  | create (entity : Entity)
  | update (key : PrimaryKey) (changes : Entity)
  | remove (key : PrimaryKey)

inductive RequestKind where
  | fetch
  | get
  | create
  | update
  | remove
  deriving DecidableEq, Repr

namespace Request

def kind : Request → RequestKind
  | .fetch _ => .fetch
  | .get _ => .get
  | .create _ => .create
  | .update _ _ => .update
  | .remove _ => .remove

/-- What a request is answered by. A created or updated entity comes back whole, with the fields the provider
assigned. -/
abbrev Answer : Request → Type
  | .fetch _ => Collection
  | .get _ => Option Entity
  | .create _ => Entity
  | .update _ _ => Entity
  | .remove _ => Unit

end Request

abbrev Outcome (α : Type) := Except ProviderError α

end RecordSync
