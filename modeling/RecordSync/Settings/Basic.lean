import RecordSync.Json.Described
import RecordSync.Numeric.Integer
import RecordSync.Toml.Reader

/-!
# Settings

The defaults of paginators, the layout of requests to a web service, and the levels of the log. Settings
are a value that is handed to whoever needs them.
-/

set_option autoImplicit false

namespace RecordSync

inductive SettingsError where
  | unreadable
  | malformed
  | zeroPageSize
  | emptyPageSizeParam
  | unknownLevel (level : String)
  | unknownFeature (name : String)
  deriving DecidableEq, Repr

namespace SettingsError

def message : SettingsError → String
  | .unreadable => "Failed to read config file"
  | .malformed => "Failed to parse config"
  | .zeroPageSize => "Invalid config: pagination.default_page_size must be greater than zero"
  | .emptyPageSizeParam => "Invalid config: rest.page_size_param must not be empty"
  | .unknownLevel level => "Invalid config: unknown log level `" ++ level ++ "`"
  | .unknownFeature name => "Invalid config: unknown log feature `" ++ name ++ "`"

end SettingsError

namespace Json

def unsigned32? (j : Json) : Option Nat := j.unsigned64?.filter fun n => fitsUnsigned32 n

def texts? (j : Json) : Option (KeyMap String) := do
  (← j.obj?).mapM fun (name, value) => value.str?.map (name, ·)

end Json

structure PaginationSettings where
  defaultPageSize : Nat := 20
  deriving DecidableEq, Repr

namespace PaginationSettings

def ofJson? (j : Json) (latitude : Json.Latitude) : Option PaginationSettings := do
  let d ← j.described? ["default_page_size"] latitude
  return { defaultPageSize := ← d.withDefault? "default_page_size" 20 Json.unsigned32? }

def toJson (s : PaginationSettings) : Json := .obj [("default_page_size", .ofNat s.defaultPageSize)]

end PaginationSettings

inductive ParamsStyle where
  | plain
  | jsonApi
  | rootFilter
  deriving DecidableEq, Repr

namespace ParamsStyle

def name : ParamsStyle → String
  | .plain => "plain"
  | .jsonApi => "json_api"
  | .rootFilter => "root_filter"

def all : List ParamsStyle := [.plain, .jsonApi, .rootFilter]

def ofJson? (j : Json) (latitude : Json.Latitude) : Option ParamsStyle :=
  (j.variant? latitude).bind fun name => all.find? fun style => style.name == name

end ParamsStyle

structure RestSettings where
  paramsStyle : ParamsStyle := .plain
  pageSizeParam : String := "page_size"
  collectionEnvelope : Option String := none
  entityEnvelope : Option String := none
  deriving DecidableEq, Repr

namespace RestSettings

def ofJson? (j : Json) (latitude : Json.Latitude) : Option RestSettings := do
  let d ← j.described? ["params_style", "page_size_param", "collection_envelope", "entity_envelope"] latitude
  return { paramsStyle := ← d.withDefault? "params_style" .plain (ParamsStyle.ofJson? · latitude)
           pageSizeParam := ← d.withDefault? "page_size_param" "page_size" Json.str?
           collectionEnvelope := ← d.optional? "collection_envelope" Json.str?
           entityEnvelope := ← d.optional? "entity_envelope" Json.str? }

def toJson (s : RestSettings) : Json :=
  .obj [("collection_envelope", .orNull (s.collectionEnvelope.map .str)),
    ("entity_envelope", .orNull (s.entityEnvelope.map .str)), ("page_size_param", .str s.pageSizeParam),
    ("params_style", .str s.paramsStyle.name)]

end RestSettings

structure LoggingSettings where
  defaultLevel : String := "warn"
  features : KeyMap String := []
  deriving DecidableEq, Repr

namespace LoggingSettings

def ofJson? (j : Json) (latitude : Json.Latitude := .json) : Option LoggingSettings := do
  let d ← j.described? ["default_level", "features"] latitude
  return { defaultLevel := ← d.withDefault? "default_level" "warn" Json.str?
           features := ← d.withDefault? "features" [] Json.texts? }

def toJson (s : LoggingSettings) : Json :=
  .obj [("default_level", .str s.defaultLevel), ("features", .obj (KeyMap.mapValues .str s.features))]

end LoggingSettings

structure Settings where
  pagination : PaginationSettings := {}
  rest : RestSettings := {}
  logging : LoggingSettings := {}
  deriving DecidableEq, Repr

namespace Settings

def ofJson? (j : Json) (latitude : Json.Latitude := .json) : Option Settings := do
  let d ← j.described? ["pagination", "rest", "logging"] latitude
  return { pagination := ← d.withDefault? "pagination" {} (PaginationSettings.ofJson? · latitude)
           rest := ← d.withDefault? "rest" {} (RestSettings.ofJson? · latitude)
           logging := ← d.withDefault? "logging" {} (LoggingSettings.ofJson? · latitude) }

def toJson (s : Settings) : Json :=
  .obj [("logging", s.logging.toJson), ("pagination", s.pagination.toJson), ("rest", s.rest.toJson)]

def check (s : Settings) : Except SettingsError Settings :=
  if s.pagination.defaultPageSize = 0 then .error .zeroPageSize
  else if s.rest.pageSizeParam.isEmpty then .error .emptyPageSizeParam
  else .ok s

/-- Surplus items of an array are passed over, and an empty array or table stands for nothing. -/
def tomlLatitude : Json.Latitude where
  surplus := true
  isNothing
    | .arr [] | .obj [] => true
    | _ => false

def ofText (text : String) : Except SettingsError Settings :=
  match (Toml.read? text).bind fun document => ofJson? document.toJson tomlLatitude with
  | none => .error .malformed
  | some settings => settings.check

def ofFile (content : Option String) : Except SettingsError Settings :=
  match content with
  | none => .error .unreadable
  | some text => ofText text

end Settings

end RecordSync
