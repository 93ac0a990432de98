import RecordSync.Provider.Basic
import RecordSync.Settings.Basic

/-!
# Failures

What a client is told about a failure: its kind, a message where there is one of our own, and further parts that
depend on the kind.
-/

set_option autoImplicit false

namespace RecordSync

structure Failure where
  kind : String
  message : Option String := none
  details : List (String × Json) := []
  deriving Inhabited

namespace Failure

def toJson (f : Failure) : Json :=
  .ofFields ([("error", .str f.kind)] ++ (f.message.map fun m => ("message", Json.str m)).toList ++ f.details)

def badInput (name : String) : Failure := { kind := "BadInput", message := some name }

def unreadable : Failure := { kind := "Deserialize" }

end Failure

def ValidationError.toJson (e : ValidationError) : Json :=
  .obj [("keyword", .str e.keyword), ("message", .str e.message), ("path", .arr (e.path.map .str)),
    ("value", e.value)]

/-- The messages of patterns that cannot be read and of values that do not describe a query are left out: they are
not ours. -/
def QueryError.failure (e : QueryError) : Failure :=
  match e with
  | .malformed => { kind := "InvalidExpression" }
  | .missingField | .unsupportedFilter _ | .noGroupDescriptor =>
    { kind := "InvalidExpression", message := some e.message }
  | .unknownOperator _ => { kind := "UnknownOperator", message := some e.message }
  | .patternNotText pattern =>
    { kind := "InvalidPattern", message := some e.message, details := [("pattern", .str pattern)] }
  | .patternNotReadable pattern => { kind := "InvalidPattern", details := [("pattern", .str pattern)] }

def ModelError.failure (e : ModelError) : Failure :=
  match e with
  | .validation errors =>
    { kind := "Validation", message := some e.message
      details := [("errors", .arr (errors.map ValidationError.toJson))] }
  | .notAnObject _ => { kind := "NotAnObject", message := some e.message }

def ProviderError.kind : ProviderError → String
  | .notFound _ => "NotFound"
  | .transport _ => "Transport"
  | .http _ _ => "Http"
  | .missingPathParam _ => "MissingPathParam"
  | .query _ => "Query"
  | _ => "InvalidResponse"

def ProviderError.failure (e : ProviderError) : Failure :=
  match e with
  | .query cause => { kind := e.kind, details := [("cause", cause.failure.toJson)] }
  | e => { kind := e.kind, message := some e.message }

def SettingsError.failure (e : SettingsError) : Failure :=
  match e with
  | .unreadable => { kind := "Io" }
  | .malformed => { kind := "Parse" }
  | e => { kind := "Invalid", message := some e.message }

end RecordSync
