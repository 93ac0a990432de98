import RecordSync.Settings.Basic

/-!
# Log features and levels

Each feature of the library logs under a target of its own, so that its level can be set apart from the
others.
-/

set_option autoImplicit false

namespace RecordSync

inductive LogFeature where
  | query
  | model
  | sync
  | provider
  deriving DecidableEq, Repr

namespace LogFeature

def name : LogFeature → String
  | .query => "query"
  | .model => "model"
  | .sync => "sync"
  | .provider => "provider"

def target (f : LogFeature) : String := "datasource::" ++ f.name

def all : List LogFeature := [.query, .model, .sync, .provider]

def ofName? (name : String) : Option LogFeature := all.find? fun f => f.name == name

theorem ofName?_name (f : LogFeature) : ofName? f.name = some f := by cases f <;> decide

end LogFeature

inductive LogLevel where
  | off
  | error
  | warn
  | info
  | debug
  | trace
  deriving DecidableEq, Repr

namespace LogLevel

def name : LogLevel → String
  | .off => "off"
  | .error => "error"
  | .warn => "warn"
  | .info => "info"
  | .debug => "debug"
  | .trace => "trace"

def all : List LogLevel := [.off, .error, .warn, .info, .debug, .trace]

def ofText? (text : String) : Option LogLevel :=
  all.find? fun level => level.name.toList == text.toList.map Char.toLower

def ofText (text : String) : Except SettingsError LogLevel :=
  match ofText? text with
  | some level => .ok level
  | none => .error (.unknownLevel text)

end LogLevel

structure LogFilter where
  default : LogLevel
  features : List (LogFeature × LogLevel)

namespace LoggingSettings

def levels (s : LoggingSettings) : Except SettingsError LogFilter := do
  let default ← LogLevel.ofText s.defaultLevel
  let features ← s.features.mapM fun (name, level) =>
    match LogFeature.ofName? name with
    | none => .error (.unknownFeature name)
    | some feature => do return (feature, ← LogLevel.ofText level)
  return { default, features }

end LoggingSettings

end RecordSync
