import RecordSync.Json.Basic

/-!
# TOML documents

A document is a table of values. It is written as sections of dotted keys and values, each section under the path of
a table, and a table may be spread over a document: what may still be added to it depends on how it came about.
-/

set_option autoImplicit false

namespace RecordSync.Toml

inductive Value where
  | text (value : String)
  | int (value : Int)
  | float (value : Double)
  | bool (value : Bool)
  | moment (text : String)
  | array (items : List Value)
  | table (entries : List (String × Value))

namespace Value

mutual

/-- The value as JSON. A float that has no finite value becomes the largest double, which is nothing that settings
know. A moment becomes an object with its text under a reserved name. -/
def toJson : Value → Json
  | .text s => .str s
  | .int n => .ofInt n
  | .float (.finite x) => .num (.double x)
  | .float _ => .num (.double ⟨false, Binary64.maxUnits⟩)
  | .bool b => .bool b
  | .moment m => .obj [("$__toml_private_datetime", .str m)]
  | .array items => .arr (itemsToJson items)
  | .table entries => .obj (entriesToJson entries)

def itemsToJson : List Value → List Json
  | [] => []
  | item :: rest => toJson item :: itemsToJson rest

def entriesToJson : List (String × Value) → List (String × Json)
  | [] => []
  | (key, value) :: rest => (key, toJson value) :: entriesToJson rest

end

end Value

inductive Origin where
  | header
  | parent
  | dotted
  deriving DecidableEq, Repr

inductive Node where
  | value (value : Value)
  | table (origin : Origin) (entries : List (String × Node))
  | tables (items : List (List (String × Node)))

abbrev Entries := KeyMap Node

structure Section where
  isItem : Bool
  path : List String
  pairs : List (List String × Value)

namespace Entries

/-- Changes the table at the end of a path, creating the tables on the way there that do not exist. `dotted` tells
that the path is part of a dotted key, which must not lead through a table with a header of its own. -/
def modify (dotted : Bool) (change : Origin → Entries → Option Entries) :
    Origin → List String → Entries → Option Entries
  | origin, [], entries => change origin entries
  | _, key :: rest, entries => do
    let created := if dotted then Origin.dotted else .parent
    match KeyMap.get? entries key with
    | none =>
      return KeyMap.insert entries key (.table created (← modify dotted change created rest []))
    | some (.value _) => none
    | some (.tables items) =>
      let last ← items.getLast?
      return KeyMap.insert entries key
        (.tables (items.dropLast ++ [← modify dotted change .header rest last]))
    | some (.table origin inner) =>
      if dotted && origin == .header then none
      else return KeyMap.insert entries key (.table origin (← modify dotted change origin rest inner))

def addPair (entries : Entries) (path : List String) (value : Value) : Option Entries := do
  let key ← path.getLast?
  let above := path.dropLast
  modify true (fun origin table =>
    if !above.isEmpty && origin != .dotted then none
    else if KeyMap.contains table key then none
    else some (KeyMap.insert table key (.value value))) .header above entries

def addPairs (entries : Entries) : List (List String × Value) → Option Entries
  | [] => some entries
  | (path, value) :: rest => do addPairs (← entries.addPair path value) rest

def addSection (entries : Entries) (s : Section) : Option Entries := do
  let key ← s.path.getLast?
  modify false (fun _ table => do
    if s.isItem then
      let item ← addPairs [] s.pairs
      match KeyMap.get? table key with
      | none => return KeyMap.insert table key (.tables [item])
      | some (.tables items) => return KeyMap.insert table key (.tables (items ++ [item]))
      | some _ => none
    else
      let existing ← match KeyMap.get? table key with
        | none => some []
        | some (.table .parent existing) => some existing
        | some _ => none
      return KeyMap.insert table key (.table .header (← addPairs existing s.pairs))) .header s.path.dropLast entries

def ofSections (pairs : List (List String × Value)) (sections : List Section) : Option Entries := do
  sections.foldlM addSection (← addPairs [] pairs)

end Entries

namespace Node

mutual

def close : Node → Value
  | .value v => v
  | .table _ entries => .table (closeEntries entries)
  | .tables items => .array (closeItems items)

def closeEntries : List (String × Node) → List (String × Value)
  | [] => []
  | (key, node) :: rest => (key, close node) :: closeEntries rest

def closeItems : List (List (String × Node)) → List Value
  | [] => []
  | entries :: rest => .table (closeEntries entries) :: closeItems rest

end

end Node

end RecordSync.Toml
