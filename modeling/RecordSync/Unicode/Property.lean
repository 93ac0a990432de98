import RecordSync.Unicode.AgeTable
import RecordSync.Unicode.BreakTable
import RecordSync.Unicode.CategoryTable
import RecordSync.Unicode.PropertyTable
import RecordSync.Unicode.RangeAlgebra
import RecordSync.Unicode.ScriptTable
import RecordSync.Unicode.SharedScriptTable

/-!
# Character properties by name

General categories, scripts, binary properties and the values of a few other properties are found by loose
names: case, blanks, hyphens and underscores do not count, and a leading `is` may be left out.
-/

set_option autoImplicit false

namespace RecordSync.Unicode

/-- The form of a name that is looked up. Only an `is` right at the start is left out, and it is kept where
nothing but a `c` would remain. -/
def looseName (name : List Char) : String :=
  let startsWithIs := match name with
    | i :: s :: _ => (i == 'i' || i == 'I') && (s == 's' || s == 'S')
    | _ => false
  let kept := ((if startsWithIs then name.drop 2 else name).filter fun c =>
    c != ' ' && c != '_' && c != '-' && c.toNat < 128).map Char.toLower
  String.ofList (if startsWithIs && kept == ['c'] then ['i', 's', 'c'] else kept)

def findLines? (table : List (List String × List String)) (name : String) : Option (List String) :=
  (table.find? fun entry => entry.1.contains name).map (·.2)

def leafCategory? (name : String) : Option Ranges := (findLines? categoryLines name).map Ranges.ofLines

def surrogates : Ranges := .range 0xD800 0xDFFF

def unassigned : Ranges :=
  (Ranges.unionAll (surrogates :: categoryLines.map fun entry => Ranges.ofLines entry.2)).complement

def categoryGroup? (name : String) : Option (List String) :=
  match name with
  | "l" | "letter" => some ["lu", "ll", "lt", "lm", "lo"]
  | "lc" | "casedletter" => some ["lu", "ll", "lt"]
  | "m" | "mark" | "combiningmark" => some ["mn", "mc", "me"]
  | "n" | "number" => some ["nd", "nl", "no"]
  | "p" | "punctuation" | "punct" => some ["pc", "pd", "ps", "pe", "pi", "pf", "po"]
  | "s" | "symbol" => some ["sm", "sc", "sk", "so"]
  | "z" | "separator" => some ["zs", "zl", "zp"]
  | _ => none

def categoryUnion (names : List String) : Ranges := .unionAll (names.filterMap leafCategory?)

def category? (name : String) : Option Ranges :=
  match name with
  | "any" => some (.range 0 maxCode)
  | "ascii" => some (.range 0 0x7F)
  | "assigned" => some unassigned.complement
  | "cn" | "unassigned" => some unassigned
  | "c" | "other" => some (.unionAll [categoryUnion ["cc", "cf", "co"], unassigned, surrogates])
  | name =>
    match categoryGroup? name with
    | some members => some (categoryUnion members)
    | none => leafCategory? name

def PropertyEntry.ranges (e : PropertyEntry) : Ranges :=
  let whole := Ranges.unionAll (.ofLines e.plus :: e.categories.filterMap leafCategory?)
  if e.minus.isEmpty then whole else whole.difference (.ofLines e.minus)

def findEntry? (entries : List PropertyEntry) (name : String) : Option Ranges :=
  (entries.find? fun e => e.names.contains name).map PropertyEntry.ranges

def binaryProperty? (name : String) : Option Ranges := findEntry? propertyEntries name

def script? (name : String) : Option Ranges := (findLines? scriptLines name).map Ranges.ofLines

/-- The characters that are used with a script: its own ones unless they are shared between scripts, and those that
are shared with it. -/
def scriptWithShared? (name : String) : Option Ranges := do
  let entry ← scriptLines.find? fun entry => entry.1.contains name
  let own := (Ranges.ofLines entry.2).difference
    (.ofPairs (sharedScriptLines.flatMap fun shared => Ranges.pairsOfLines shared.2))
  let shared := sharedScriptLines.filter fun shared => shared.1.any entry.1.contains
  return own.union (.ofPairs (shared.flatMap fun shared => Ranges.pairsOfLines shared.2))

def age? (name : String) : Option Ranges := do
  let index ← ageLines.findIdx? fun entry => entry.1.contains name
  return .unionAll ((ageLines.take (index + 1)).map fun entry => .ofLines entry.2)

/-- The characters with a property that is given by a single name. The abbreviations of three categories are also
those of properties that are not binary. -/
def named? (name : List Char) : Option Ranges :=
  let name := looseName name
  ((binaryProperty? name).or (category? name)).or (script? name)

def valued? (property value : List Char) : Option Ranges :=
  let value := looseName value
  match looseName property with
  | "gc" | "generalcategory" => category? value
  | "sc" | "script" => script? value
  | "scx" | "scriptextensions" => scriptWithShared? value
  | "age" => age? value
  | "gcb" | "graphemeclusterbreak" => findEntry? graphemeBreakEntries value
  | "wb" | "wordbreak" => findEntry? wordBreakEntries value
  | "sb" | "sentencebreak" => findEntry? sentenceBreakEntries value
  | _ => none

def decimalNumber : Ranges := categoryUnion ["nd"]

def whiteSpace : Ranges := (binaryProperty? "whitespace").getD .empty

def alphabetic : Ranges := (binaryProperty? "alphabetic").getD .empty

def wordRanges : Ranges :=
  .unionAll [alphabetic, categoryUnion ["mn", "mc", "me", "nd", "pc"], (binaryProperty? "joincontrol").getD .empty]

def isWordChar (c : Char) : Bool :=
  if c.toNat < 128 then c.isAlphanum || c == '_' else wordRanges.contains c

end RecordSync.Unicode
