import RecordSync.Json.Printer
import RecordSync.Pattern.Compile
import RecordSync.Query.Scalar
import RecordSync.Text

/-!
# Filter operators

An operator relates the value of a field, which may be missing, to the value a filter compares it with.
Operators are named by their canonical name or by an alias, in any case and with blanks around it. A name
that is neither is kept as it stands and looked up in an `OperatorTable` when a filter is compiled. What a
pattern means is up to a `PatternEngine`.
-/

set_option autoImplicit false

namespace RecordSync

inductive QueryError where
  | missingField
  | unsupportedFilter (value : Json)
  | noGroupDescriptor
  | malformed
  | unknownOperator (name : String)
  | patternNotText (pattern : String)
  | patternNotReadable (pattern : String)

namespace QueryError

def message : QueryError → String
  | .missingField => "Invalid expression: filter is missing `field`"
  | .unsupportedFilter value => "Invalid expression: unsupported filter value: " ++ value.text
  | .noGroupDescriptor => "Invalid expression: group requires at least one descriptor"
  | .malformed => "Invalid expression"
  | .unknownOperator name => "Unknown operator: " ++ name
  | .patternNotText pattern => "Invalid pattern " ++ pattern ++ ": pattern must be a string"
  | .patternNotReadable pattern => "Invalid pattern " ++ pattern

end QueryError

inductive Comparison where
  | eq
  | neq
  | gt
  | gte
  | lt
  | lte
  | startsWith
  | doesNotStartWith
  | endsWith
  | doesNotEndWith
  | contains
  | doesNotContain
  | matchesPattern
  | doesNotMatchPattern
  | isIn
  | isEmpty
  | isNotEmpty
  | isNull
  | isNotNull
  | isNullOrEmpty
  | isNotNullOrEmpty
  deriving DecidableEq, Repr

namespace Comparison

def name : Comparison → String
  | .eq => "eq"
  | .neq => "neq"
  | .gt => "gt"
  | .gte => "gte"
  | .lt => "lt"
  | .lte => "lte"
  | .startsWith => "startswith"
  | .doesNotStartWith => "doesnotstartwith"
  | .endsWith => "endswith"
  | .doesNotEndWith => "doesnotendwith"
  | .contains => "contains"
  | .doesNotContain => "doesnotcontain"
  | .matchesPattern => "matches"
  | .doesNotMatchPattern => "doesnotmatch"
  | .isIn => "in"
  | .isEmpty => "isempty"
  | .isNotEmpty => "isnotempty"
  | .isNull => "isnull"
  | .isNotNull => "isnotnull"
  | .isNullOrEmpty => "isnullorempty"
  | .isNotNullOrEmpty => "isnotnullorempty"

def all : List Comparison :=
  [.eq, .neq, .gt, .gte, .lt, .lte, .startsWith, .doesNotStartWith, .endsWith, .doesNotEndWith,
    .contains, .doesNotContain, .matchesPattern, .doesNotMatchPattern, .isIn, .isEmpty, .isNotEmpty, .isNull,
    .isNotNull, .isNullOrEmpty, .isNotNullOrEmpty]

def aliases : List (String × Comparison) :=
  [("==", .eq), ("equals", .eq), ("isequalto", .eq), ("equalto", .eq), ("equal", .eq),
    ("!=", .neq), ("ne", .neq), ("notequals", .neq), ("isnotequalto", .neq), ("notequalto", .neq),
    ("notequal", .neq),
    ("<", .lt), ("islessthan", .lt), ("lessthan", .lt), ("less", .lt),
    ("<=", .lte), ("le", .lte), ("islessthanorequalto", .lte), ("lessthanequal", .lte),
    (">", .gt), ("isgreaterthan", .gt), ("greaterthan", .gt), ("greater", .gt),
    (">=", .gte), ("isgreaterthanorequalto", .gte), ("greaterthanequal", .gte), ("ge", .gte),
    ("notsubstringof", .doesNotContain)]

def ofName? (name : String) : Option Comparison :=
  (aliases.lookup name).or (all.find? fun c => c.name == name)

theorem ofName?_name (c : Comparison) : ofName? c.name = some c := by cases c <;> decide

end Comparison

abbrev ValueTest := Option Json → Json → Bool → Bool

/-- A test given with the filter itself. Two of them are equal when their names are. -/
structure Predicate where
  name : String
  test : ValueTest

inductive Operator where
  | builtin (comparison : Comparison)
  /-- A name without a fixed meaning, as it was written. -/
  | named (name : String)
  | inline (predicate : Predicate)

namespace Operator

def parse (name : String) : Operator :=
  match Comparison.ofName? (Unicode.toLower (Unicode.trim name)) with
  | some c => .builtin c
  | none => .named name

/-- Resolves a kept name that spells an operator after all. -/
def canonicalize : Operator → Operator
  | .named name => parse name
  | o => o

def name : Operator → String
  | .builtin c => c.name
  | .named name => name
  | .inline p => p.name

instance : BEq Operator where
  beq
    | .builtin a, .builtin b => a == b
    | .named a, .named b => a == b
    | .inline a, .inline b => a.name == b.name
    | _, _ => false

end Operator

/-- The text that text operators see: texts, numbers and booleans have one. -/
def textOf? (value : Option Json) (ignoreCase : Bool) : Option String :=
  let text? := match value with
    | some (.str s) => some s
    | some (.num n) => some n.text
    | some (.bool b) => some (if b then "true" else "false")
    | _ => none
  text?.map fun s => if ignoreCase then Unicode.toLower s else s

/-- What reads patterns: a pattern becomes a test of texts, or cannot be read. The flag tells whether case is
ignored. -/
class PatternEngine where
  compile? : String → Bool → Option (String → Bool)

instance : PatternEngine where
  compile? := fun text ignoreCase => (Pattern.compile? text ignoreCase).map fun p => p.occursIn

/-- A pair of slashes around a pattern is not part of it. -/
def patternText (literal : String) : String :=
  match literal.toList with
  | '/' :: rest => if rest.getLast? = some '/' then String.ofList rest.dropLast else literal
  | _ => literal

def compilePattern [PatternEngine] (right : Json) (ignoreCase : Bool) : Except QueryError (String → Bool) :=
  match right with
  | .str literal =>
    match PatternEngine.compile? (patternText literal) ignoreCase with
    | some occurs => .ok occurs
    | none => .error (.patternNotReadable literal)
  | other => .error (.patternNotText other.text)

def patternTest (occurs : String → Bool) (left : Option Json) : Bool := (textOf? left false).any occurs

def sameValue : Json → Json → Bool
  | .num x, .num y => x.toDouble.numEq y.toDouble
  | a, b => a == b

namespace Comparison

def textTest (f : String → String → Bool) : ValueTest := fun left right ignoreCase =>
  match textOf? left ignoreCase, textOf? (some right) ignoreCase with
  | some a, some b => f a b
  | _, _ => false

def order? : Option Json → Json → Bool → Option Ordering := fun left right ignoreCase =>
  (Scalar.of left ignoreCase).compare? (Scalar.of (some right) ignoreCase)

def equality : ValueTest := fun left right ignoreCase =>
  (Scalar.of left ignoreCase).looseEq (Scalar.of (some right) ignoreCase)

/-- An array contains the value as a member, a text as a part. -/
def containment : ValueTest := fun left right ignoreCase =>
  match left with
  | some (.arr items) =>
    items.any fun item =>
      (Scalar.of (some item) ignoreCase).looseEq (Scalar.of (some right) ignoreCase)
  | left => textTest Text.contains left right ignoreCase

/-- A present value is one of the members of an array, or the value itself. -/
def membership : ValueTest := fun left right _ =>
  match left, right with
  | some value, .arr items => items.any (sameValue value)
  | some value, single => sameValue value single
  | none, _ => false

def nullness : Option Json → Bool
  | some .null => true
  | _ => false

def emptiness : Option Json → Bool
  | some (.str s) => s.isEmpty
  | _ => false

def evaluate [PatternEngine] (c : Comparison) (left : Option Json) (right : Json) (ignoreCase : Bool) : Bool :=
  match c with
  | .eq => equality left right ignoreCase
  | .neq => !equality left right ignoreCase
  | .gt => order? left right ignoreCase == some .gt
  | .gte => order? left right ignoreCase == some .gt || order? left right ignoreCase == some .eq
  | .lt => order? left right ignoreCase == some .lt
  | .lte => order? left right ignoreCase == some .lt || order? left right ignoreCase == some .eq
  | .startsWith => textTest Text.startsWith left right ignoreCase
  | .doesNotStartWith => !textTest Text.startsWith left right ignoreCase
  | .endsWith => textTest Text.endsWith left right ignoreCase
  | .doesNotEndWith => !textTest Text.endsWith left right ignoreCase
  | .contains => containment left right ignoreCase
  | .doesNotContain => !containment left right ignoreCase
  | .matchesPattern =>
    match compilePattern right ignoreCase with
    | .ok occurs => patternTest occurs left
    | .error _ => false
  | .doesNotMatchPattern =>
    match compilePattern right ignoreCase with
    | .ok occurs => !patternTest occurs left
    | .error _ => false
  | .isIn => membership left right ignoreCase
  | .isEmpty => emptiness left
  | .isNotEmpty => !emptiness left
  | .isNull => nullness left
  | .isNotNull => !nullness left
  | .isNullOrEmpty => nullness left || emptiness left
  | .isNotNullOrEmpty => !(nullness left || emptiness left)

end Comparison

/-- Does the operator hold? A name without a fixed meaning never does by itself. -/
def Operator.evaluate [PatternEngine] (o : Operator) (left : Option Json) (right : Json) (ignoreCase : Bool) :
    Bool :=
  match o with
  | .builtin c => c.evaluate left right ignoreCase
  | .named _ => false
  | .inline p => p.test left right ignoreCase

structure OperatorTable where
  tests : KeyMap ValueTest

namespace OperatorTable

def empty : OperatorTable := ⟨[]⟩

def register (table : OperatorTable) (name : String) (test : ValueTest) : OperatorTable :=
  ⟨KeyMap.insert table.tests (Unicode.toLower name) test⟩

def find? (table : OperatorTable) (name : String) : Option ValueTest :=
  KeyMap.get? table.tests (Unicode.toLower name)

def contains (table : OperatorTable) (name : String) : Bool := (table.find? name).isSome

def compile [PatternEngine] (table : OperatorTable) (o : Operator) (right : Json) (ignoreCase : Bool) :
    Except QueryError (Option Json → Bool) :=
  match o with
  | .builtin .matchesPattern => do
    let occurs ← compilePattern right ignoreCase
    return patternTest occurs
  | .builtin .doesNotMatchPattern => do
    let occurs ← compilePattern right ignoreCase
    return fun left => !patternTest occurs left
  | .named name =>
    match table.find? name with
    | some test => .ok fun left => test left right ignoreCase
    | none => .error (.unknownOperator name)
  | o => .ok fun left => o.evaluate left right ignoreCase

end OperatorTable

end RecordSync
