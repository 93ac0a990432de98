import RecordSync.Pattern.Escape

/-!
# Reading bracketed classes

A class holds characters, ranges, other classes, and operators between sets of them. Along with its
members the reader counts how deep it is nested.
-/

set_option autoImplicit false

namespace RecordSync.Pattern

inductive SetOperator where
  | intersection
  | difference
  | symmetricDifference

def SetOperator.apply (o : SetOperator) (a b : Unicode.Ranges) : Unicode.Ranges :=
  match o with
  | .intersection => a.intersection b
  | .difference => a.difference b
  | .symmetricDifference => a.symmetricDifference b

structure ReadSet where
  members : Unicode.Ranges
  depth : Nat

structure ItemRow where
  items : List ReadSet

namespace ItemRow

def push (row : ItemRow) (item : ReadSet) : ItemRow := ⟨item :: row.items⟩

def close (row : ItemRow) : ReadSet :=
  match row.items with
  | [] => ⟨.empty, 0⟩
  | [item] => item
  | items => ⟨.unionAll (items.map (·.members)), items.foldl (fun depth item => max depth item.depth) 0 + 1⟩

end ItemRow

structure OpenClass where
  operand : Option (SetOperator × ReadSet)
  row : ItemRow

namespace OpenClass

def push (c : OpenClass) (item : ReadSet) : OpenClass := { c with row := c.row.push item }

/-- The whole set. Operators apply from left to right, to sets that hold their case variants. -/
def close (c : OpenClass) (f : Flags) : ReadSet :=
  let right := c.row.close
  match c.operand with
  | none => right
  | some (o, left) => ⟨o.apply (f.folded left.members) (f.folded right.members), max left.depth right.depth + 1⟩

def operate (c : OpenClass) (f : Flags) (o : SetOperator) : OpenClass := ⟨some (o, c.close f), ⟨[]⟩⟩

end OpenClass

def readAsciiClass? : List Char → Option ((Bool × Unicode.Ranges) × List Char)
  | ':' :: rest =>
    let (negated, rest) := match rest with
      | '^' :: rest => (true, rest)
      | rest => (false, rest)
    match rest.dropWhile (· != ':') with
    | ':' :: ']' :: after =>
      (asciiClass? (String.ofList (rest.takeWhile (· != ':')))).map fun r => ((negated, r), after)
    | _ => none
  | _ => none

def readClassItem? (f : Flags) : List Char → Option (Escape × List Char)
  | '\\' :: rest => readEscape? f rest
  | c :: rest => some (.sign ⟨c, false⟩, rest)
  | [] => none

/-- The character that decides whether a hyphen, given what follows it, makes a range. In verbose mode
that is the first one that is not blank, except that a number sign in front of it is passed over too; if
there is none, it is whatever follows the hyphen. -/
def behindHyphen? (f : Flags) (cs : List Char) : Option Char :=
  if !f.verbose then cs.head?
  else
    let visible := cs.filter fun c => !Unicode.isBlank c
    (match visible with
      | '#' :: rest => rest.head?
      | rest => rest.head?).or cs.head?

def readClassRange? (f : Flags) (cs : List Char) : Option (Unicode.Ranges × List Char) := do
  let (first, rest) ← readClassItem? f cs
  let rest := f.space rest
  let isRange := match rest with
    | '-' :: after => behindHyphen? f after != some ']' && behindHyphen? f after != some '-'
    | _ => false
  match first, isRange with
  | .sign s, false => do
    let code ← f.member? s
    some (.range code code, rest)
  | .members r, false => some (r, rest)
  | .sign s, true => do
    let low ← f.member? s
    match ← readClassItem? f (f.space (rest.drop 1)) with
    | (.sign s, rest) => do
      let high ← f.member? s
      if low ≤ high then some (.range low high, rest) else none
    | _ => none
  | _, _ => none

def leadingHyphens (f : Flags) : Nat → ItemRow → List Char → ItemRow × List Char
  | fuel + 1, row, '-' :: rest => leadingHyphens f fuel (row.push ⟨.range 0x2D 0x2D, 0⟩) (f.space rest)
  | _, row, cs => (row, cs)

/-- The start of a class after its opening bracket: whether it is negated, and the items that are
members only because they stand here. -/
def openClass (f : Flags) (cs : List Char) : Bool × OpenClass × List Char :=
  let (negated, rest) := match f.space cs with
    | '^' :: rest => (true, f.space rest)
    | rest => (false, rest)
  let (row, rest) := leadingHyphens f rest.length ⟨[]⟩ rest
  match row.items, rest with
  | [], ']' :: rest => (negated, ⟨none, ⟨[⟨.range 0x5D 0x5D, 0⟩]⟩⟩, f.space rest)
  | _, rest => (negated, ⟨none, row⟩, rest)

mutual

def readClass? (f : Flags) : Nat → List Char → Option (ReadSet × List Char)
  | 0, _ => none
  | fuel + 1, cs => do
    let (negated, opened, rest) := openClass f cs
    let (whole, rest) ← readClassItems? f fuel opened rest
    some (⟨← f.class? negated whole.members, whole.depth + 1⟩, rest)

def readClassItems? (f : Flags) : Nat → OpenClass → List Char → Option (ReadSet × List Char)
  | 0, _, _ => none
  | fuel + 1, opened, cs =>
    match f.space cs with
    | [] => none
    | ']' :: rest => some (opened.close f, rest)
    | '[' :: rest =>
      match readAsciiClass? rest with
      | some ((negated, r), rest) => do
        readClassItems? f fuel (opened.push ⟨← f.class? negated r, 0⟩) rest
      | none => do
        let (inner, rest) ← readClass? f fuel rest
        readClassItems? f fuel (opened.push inner) rest
    | '&' :: '&' :: rest => readClassItems? f fuel (opened.operate f .intersection) rest
    | '-' :: '-' :: rest => readClassItems? f fuel (opened.operate f .difference) rest
    | '~' :: '~' :: rest => readClassItems? f fuel (opened.operate f .symmetricDifference) rest
    | rest => do
      let (members, rest) ← readClassRange? f rest
      readClassItems? f fuel (opened.push ⟨members, 0⟩) rest

end

end RecordSync.Pattern
