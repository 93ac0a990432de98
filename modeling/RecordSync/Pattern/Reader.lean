import RecordSync.Pattern.ClassReader
import RecordSync.Unicode.Letters

/-!
# Reading patterns

Patterns are written with alternatives, groups, classes, counted repetitions, escapes and inline flags.
Look-around and back references do not exist. `Reading.ofText?` gives the pattern together with its depth:
how many groups, classes, repetitions, sequences and alternatives lie inside each other.

The reader works on the characters that are left, with a step budget that the length of the text
provides: every call of a nested construct has consumed a character before.
-/

set_option autoImplicit false

namespace RecordSync.Pattern

structure Reading where
  pattern : Pattern
  depth : Nat

structure Piece extends Reading where
  repeatable : Bool

namespace Reading

def combine (whole : List Pattern → Pattern) (readings : List Reading) : Reading :=
  match readings with
  | [r] => r
  | [] => ⟨whole [], 0⟩
  | readings => ⟨whole (readings.map (·.pattern)), readings.foldl (fun depth r => max depth r.depth) 0 + 1⟩

end Reading

def readCount? (f : Flags) (cs : List Char) : Option (Nat × List Char) :=
  let cs := cs.dropWhile Unicode.isBlank
  let (digits, rest) := f.takeSpaced Char.isDigit cs.length cs
  let value := Decimal.appendDigits 0 digits
  if digits.isEmpty || !fitsUnsigned32 value then none
  else some (value, (f.takeSpaced Unicode.isBlank rest.length rest).2)

def readBounds? (f : Flags) (cs : List Char) : Option ((Nat × Option Nat) × List Char) := do
  let (least, rest) ← readCount? f (f.space cs)
  match rest with
  | '\x7d' :: rest => some ((least, some least), rest)
  | ',' :: rest =>
    match f.space rest with
    | '\x7d' :: rest => some ((least, none), rest)
    | rest => do
      let (most, rest) ← readCount? f rest
      match rest with
      | '\x7d' :: rest => if least ≤ most then some ((least, some most), rest) else none
      | _ => none
  | _ => none

def readReluctant (cs : List Char) : Bool × List Char :=
  match cs with
  | '?' :: rest => (true, rest)
  | rest => (false, rest)

/-- Inline flags after `(?` up to the colon or the parenthesis that ends them. No flag may be
given twice, and a minus sign needs a flag after it. The result tells how many were given. -/
def readFlags? (seen : List Char) (value : Bool) (dangling : Bool) (f : Flags) :
    List Char → Option (Flags × Nat × List Char)
  | [] => none
  | ':' :: rest => if dangling then none else some (f, seen.length, ':' :: rest)
  | ')' :: rest => if dangling then none else some (f, seen.length, ')' :: rest)
  | '-' :: rest => if value then readFlags? seen false true f rest else none
  | c :: rest => do
    let changed ← f.set? c value
    if seen.contains c then none else readFlags? (c :: seen) value false changed rest

def isNameStart (c : Char) : Bool := c == '_' || Unicode.isLetter c

def isNameChar (c : Char) : Bool :=
  c == '_' || c == '.' || c == '[' || c == ']' || Unicode.isLetterOrNumber c

def readName? (cs : List Char) : Option (String × List Char) :=
  let name := cs.takeWhile (· != '>')
  match cs.dropWhile (· != '>'), name with
  | '>' :: rest, c :: tail =>
    if isNameStart c && tail.all isNameChar then some (String.ofList name, rest) else none
  | _, _ => none

/-- What is known while alternatives are read: the flags in force, the names of groups so far and how many
groups there are, the alternatives that are complete and the pieces of the one being read, both from the last to
the first. -/
structure Progress where
  flags : Flags
  names : List String
  groups : Nat
  alternatives : List Reading
  pieces : List Piece

namespace Progress

def start (flags : Flags) (names : List String) (groups : Nat) : Progress :=
  { flags, names, groups, alternatives := [], pieces := [] }

def push (s : Progress) (pattern : Pattern) (depth : Nat) : Progress :=
  { s with pieces := { pattern, depth, repeatable := true } :: s.pieces }

def setFlags (s : Progress) (flags : Flags) : Progress :=
  { s with flags, pieces := { pattern := .empty, depth := 0, repeatable := false } :: s.pieces }

def repeatLast? (s : Progress) (least : Nat) (most : Option Nat) (reluctant : Bool) : Option Progress :=
  match s.pieces with
  | [] => none
  | last :: before =>
    if !last.repeatable then none
    else
      let greedy := reluctant == s.flags.swapGreed
      let pattern := repeated least most greedy last.pattern
      some { s with pieces := { pattern, depth := last.depth + 1, repeatable := true } :: before }

def sequence (s : Progress) : Reading := .combine Pattern.sequence (s.pieces.reverse.map (·.toReading))

def nextAlternative (s : Progress) : Progress :=
  { s with alternatives := s.sequence :: s.alternatives, pieces := [] }

def close (s : Progress) : Reading := .combine alternation (s.sequence :: s.alternatives).reverse

end Progress

def readAlternatives? : Nat → (inGroup : Bool) → Progress → List Char → Option (Progress × List Char)
  | 0, _, _, _ => none
  | fuel + 1, inGroup, s, cs =>
    let go (s : Progress) (rest : List Char) := readAlternatives? fuel inGroup s rest
    let repeatLast (least : Nat) (most : Option Nat) (rest : List Char) := do
      let (reluctant, rest) := readReluctant rest
      go (← s.repeatLast? least most reluctant) rest
    let group (flags : Flags) (rest : List Char) := do
      let (inner, rest) ← readAlternatives? fuel true (.start flags s.names s.groups) rest
      let body := inner.close
      go { s.push body.pattern (body.depth + 1) with names := inner.names, groups := inner.groups } rest
    let capture (names : List String) (rest : List Char) := do
      let index := s.groups + 1
      let (inner, rest) ← readAlternatives? fuel true (.start s.flags names index) rest
      let body := inner.close
      go { s.push (.capture index body.pattern) (body.depth + 1) with names := inner.names, groups := inner.groups } rest
    let named (rest : List Char) := do
      let (name, rest) ← readName? rest
      if s.names.contains name then none else capture (name :: s.names) rest
    match s.flags.space cs with
    | [] => if inGroup then none else some (s, [])
    | ')' :: rest => if inGroup then some (s, rest) else none
    | '|' :: rest => go s.nextAlternative rest
    | '*' :: rest => repeatLast 0 none rest
    | '+' :: rest => repeatLast 1 none rest
    | '?' :: rest => repeatLast 0 (some 1) rest
    | '\x7b' :: rest => do
      let ((least, most), rest) ← readBounds? s.flags rest
      repeatLast least most (s.flags.space rest)
    | '[' :: rest => do
      let (found, rest) ← readClass? s.flags fuel rest
      go (s.push (s.flags.setPattern found.members) found.depth) rest
    | '.' :: rest => do go (s.push (← s.flags.anyCharacter?) 0) rest
    | '^' :: rest => go (s.push (.assert s.flags.startAnchor) 0) rest
    | '$' :: rest => go (s.push (.assert s.flags.endAnchor) 0) rest
    | '\\' :: rest => do
      match ← readEscape? s.flags rest with
      | (.sign c, rest) => go (s.push (← s.flags.character? c) 0) rest
      | (.members r, rest) => go (s.push (s.flags.setPattern r) 0) rest
      | (.assert a, rest) => go (s.push (.assert a) 0) rest
    | '(' :: rest =>
      match s.flags.space rest with
      | '?' :: 'P' :: '<' :: rest => named rest
      | '?' :: '<' :: rest => named rest
      | '?' :: rest => do
        let (flags, given, rest) ← readFlags? [] true false s.flags rest
        match rest with
        | ':' :: rest => group flags rest
        | _ :: rest => if given = 0 then none else go (s.setFlags flags) rest
        | [] => none
      | rest => capture s.names rest
    | c :: rest => do go (s.push (← s.flags.character? ⟨c, false⟩) 0) rest

def Reading.ofText? (text : String) (flags : Flags) : Option Reading :=
  let cs := text.toList
  (readAlternatives? (2 * cs.length + 2) false (.start flags [] 0) cs).map fun (s, _) => s.close

end RecordSync.Pattern
