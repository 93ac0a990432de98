import RecordSync.Numeric.Integer
import RecordSync.Pattern.Flags

/-!
# Escapes in patterns

Reading what follows a backslash: characters by their number, properties, shorthands, and conditions on
positions. In verbose mode blanks and comments may stand at most places in between. All readers take the
characters that are left and give what remains of them.
-/

set_option autoImplicit false

namespace RecordSync.Pattern

def skipComment : List Char → List Char
  | [] => []
  | c :: rest => if c = '\n' then rest else skipComment rest

def skipBlanksAndComments : Nat → List Char → List Char
  | 0, cs => cs
  | _ + 1, [] => []
  | fuel + 1, c :: rest =>
    if Unicode.isBlank c then skipBlanksAndComments fuel rest
    else if c = '#' then skipBlanksAndComments fuel (skipComment rest)
    else c :: rest

namespace Flags

def space (f : Flags) (cs : List Char) : List Char :=
  if f.verbose then skipBlanksAndComments (cs.length + 1) cs else cs

def takeSpaced (f : Flags) (test : Char → Bool) : Nat → List Char → List Char × List Char
  | fuel + 1, c :: rest =>
    if test c then
      let (taken, rest) := f.takeSpaced test fuel (f.space rest)
      (c :: taken, rest)
    else ([], c :: rest)
  | _, cs => ([], cs)

def takeBraced? (f : Flags) (cs : List Char) : Option (List Char × List Char) :=
  match f.takeSpaced (· != '\x7d') cs.length cs with
  | (_, []) => none
  | found => some found

end Flags

def scalar? (code : Nat) : Option Char :=
  if code < 0xD800 ∨ (0xE000 ≤ code ∧ code < 0x110000) then some (Char.ofNat code) else none

def isHexDigit (c : Char) : Bool := (Unicode.hexValue? c).isSome

def takeHexDigits? (f : Flags) : Nat → List Char → Option (List Char × List Char)
  | 0, cs => some ([], cs)
  | count + 1, c :: rest => do
    if !isHexDigit c then none
    let (digits, rest) ← takeHexDigits? f count (f.space rest)
    some (c :: digits, rest)
  | _ + 1, [] => none

/-- The character of a hexadecimal escape, after its letter: a fixed number of digits, or any
number of them in braces. -/
def readHex? (f : Flags) (count : Nat) (cs : List Char) : Option (Sign × List Char) :=
  match f.space cs with
  | '\x7b' :: rest => do
    let (digits, rest) ← f.takeBraced? (f.space rest)
    if digits.isEmpty || !digits.all isHexDigit then none
    let c ← scalar? (Unicode.hexNumber digits)
    some (⟨c, false⟩, f.space (rest.drop 1))
  | rest => do
    let (digits, rest) ← takeHexDigits? f count rest
    let c ← scalar? (Unicode.hexNumber digits)
    some (⟨c, count = 2⟩, rest)

def splitAtFirst? (separator : List Char) : List Char → Option (List Char × List Char)
  | [] => none
  | c :: rest =>
    if separator.isPrefixOf (c :: rest) then some ([], (c :: rest).drop separator.length)
    else (splitAtFirst? separator rest).map fun (before, behind) => (c :: before, behind)

/-- A property in braces: a name, or a name and a value separated by `!=`, a colon or `=`. The
flag tells whether the property was negated. -/
def bracedProperty? (inner : List Char) : Option (Bool × Unicode.Ranges) :=
  match splitAtFirst? ['!', '='] inner with
  | some (property, value) => (true, ·) <$> Unicode.valued? property value
  | none =>
    match (splitAtFirst? [':'] inner).or (splitAtFirst? ['='] inner) with
    | some (property, value) => (false, ·) <$> Unicode.valued? property value
    | none => (false, ·) <$> Unicode.named? inner

def readProperty? (f : Flags) (negated : Bool) (cs : List Char) : Option (Unicode.Ranges × List Char) :=
  match f.space cs with
  | [] | '\\' :: _ => none
  | '\x7b' :: rest => do
    let (inner, rest) ← f.takeBraced? (f.space rest)
    let (unequal, members) ← bracedProperty? inner
    let members ← f.property? (negated != unequal) members
    some (members, rest.drop 1)
  | c :: rest => do
    let members ← f.property? negated (← Unicode.named? [c])
    some (members, f.space rest)

/-- Reserved names of word boundaries in braces after `\b`. Text that could not be such a name is left
to be read as a counted repetition. -/
def readBoundary? (f : Flags) (cs : List Char) : Option (Assertion × List Char) :=
  let isNameChar (c : Char) : Bool := c.isAlpha || c == '-'
  match cs with
  | '\x7b' :: rest =>
    match f.space rest with
    | [] => none
    | c :: inner =>
      if !isNameChar c then some (.wordBoundary f.unicode, cs)
      else
        match f.takeSpaced isNameChar (inner.length + 1) (c :: inner) with
        | (name, '\x7d' :: after) =>
          match String.ofList name with
          | "start" => some (.wordStart f.unicode, after)
          | "end" => some (.wordEnd f.unicode, after)
          | "start-half" => some (.wordStartHalf f.unicode, after)
          | "end-half" => some (.wordEndHalf f.unicode, after)
          | _ => none
        | _ => none
  | _ => some (.wordBoundary f.unicode, cs)

inductive Escape where
  | sign (s : Sign)
  | members (r : Unicode.Ranges)
  | assert (a : Assertion)

def readEscape? (f : Flags) : List Char → Option (Escape × List Char)
  | [] => none
  | c :: rest =>
    let literal (c : Char) : Option (Escape × List Char) := some (.sign ⟨c, false⟩, rest)
    let assert (a : Assertion) : Option (Escape × List Char) := some (.assert a, rest)
    let shorthand (negated : Bool) (kind : Shorthand) : Option (Escape × List Char) :=
      (f.shorthand? negated kind).map fun r => (.members r, rest)
    let hex (count : Nat) : Option (Escape × List Char) :=
      (readHex? f count rest).map fun (s, rest) => (.sign s, rest)
    let property (negated : Bool) : Option (Escape × List Char) :=
      (readProperty? f negated rest).map fun (r, rest) => (.members r, rest)
    match c with
    | 'd' => shorthand false .digit
    | 's' => shorthand false .space
    | 'w' => shorthand false .word
    | 'D' => shorthand true .digit
    | 'S' => shorthand true .space
    | 'W' => shorthand true .word
    | 'p' => property false
    | 'P' => property true
    | 'x' => hex 2
    | 'u' => hex 4
    | 'U' => hex 8
    | 'a' => literal '\x07'
    | 'f' => literal '\x0c'
    | 't' => literal '\t'
    | 'n' => literal '\n'
    | 'r' => literal '\r'
    | 'v' => literal '\x0b'
    | 'A' => assert .textStart
    | 'z' => assert .textEnd
    | 'B' => assert (.notWordBoundary f.unicode)
    | '<' => assert (.wordStart f.unicode)
    | '>' => assert (.wordEnd f.unicode)
    | 'b' => (readBoundary? f rest).map fun (a, rest) => (.assert a, rest)
    | c => if c.toNat < 128 && !c.isAlphanum then literal c else none

end RecordSync.Pattern
