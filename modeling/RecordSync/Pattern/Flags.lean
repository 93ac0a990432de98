import RecordSync.Pattern.Normal
import RecordSync.Text
import RecordSync.Unicode.Folding

/-!
# Flags of patterns

What the single items of a pattern mean under the flags in force. Without the Unicode flag a pattern works on
ASCII: negations, properties and the dot are refused then, because they would match inside of a character.
-/

set_option autoImplicit false

namespace RecordSync.Pattern

structure Flags where
  ignoreCase : Bool
  multiLine : Bool
  dotAll : Bool
  swapGreed : Bool
  crlf : Bool
  unicode : Bool
  verbose : Bool

structure Sign where
  char : Char
  isByte : Bool

inductive Shorthand where
  | digit
  | space
  | word
  deriving DecidableEq, Repr

def Shorthand.members (wide : Bool) : Shorthand → Unicode.Ranges
  | .digit => if wide then Unicode.decimalNumber else .range 0x30 0x39
  | .space => if wide then Unicode.whiteSpace else .ofLines ["9-D 20"]
  | .word => if wide then Unicode.wordRanges else .ofLines ["30-39 41-5A 5F 61-7A"]

def asciiClass? (name : String) : Option Unicode.Ranges :=
  match name with
  | "alnum" => some (.ofLines ["30-39 41-5A 61-7A"])
  | "alpha" => some (.ofLines ["41-5A 61-7A"])
  | "ascii" => some (.ofLines ["0-7F"])
  | "blank" => some (.ofLines ["9 20"])
  | "cntrl" => some (.ofLines ["0-1F 7F"])
  | "digit" => some (.ofLines ["30-39"])
  | "graph" => some (.ofLines ["21-7E"])
  | "lower" => some (.ofLines ["61-7A"])
  | "print" => some (.ofLines ["20-7E"])
  | "punct" => some (.ofLines ["21-2F 3A-40 5B-60 7B-7E"])
  | "space" => some (.ofLines ["9-D 20"])
  | "upper" => some (.ofLines ["41-5A"])
  | "word" => some (.ofLines ["30-39 41-5A 5F 61-7A"])
  | "xdigit" => some (.ofLines ["30-39 41-46 61-66"])
  | _ => none

namespace Flags

def initial (ignoreCase : Bool) : Flags :=
  { ignoreCase, multiLine := false, dotAll := false, swapGreed := false, crlf := false, unicode := true,
    verbose := false }

def set? (f : Flags) (letter : Char) (value : Bool) : Option Flags :=
  match letter with
  | 'i' => some { f with ignoreCase := value }
  | 'm' => some { f with multiLine := value }
  | 's' => some { f with dotAll := value }
  | 'U' => some { f with swapGreed := value }
  | 'R' => some { f with crlf := value }
  | 'u' => some { f with unicode := value }
  | 'x' => some { f with verbose := value }
  | _ => none

def folded (f : Flags) (members : Unicode.Ranges) : Unicode.Ranges :=
  if !f.ignoreCase then members
  else if f.unicode then members.withCaseVariants
  else members.withAsciiVariants

def negated? (f : Flags) (negated : Bool) (members : Unicode.Ranges) : Option Unicode.Ranges :=
  if !negated then some members else if f.unicode then some members.complement else none

def character? (f : Flags) (s : Sign) : Option Pattern :=
  if !f.unicode && s.isByte && 0x80 ≤ s.char.toNat then none
  else some (ofSet (!f.unicode) (f.folded (.range s.char.toNat s.char.toNat)))

def member? (f : Flags) (s : Sign) : Option Nat :=
  if f.unicode || s.char.toNat < 0x80 then some s.char.toNat else none

def shorthand? (f : Flags) (negated : Bool) (kind : Shorthand) : Option Unicode.Ranges :=
  f.negated? negated (kind.members f.unicode)

def class? (f : Flags) (negated : Bool) (members : Unicode.Ranges) : Option Unicode.Ranges :=
  f.negated? negated (f.folded members)

def property? (f : Flags) (negated : Bool) (members : Unicode.Ranges) : Option Unicode.Ranges :=
  if f.unicode then f.class? negated members else none

def setPattern (f : Flags) (members : Unicode.Ranges) : Pattern := ofSet (!f.unicode) members

def anyCharacter? (f : Flags) : Option Pattern :=
  if !f.unicode then none
  else
    let excluded : Unicode.Ranges :=
      if f.dotAll then .empty else if f.crlf then .ofLines ["A D"] else .ofLines ["A"]
    some (.set false excluded.complement)

def startAnchor (f : Flags) : Assertion := if f.multiLine then .lineStart f.crlf else .textStart

def endAnchor (f : Flags) : Assertion := if f.multiLine then .lineEnd f.crlf else .textEnd

end Flags

end RecordSync.Pattern
