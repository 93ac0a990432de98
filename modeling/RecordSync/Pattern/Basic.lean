import RecordSync.Unicode.Property

/-!
# Patterns and their matching

A pattern is matched by carrying the set of reachable positions through it. Positions of a text with
`n` characters are `0, …, n`; a set of them is a natural number whose bits tell the members. Starting
from all positions at once decides whether the pattern occurs anywhere, without backtracking.
-/

set_option autoImplicit false

namespace RecordSync

/-- Conditions on a position that consume nothing. With `wide`, words are made of all Unicode word
characters; with `crlf`, a carriage return and line feed together end a line. -/
inductive Pattern.Assertion where
  | textStart
  | textEnd
  | lineStart (crlf : Bool)
  | lineEnd (crlf : Bool)
  | wordBoundary (wide : Bool)
  | notWordBoundary (wide : Bool)
  | wordStart (wide : Bool)
  | wordEnd (wide : Bool)
  | wordStartHalf (wide : Bool)
  | wordEndHalf (wide : Bool)
  deriving DecidableEq, Repr

/-- A regular expression. Sequences and alternatives lean to the right: only their last part may be of
the same kind again. -/
inductive Pattern where
  | empty
  | literal (text : List Char)
  /-- One character of a set. Whether the set was made of bytes matters to equality only. -/
  | set (bytewise : Bool) (members : Unicode.Ranges)
  | assert (condition : Pattern.Assertion)
  /-- At least `min` and, unless unbounded, at most `max` times. Greed does not change what matches. -/
  | times (min : Nat) (max : Option Nat) (greedy : Bool) (body : Pattern)
  | capture (index : Nat) (body : Pattern)
  | seq (a b : Pattern)
  | alt (a b : Pattern)
  deriving DecidableEq

namespace Pattern

def Assertion.holds (a : Assertion) (before after : Option Char) : Bool :=
  let isWord (wide : Bool) (c : Option Char) : Bool :=
    c.any fun c => if wide then Unicode.isWordChar c else c.isAlphanum || c == '_'
  match a with
  | .textStart => before.isNone
  | .textEnd => after.isNone
  | .lineStart false => before.all (· == '\n')
  | .lineEnd false => after.all (· == '\n')
  | .lineStart true => before.all fun c => c == '\n' || (c == '\r' && after != some '\n')
  | .lineEnd true => after.all fun c => c == '\r' || (c == '\n' && before != some '\r')
  | .wordBoundary wide => isWord wide before != isWord wide after
  | .notWordBoundary wide => isWord wide before == isWord wide after
  | .wordStart wide => !isWord wide before && isWord wide after
  | .wordEnd wide => isWord wide before && !isWord wide after
  | .wordStartHalf wide => !isWord wide before
  | .wordEndHalf wide => !isWord wide after

def maskOf : List Bool → Nat
  | [] => 0
  | flag :: rest => (if flag then 1 else 0) + 2 * maskOf rest

theorem testBit_maskOf (flags : List Bool) (i : Nat) : (maskOf flags).testBit i = (flags[i]?).getD false := by
  induction flags generalizing i with
  | nil => simp [maskOf]
  | cons flag rest ih =>
    cases i with
    | zero => cases flag <;> simp [maskOf, Nat.testBit_zero]
    | succ i =>
      rw [Nat.testBit_succ, maskOf, show ((if flag then 1 else 0) + 2 * maskOf rest) / 2 = maskOf rest by
        split <;> omega, ih]
      simp

def Assertion.flags (a : Assertion) (before : Option Char) : List Char → List Bool
  | [] => [a.holds before none]
  | c :: rest => a.holds before (some c) :: a.flags (some c) rest

def stepOver (text : List Char) (test : Char → Bool) (start : Nat) : Nat :=
  (start &&& maskOf (text.map test)) <<< 1

/-- Repeats a step a number of times; a step that changes nothing ends the repetition early. -/
def repeatStep (step : Nat → Nat) : Nat → Nat → Nat
  | 0, start => start
  | count + 1, start =>
    let next := step start
    if next = start then start else repeatStep step count next

def reachAtMost (step : Nat → Nat) (count : Nat) (start : Nat) : Nat :=
  repeatStep (fun positions => positions ||| step positions) count start

/-- The positions at which a match that starts in one of the given positions can end. -/
def reach (text : List Char) : Pattern → Nat → Nat
  | .empty, start => start
  | .literal chars, start => chars.foldl (fun positions c => stepOver text (· == c) positions) start
  | .set _ members, start => stepOver text members.contains start
  | .assert a, start => start &&& maskOf (a.flags none text)
  | .times min max _ body, start =>
    let step := fun positions => body.reach text positions
    let more := match max with
      | some max => max - min
      | none => text.length + 1
    reachAtMost step more (repeatStep step min start)
  | .capture _ body, start => body.reach text start
  | .seq a b, start => b.reach text (a.reach text start)
  | .alt a b, start => a.reach text start ||| b.reach text start

def occursIn (p : Pattern) (text : String) : Bool :=
  let chars := text.toList
  p.reach chars ((1 <<< (chars.length + 1)) - 1) != 0

def minLength : Pattern → Option Nat
  | .empty | .assert _ => some 0
  | .literal text => some text.length
  | .set _ members => if members.isEmpty then none else some 1
  | .times min _ _ body => body.minLength.map (min * ·)
  | .capture _ body => body.minLength
  | .seq a b => do return (← a.minLength) + (← b.minLength)
  | .alt a b => do return min (← a.minLength) (← b.minLength)

def maxLength : Pattern → Option Nat
  | .empty | .assert _ => some 0
  | .literal text => some text.length
  | .set _ members => if members.isEmpty then none else some 1
  | .times _ max _ body => do return (← max) * (← body.maxLength)
  | .capture _ body => body.maxLength
  | .seq a b => do return (← a.maxLength) + (← b.maxLength)
  | .alt a b => do return max (← a.maxLength) (← b.maxLength)

/-- Does every match start at the start of the text? Parts of a sequence are looked at up to the
first one that can consume something. -/
def startsAtTextStart : Pattern → Bool
  | .assert a => a == .textStart
  | .times min _ _ body => 0 < min && body.startsAtTextStart
  | .capture _ body => body.startsAtTextStart
  | .seq a b => a.startsAtTextStart || (a.maxLength == some 0 && b.startsAtTextStart)
  | .alt a b => a.startsAtTextStart && b.startsAtTextStart
  | _ => false

def endsAtTextEnd : Pattern → Bool
  | .assert a => a == .textEnd
  | .times min _ _ body => 0 < min && body.endsAtTextEnd
  | .capture _ body => body.endsAtTextEnd
  | .seq a b => b.endsAtTextEnd || (b.maxLength == some 0 && a.endsAtTextEnd)
  | .alt a b => a.endsAtTextEnd && b.endsAtTextEnd
  | _ => false

end Pattern

end RecordSync
