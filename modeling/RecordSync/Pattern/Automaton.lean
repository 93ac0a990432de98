import RecordSync.Pattern.Normal
import RecordSync.Unicode.ByteRanges
import Std.Data.HashMap

/-!
# The size of a pattern's automaton

A pattern is accepted when the automaton of bytes that matches it, and the one that matches it backwards, stay
within a limit of memory. This module counts the states of these automata and what they take, without building
them. Counted repetitions are written out, alternatives of literals share their beginnings, and sets share the
states of equal byte ranges as far as a table of recent states remembers them.
-/

set_option autoImplicit false

namespace RecordSync.Pattern

/-- An automaton that is being laid out: the number of its states, the bytes it takes, and whether the part that was
laid out last ends in a fork, which takes one more arm to be connected to what follows. -/
structure Draft where
  states : Nat
  bytes : Nat
  endsInFork : Bool

namespace Draft

def limit : Nat := 10485760

def armBytes : Nat := 4

def transitionBytes : Nat := 8

def start : Draft := ⟨0, 0, false⟩

def fits (d : Draft) : Bool := d.bytes ≤ limit

def addState (d : Draft) (extra : Nat) : Draft := ⟨d.states + 1, d.bytes + 32 + extra, false⟩

def addStates (d : Draft) (count : Nat) : Draft := ⟨d.states + count, d.bytes + 32 * count, false⟩

def addFork (d : Draft) (arms : Nat) : Draft := d.addState (armBytes * arms)

def addArm (d : Draft) : Draft := { d with bytes := d.bytes + armBytes }

def addBranches (d : Draft) (count : Nat) : Draft := d.addState (transitionBytes * count)

def join (d : Draft) : Draft := ⟨d.states, d.bytes + (if d.endsInFork then armBytes else 0), false⟩

def closeLoop (d : Draft) : Draft := { d.join.addFork 1 with endsInFork := true }

/-- Connects the alternative with the given index to the end of all alternatives, which is added with the second one. -/
def endAlternative (d : Draft) (index : Nat) : Draft :=
  match index with
  | 0 => d.join
  | 1 => (d.join.addFork 2).addState 0
  | _ => d.join.addArm

def copies (layOut : Draft → Option Draft) : Nat → Draft → Option Draft
  | 0, d => some d
  | count + 1, d => do copies layOut count (← layOut d.join)

end Draft

def splitAtEmpty : List (List Nat) → List (List (List Nat))
  | [] => [[]]
  | [] :: words => [] :: splitAtEmpty words
  | word :: words =>
    match splitAtEmpty words with
    | run :: runs => (word :: run) :: runs
    | [] => [[word]]

def tailsByHead : List (List Nat) → List (Nat × List (List Nat))
  | [] => []
  | [] :: words => tailsByHead words
  | (head :: tail) :: words =>
    let groups := tailsByHead words
    match groups.find? (·.1 == head) with
    | some (_, tails) => (head, tail :: tails) :: groups.filter (·.1 != head)
    | none => (head, [tail]) :: groups

/-- A tree of literals: a node where words end or part has a fork with an arm for every group of words
between ends and one for every end. Words that only end need no node; nor does a repeated end before any other
word. The depth of the tree is bounded by the longest word. -/
def layOutWords : Nat → List (List Nat) → Draft → Draft
  | 0, _, d => d
  | fuel + 1, words, d =>
    if words.all List.isEmpty then d
    else
      let runs := splitAtEmpty words
      let leadingEnds := (runs.takeWhile List.isEmpty).length
      let ends := runs.length - 1 - (leadingEnds - 1)
      let groups := (runs.filter (!·.isEmpty)).map tailsByHead
      let d := groups.foldl (fun d group =>
        let d := group.foldl (fun d branch => layOutWords fuel branch.2 d) d
        if group.length = 1 then d.addState 0 else d.addBranches group.length) d
      d.addFork (groups.length + ends)

def digest (key : List Nat) : UInt64 :=
  key.foldl (fun h value => (h ^^^ value.toUInt64) * 1099511628211) 14695981039346656037

structure RecentStates where
  slots : Nat
  table : Std.HashMap Nat (List Nat × Nat)

namespace RecentStates

def empty (slots : Nat) : RecentStates := ⟨slots, ∅⟩

def slot (t : RecentStates) (key : List Nat) : Nat := (digest key).toNat % t.slots

def find? (t : RecentStates) (key : List Nat) : Option Nat :=
  match t.table[t.slot key]? with
  | some (known, state) => if known = key then some state else none
  | none => none

def insert (t : RecentStates) (key : List Nat) (state : Nat) : RecentStates :=
  { t with table := t.table.insert (t.slot key) (key, state) }

end RecentStates

structure SetDraft where
  draft : Draft
  recent : RecentStates

/-- A node of the tree of byte ranges: its transitions so far, each as the ends of its byte range and the state it
leads to, from the last to the first; and the byte range whose target is still open. -/
structure OpenNode where
  transitions : List (Nat × Nat × Nat)
  last : Option (Nat × Nat)

namespace OpenNode

def close (n : OpenNode) (target : Nat) : OpenNode :=
  match n.last with
  | some (low, high) => ⟨(low, high, target) :: n.transitions, none⟩
  | none => n

end OpenNode

namespace SetDraft

def stateOf (s : SetDraft) (n : OpenNode) : Nat × SetDraft :=
  let key := n.transitions.reverse.flatMap fun (low, high, target) => [low, high, target]
  match s.recent.find? key with
  | some state => (state, s)
  | none =>
    let state := s.draft.states
    (state, ⟨s.draft.addBranches n.transitions.length, s.recent.insert key state⟩)

def closePath (target : Nat) (s : SetDraft) : List OpenNode → Nat × SetDraft
  | [] => (target, s)
  | n :: rest =>
    let (next, s) := s.closePath target rest
    s.stateOf (n.close next)

/-- Adds a sequence of byte ranges to the path of open nodes. Nodes are shared as long as the ranges are the
last ones of the path. -/
def addRanges (target : Nat) (s : SetDraft) : List OpenNode → List (Nat × Nat) → List OpenNode × SetDraft
  | n :: rest, range :: ranges =>
    if n.last = some range then
      let (rest, s) := s.addRanges target rest ranges
      (n :: rest, s)
    else
      let (next, s) := s.closePath target rest
      ({ n.close next with last := some range } :: ranges.map fun range => ⟨[], some range⟩, s)
  | path, _ => (path, s)

end SetDraft

namespace Draft

/-- A set that is matched forwards: a tree of byte ranges that share their last parts. -/
def addSet (d : Draft) (members : Unicode.Ranges) : Draft :=
  let target := d.states
  let (path, s) := members.byteRanges.foldl (fun (path, s) ranges => SetDraft.addRanges target s path ranges)
    ([⟨[], none⟩], ⟨d.addState 0, .empty 10000⟩)
  (s.closePath target path).2.draft

/-- A set that is matched backwards: its sequences of byte ranges share their first parts. -/
def addSetBackwards (d : Draft) (members : Unicode.Ranges) : Draft :=
  let target := d.states + 1
  let follow (found : Nat × SetDraft) (range : Nat × Nat) : Nat × SetDraft :=
    let (from_, s) := found
    let key := [from_, range.1, range.2]
    match s.recent.find? key with
    | some state => (state, s)
    | none => (s.draft.states, ⟨s.draft.addState 0, s.recent.insert key s.draft.states⟩)
  let s := members.byteRanges.foldl (fun s ranges =>
    let s := (ranges.foldl follow (target, s)).2
    { s with draft := s.draft.addArm }) ⟨(d.addState 0).addState 0, .empty 1000⟩
  s.draft

end Draft

def literals? (p : Pattern) : Option (List (List Char)) :=
  p.choices.mapM fun q => match q with
    | .literal text => some text
    | _ => none

def literalBytes (text : List Char) : List Nat := text.flatMap fun c => Unicode.utf8Bytes c.toNat

def Draft.addLiterals (d : Draft) (backwards : Bool) (literals : List (List Char)) : Draft :=
  let words := literals.map fun text => if backwards then (literalBytes text).reverse else literalBytes text
  let longest := words.foldl (fun length word => max length word.length) 0
  { layOutWords (longest + 1) words (d.addState 0) with endsInFork := false }

def Draft.addTimes (d : Draft) (least : Nat) (most : Option Nat) (consumes : Bool) (layOut : Draft → Option Draft) :
    Option Draft :=
  let exactly (count : Nat) (d : Draft) : Option Draft :=
    if count = 0 then some (d.addState 0) else Draft.copies layOut count d
  match least, most with
  | 0, some 1 => do return (← layOut (d.addFork 2)).join.addState 0
  | 0, none =>
    if consumes then do return { (← layOut (d.addFork 1)).join with endsInFork := true }
    else do return (((← layOut d).join.addFork 2).addFork 2).addState 0
  | 1, none => do return (← layOut d).closeLoop
  | least, none => do return (← layOut (← exactly (least - 1) d).join).closeLoop
  | least, some most =>
    if least = most then exactly least d
    else do
      let d := (← exactly least d).join.addState 0
      return (← Draft.copies (fun d => layOut (d.addFork 2)) (most - least) d).join

/-- Lays out a pattern. The index tells how many alternatives have been laid out before it, if it is an alternative
or all the remaining ones; groups take states in the forward automaton only. A draft that does not fit is given up. -/
def layOut (backwards : Bool) : Pattern → (index : Option Nat) → Draft → Option Draft
  | .alt a b, index, d =>
    match index, literals? (.alt a b) with
    | none, some literals => some (d.addLiterals backwards literals)
    | index, _ => do
      let index := index.getD 0
      let d ← a.layOut backwards none d
      b.layOut backwards (some (index + 1)) (d.endAlternative index)
  | .empty, index, d => finish index (d.addState 0)
  | .assert _, index, d => finish index (d.addState 0)
  | .literal text, index, d => finish index (d.addStates (literalBytes text).length)
  | .set _ members, index, d =>
    finish index <|
      if members.isAscii then (d.addState 0).addBranches members.bounds.size
      else { (if backwards then d.addSetBackwards members else d.addSet members) with endsInFork := false }
  | .times least most _ body, index, d => do
    let consumes := body.minLength.any (0 < ·)
    finish index (← d.addTimes least most consumes (body.layOut backwards none))
  | .capture _ body, index, d => do
    if backwards then finish index (← body.layOut backwards none d)
    else finish index ((← body.layOut backwards none (d.addState 0)).join.addState 0)
  | .seq a b, index, d => do
    let (first, second) := if backwards then (b.layOut backwards none, a.layOut backwards none)
      else (a.layOut backwards none, b.layOut backwards none)
    finish index (← second (← first d).join)
where
  finish (index : Option Nat) (d : Draft) : Option Draft :=
    if !d.fits then none
    else match index with
      | none => some d
      | some index => some (d.endAlternative index)

/-- The automaton of a pattern. Unless matches are bound to the end of the text where matching starts, it begins with a
loop over all bytes. -/
def draft? (p : Pattern) (backwards : Bool) : Option Draft := do
  let anchored := if backwards then p.endsAtTextEnd else p.startsAtTextStart
  let d := if anchored then Draft.start.addState 0 else ((Draft.start.addFork 2).addState 0).addBranches 1
  let whole := if backwards then p else .capture 0 p
  let d := (← whole.layOut backwards none d).join.addState 0
  if d.fits then some d else none

def fits (p : Pattern) : Bool := (p.draft? false).isSome && (p.draft? true).isSome

end RecordSync.Pattern
