import RecordSync.Toml.Scalar

/-!
# Reading TOML text

A document is read line by line into pairs and sections. Every step of the reader takes a character, so the length of
the text bounds its recursion; how deeply values may be nested is bounded by `maxDepth` as well.
-/

set_option autoImplicit false

namespace RecordSync.Toml

def skipComment? : List Char → Option (List Char)
  | '#' :: rest =>
    match rest.dropWhile isPlain with
    | [] => some []
    | behind => (takeNewline? behind).map fun _ => behind
  | _ => none

def skipLine? (cs : List Char) : Option (List Char) := do
  let rest := skipBlanks cs
  let rest := (skipComment? rest).getD rest
  match rest with
  | [] => some []
  | rest => takeNewline? rest

def skipSpace : Nat → List Char → List Char
  | 0, cs => cs
  | fuel + 1, cs =>
    match skipBlanks cs with
    | [] => []
    | rest =>
      match (skipComment? rest).getD rest with
      | [] => []
      | behind =>
        match takeNewline? behind with
        | some rest => skipSpace fuel rest
        | none => rest

def skipAnySpace (cs : List Char) : List Char := skipSpace cs.length cs

mutual

def readValue? : (fuel room : Nat) → Scanner Value
  | 0, _, _ => none
  | fuel + 1, room, cs =>
    match cs with
    | '"' :: rest => (readText? '"' rest).map fun (s, rest) => (.text s, rest)
    | '\'' :: rest => (readText? '\'' rest).map fun (s, rest) => (.text s, rest)
    | '[' :: rest =>
      if room = 0 then none
      else (readItems? fuel (room - 1) (skipAnySpace rest)).map fun (items, rest) => (.array items, rest)
    | '\x7b' :: rest =>
      if room = 0 then none
      else
        match skipBlanks rest with
        | '\x7d' :: rest => some (.table [], rest)
        | rest => do
          let (pairs, rest) ← readInlinePairs? fuel (room - 1) rest
          let entries ← Entries.addPairs [] pairs
          return (.table (Node.closeEntries entries), rest)
    | 't' :: 'r' :: 'u' :: 'e' :: rest => some (.bool true, rest)
    | 'f' :: 'a' :: 'l' :: 's' :: 'e' :: rest => some (.bool false, rest)
    | cs => (readMoment? cs).or (readNumber? cs)

def readItems? : (fuel room : Nat) → Scanner (List Value)
  | 0, _, _ => none
  | fuel + 1, room, cs =>
    match cs with
    | ']' :: rest => some ([], rest)
    | cs => do
      let (item, rest) ← readValue? fuel room cs
      match skipAnySpace rest with
      | ',' :: rest => do
        let (items, rest) ← readItems? fuel room (skipAnySpace rest)
        return (item :: items, rest)
      | ']' :: rest => return ([item], rest)
      | _ => none

def readPair? : (fuel room : Nat) → Scanner (List String × Value)
  | 0, _, _ => none
  | fuel + 1, room, cs => do
    let (path, rest) ← readPath? cs
    match rest with
    | '=' :: rest =>
      let (value, rest) ← readValue? fuel room (skipBlanks rest)
      return ((path, value), rest)
    | _ => none

def readInlinePairs? : (fuel room : Nat) → Scanner (List (List String × Value))
  | 0, _, _ => none
  | fuel + 1, room, cs => do
    let (pair, rest) ← readPair? fuel room cs
    match skipBlanks rest with
    | ',' :: rest => do
      let (pairs, rest) ← readInlinePairs? fuel room rest
      return (pair :: pairs, rest)
    | '\x7d' :: rest => return ([pair], rest)
    | _ => none

end

def readHeader? (cs : List Char) : Option ((Bool × List String) × List Char) := do
  match cs with
  | '[' :: '[' :: rest =>
    let (path, rest) ← readPath? rest
    match rest with
    | ']' :: ']' :: rest => return ((true, path), rest)
    | _ => none
  | '[' :: rest =>
    let (path, rest) ← readPath? rest
    match rest with
    | ']' :: rest => return ((false, path), rest)
    | _ => none
  | _ => none

inductive Line where
  | header (isItem : Bool) (path : List String)
  | pair (path : List String) (value : Value)

def readLinesOf? : Nat → List Char → Option (List Line)
  | 0, _ => none
  | fuel + 1, cs =>
    match skipAnySpace cs with
    | [] => some []
    | '[' :: rest => do
      let ((isItem, path), rest) ← readHeader? ('[' :: rest)
      return .header isItem path :: (← readLinesOf? fuel (← skipLine? rest))
    | cs => do
      let ((path, value), rest) ← readPair? (2 * cs.length + 2) maxDepth cs
      return .pair path value :: (← readLinesOf? fuel (← skipLine? rest))

def sections : List Line → List (List String × Value) × List Section
  | [] => ([], [])
  | .pair path value :: rest =>
    let (pairs, later) := sections rest
    ((path, value) :: pairs, later)
  | .header isItem path :: rest =>
    let (pairs, later) := sections rest
    ([], { isItem, path, pairs } :: later)

def read? (text : String) : Option Value := do
  let cs := match text.toList with
    | '\uFEFF' :: rest => rest
    | cs => cs
  let lines ← readLinesOf? (cs.length + 1) cs
  let (pairs, later) := sections lines
  let entries ← Entries.ofSections pairs later
  return .table (Node.closeEntries entries)

end RecordSync.Toml
