import RecordSync.Pattern.Basic

/-!
# Patterns in a normal form

Patterns are put together by functions that simplify: neighbouring literals become one, alternatives of
single characters become a set, and what all alternatives start with is taken out in front of them. The
size of a pattern is measured in this form.
-/

set_option autoImplicit false

namespace RecordSync.Pattern

def ofSet (bytewise : Bool) (members : Unicode.Ranges) : Pattern :=
  match members.single? with
  | some c => .literal [c]
  | none => .set (bytewise || members.isEmpty) members

def repeated (min : Nat) (max : Option Nat) (greedy : Bool) (body : Pattern) : Pattern :=
  let (min, max) := if body.maxLength = some 0 then (Nat.min min 1, some ((max.map (Nat.min · 1)).getD 1))
    else (min, max)
  if min = 0 ∧ max = some 0 then .empty
  else if min = 1 ∧ max = some 1 then body
  else .times min max greedy body

def parts : Pattern → List Pattern
  | .empty => []
  | .seq a b => a :: b.parts
  | p => [p]

def choices : Pattern → List Pattern
  | .alt a b => a :: b.choices
  | p => [p]

def joinLiterals : List Pattern → List Pattern
  | [] => []
  | .literal text :: rest =>
    match joinLiterals rest with
    | .literal more :: rest => .literal (text ++ more) :: rest
    | rest => .literal text :: rest
  | p :: rest => p :: joinLiterals rest

def ofParts : List Pattern → Pattern
  | [] => .empty
  | [p] => p
  | p :: rest => .seq p (ofParts rest)

theorem reach_ofParts (text : List Char) (ps : List Pattern) (start : Nat) :
    (ofParts ps).reach text start = ps.foldl (fun positions p => p.reach text positions) start := by
  induction ps generalizing start with
  | nil => rfl
  | cons p rest ih =>
    cases rest with
    | nil => rfl
    | cons q rest => simp [ofParts, reach, ih]

theorem foldl_reach_joinLiterals (text : List Char) (ps : List Pattern) (start : Nat) :
    (joinLiterals ps).foldl (fun positions p => p.reach text positions) start =
      ps.foldl (fun positions p => p.reach text positions) start := by
  induction ps generalizing start with
  | nil => rfl
  | cons p rest ih =>
    unfold joinLiterals
    split
    · simp_all
    · rename_i chars rest' heq
      obtain ⟨rfl, rfl⟩ := List.cons.inj heq
      split
      · rename_i more rest' joined
        have := ih ((Pattern.literal chars).reach text start)
        rw [joined] at this
        simpa [reach, List.foldl_append] using this
      · simpa using ih ((Pattern.literal chars).reach text start)
    · rename_i heq
      obtain ⟨rfl, rfl⟩ := List.cons.inj heq
      simpa using ih _

def sequence (ps : List Pattern) : Pattern := ofParts (joinLiterals (ps.flatMap parts))

def ofChoices : List Pattern → Pattern
  | [] => .set true .empty
  | [p] => p
  | p :: rest => .alt p (ofChoices rest)

def singleCharacters? (ps : List Pattern) : Option Unicode.Ranges :=
  .ofPairs <$> ps.mapM fun p => match p with
    | .literal [c] => some (c.toNat, c.toNat)
    | _ => none

def unionOfSets? (ps : List Pattern) : Option Unicode.Ranges :=
  .unionAll <$> ps.mapM fun p => match p with
    | .set _ members => some members
    | _ => none

def anyOf (ps : List Pattern) : Pattern :=
  match ps.flatMap choices with
  | [p] => p
  | all =>
    match (singleCharacters? all).or (unionOfSets? all) with
    | some members => ofSet false members
    | none => ofChoices all

def commonParts : List Pattern → List Pattern → List Pattern
  | p :: ps, q :: qs => if p = q then p :: commonParts ps qs else []
  | _, _ => []

def sharedStart : List Pattern → List Pattern
  | [] => []
  | p :: rest =>
    if (p :: rest).all (·.parts.length ≥ 2) then rest.foldl (fun shared q => commonParts shared q.parts) p.parts
    else []

def alternation (ps : List Pattern) : Pattern :=
  let all := ps.flatMap choices
  match sharedStart all with
  | [] => anyOf all
  | shared => sequence (shared ++ [anyOf (all.map fun p => sequence (p.parts.drop shared.length))])

end RecordSync.Pattern
