import RecordSync.Pattern.Automaton
import RecordSync.Pattern.Reader

/-!
# Accepted patterns

`Pattern.compile?` gives no pattern for a text that is not well formed, is nested too deeply, or whose
automaton would be too large.
-/

set_option autoImplicit false

namespace RecordSync.Pattern

def depthLimit : Nat := 250

def compile? (text : String) (ignoreCase : Bool) : Option Pattern := do
  let reading ← Reading.ofText? text (.initial ignoreCase)
  if reading.depth ≤ depthLimit && reading.pattern.fits then some reading.pattern else none

/-- Every accepted pattern is one that was read and that keeps to both limits. -/
theorem compile?_eq_some_iff (text : String) (ignoreCase : Bool) (p : Pattern) :
    compile? text ignoreCase = some p ↔
      ∃ depth ≤ depthLimit, Reading.ofText? text (.initial ignoreCase) = some ⟨p, depth⟩ ∧ p.fits = true := by
  unfold compile?
  cases Reading.ofText? text (.initial ignoreCase) with
  | none => simp
  | some r =>
    simp only [Option.bind_eq_bind, Option.bind_some, Bool.and_eq_true, decide_eq_true_eq, Option.some.injEq]
    constructor
    · intro h
      split at h
      · rename_i accepted
        cases h
        exact ⟨r.depth, accepted.1, rfl, accepted.2⟩
      · cases h
    · rintro ⟨depth, shallow, rfl, small⟩
      simp [shallow, small]

end RecordSync.Pattern
