import Mathlib.Data.List.Forall2

/-!
# Outcomes

What is known of the parts of a computation that has succeeded, and how the conditions under which the parts fail
combine.
-/

set_option autoImplicit false

namespace RecordSync

section Outcomes

variable {ε ε' α β : Type} {outcome : Except ε α}

theorem ok_of_bind {next : α → Except ε β} {result : β} (h : outcome >>= next = .ok result) :
    ∃ first, outcome = .ok first ∧ next first = .ok result := by
  cases outcome with
  | error _ => cases h
  | ok first => exact ⟨first, rfl, h⟩

theorem forall₂_of_mapM {f : α → Except ε β} {inputs : List α} {results : List β}
    (h : inputs.mapM f = .ok results) : List.Forall₂ (fun input result => f input = .ok result) inputs results := by
  induction inputs generalizing results with
  | nil =>
    cases h
    exact .nil
  | cons input rest ih =>
    rw [List.mapM_cons] at h
    obtain ⟨first, done, h⟩ := ok_of_bind h
    obtain ⟨later, others, h⟩ := ok_of_bind h
    cases h
    exact .cons done (ih others)

theorem ok_of_mapError {f : ε → ε'} {result : α} (h : outcome.mapError f = .ok result) : outcome = .ok result := by
  cases outcome with
  | error _ => cases h
  | ok first =>
    cases h
    rfl

theorem ok_of_toOption {result : α} (h : outcome.toOption = some result) : outcome = .ok result := by
  cases outcome with
  | error _ => cases h
  | ok first => rw [Option.some.inj h]

inductive FailsIff (fault : Prop) (result : α) : Except ε α → Prop where
  | error (cause : ε) : fault → FailsIff fault result (.error cause)
  | ok : ¬fault → FailsIff fault result (.ok result)

namespace FailsIff

variable {fault other : Prop} {result : α} {final : β}

theorem error_iff (h : FailsIff fault result outcome) : (∃ cause, outcome = .error cause) ↔ fault := by
  cases h with
  | error cause failed => simp [failed]
  | ok passed => simp [passed]

theorem ok_iff (h : FailsIff fault result outcome) (value : α) :
    outcome = .ok value ↔ ¬fault ∧ value = result := by
  cases h with
  | error cause failed => simp [failed]
  | ok passed => simp [passed, eq_comm]

theorem congr (h : FailsIff fault result outcome) (same : fault ↔ other) : FailsIff other result outcome := by
  cases h with
  | error cause failed => exact .error cause (same.1 failed)
  | ok passed => exact .ok fun failed => passed (same.2 failed)

theorem bind {next : α → Except ε β} (h : FailsIff fault result outcome)
    (k : FailsIff other final (next result)) : FailsIff (fault ∨ other) final (outcome >>= next) := by
  cases h with
  | error cause failed => exact .error cause (.inl failed)
  | ok passed =>
    show FailsIff (fault ∨ other) final (next result)
    generalize next result = later at k ⊢
    cases k with
    | error cause failed => exact .error cause (.inr failed)
    | ok settled => exact .ok fun failed => failed.elim passed settled

theorem map (f : α → β) (h : FailsIff fault result outcome) :
    FailsIff fault (f result) (outcome >>= fun value => pure (f value)) := by
  cases h with
  | error cause failed => exact .error cause failed
  | ok passed => exact .ok passed

/-- Two outcomes that are errors under one condition and have one result otherwise. -/
theorem both {later : Except ε α} (h : FailsIff fault result outcome) (k : FailsIff fault result later) :
    ((∃ cause, outcome = .error cause) ∧ ∃ cause, later = .error cause) ∨ outcome = .ok result ∧ later = .ok result := by
  by_cases failed : fault
  · exact .inl ⟨h.error_iff.2 failed, k.error_iff.2 failed⟩
  · exact .inr ⟨(h.ok_iff _).2 ⟨failed, rfl⟩, (k.ok_iff _).2 ⟨failed, rfl⟩⟩

end FailsIff

end Outcomes

end RecordSync
