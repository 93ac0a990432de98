import RecordSync.Proofs.Query.BucketKeys

/-!
# Equality and order of scalars

Two texts are compared by content and everything else by the numbers it counts as. Equality is decided by cases of its
own, which also relate missing values to each other and arrays and objects to each other; wherever there is an order
the two agree. Hence the operators that compare values agree with one another.
-/

set_option autoImplicit false

namespace RecordSync

namespace Scalar

variable {a b : Scalar}

theorem number?_of_absent (h : a.kind = .absent) : a.number? = none := by
  cases a with
  | undefined | null => rfl
  | _ => cases h

theorem number?_of_other (h : a.kind = .other) : a.number? = none := by
  cases a with
  | other => rfl
  | _ => cases h

/-- Apart from two texts, scalars are compared by the numbers they count as. -/
theorem compare?_of_not_texts (notTexts : ∀ s t, ¬(a = .text s ∧ b = .text t)) :
    a.compare? b = a.number?.bind fun x => b.number?.bind x.compare? := by
  unfold compare?
  split
  · rfl
  · rfl
  · exact (Option.bind_fun_none _).symm
  · exact (Option.bind_fun_none _).symm
  · rfl
  · exact (Option.bind_fun_none _).symm
  · exact absurd ⟨rfl, rfl⟩ (notTexts _ _)
  · split
    · next hx hy =>
      rw [hx, hy]
      rfl
    · next missing =>
      cases hx : a.number? with
      | none => rfl
      | some x =>
        cases hy : b.number? with
        | none => rfl
        | some y => exact absurd hy (missing x y hx)

theorem compare?_of_missing_number (notTexts : ∀ s t, ¬(a = .text s ∧ b = .text t))
    (missing : a.number? = none ∨ b.number? = none) : a.compare? b = none := by
  rw [compare?_of_not_texts notTexts]
  rcases missing with none | none
  · rw [none]
    rfl
  · rw [none]
    exact Option.bind_fun_none _

theorem compare?_swap (a b : Scalar) : b.compare? a = (a.compare? b).map Ordering.swap := by
  by_cases texts : ∃ s t, a = .text s ∧ b = .text t
  · obtain ⟨s, t, rfl, rfl⟩ := texts
    exact congrArg some Std.OrientedCmp.eq_swap
  · rw [compare?_of_not_texts fun s t both => texts ⟨s, t, both⟩,
      compare?_of_not_texts fun s t both => texts ⟨t, s, both.2, both.1⟩]
    cases a.number? with
    | none => simp
    | some x =>
      cases b.number? with
      | none => rfl
      | some y => exact Double.compare?_swap x y

theorem looseEq_of_missing_number (absent : ¬(a.kind = .absent ∧ b.kind = .absent))
    (nested : ¬(a.kind = .other ∧ b.kind = .other)) (notTexts : ∀ s t, ¬(a = .text s ∧ b = .text t))
    (missing : a.number? = none ∨ b.number? = none) : a.looseEq b = false := by
  unfold looseEq
  split
  any_goals rfl
  any_goals exact absurd ⟨rfl, rfl⟩ absent
  · exact absurd ⟨rfl, rfl⟩ (notTexts _ _)
  · exact absurd ⟨rfl, rfl⟩ nested
  · split
    · next hx hy => simp [hx, hy] at missing
    · rfl

/-- Equality and order agree, unless both values are missing or both are arrays or objects. -/
theorem looseEq_eq_compare? (absent : ¬(a.kind = .absent ∧ b.kind = .absent))
    (nested : ¬(a.kind = .other ∧ b.kind = .other)) : a.looseEq b = (a.compare? b == some .eq) := by
  by_cases texts : ∃ s t, a = .text s ∧ b = .text t
  · obtain ⟨s, t, rfl, rfl⟩ := texts
    rw [Bool.eq_iff_iff]
    simp [looseEq, compare?]
  · have notTexts : ∀ s t, ¬(a = .text s ∧ b = .text t) := fun s t both => texts ⟨s, t, both⟩
    cases hx : a.number? with
    | none =>
      rw [looseEq_of_missing_number absent nested notTexts (.inl hx), compare?_of_missing_number notTexts (.inl hx)]
      rfl
    | some x =>
      cases hy : b.number? with
      | none =>
        rw [looseEq_of_missing_number absent nested notTexts (.inr hy), compare?_of_missing_number notTexts (.inr hy)]
        rfl
      | some y =>
        rw [looseEq_of_numbers hx hy notTexts, compare?_of_not_texts notTexts, hx, hy]
        rfl

/-- Missing values have no order among themselves, and neither have arrays and objects. -/
theorem compare?_of_unordered (h : a.kind = .absent ∧ b.kind = .absent ∨ a.kind = .other ∧ b.kind = .other) :
    a.compare? b = none := by
  rcases h with ⟨ha, -⟩ | ⟨ha, -⟩
  · exact compare?_of_missing_number (fun s t both => by rw [both.1] at ha; cases ha) (.inl (number?_of_absent ha))
  · exact compare?_of_missing_number (fun s t both => by rw [both.1] at ha; cases ha) (.inl (number?_of_other ha))

theorem looseEq_of_absent (ha : a.kind = .absent) (hb : b.kind = .absent) : a.looseEq b = true := by
  cases a with
  | undefined | null =>
    cases b with
    | undefined | null => rfl
    | _ => cases hb
  | _ => cases ha

theorem looseEq_comm (a b : Scalar) : a.looseEq b = b.looseEq a := by
  by_cases absent : a.kind = .absent ∧ b.kind = .absent
  · rw [looseEq_of_absent absent.1 absent.2, looseEq_of_absent absent.2 absent.1]
  · by_cases nested : a.kind = .other ∧ b.kind = .other
    · obtain ⟨ha, hb⟩ := nested
      cases a with
      | other j =>
        cases b with
        | other k => exact BEq.comm
        | _ => cases hb
      | _ => cases ha
    · rw [looseEq_eq_compare? absent nested, looseEq_eq_compare? (fun both => absent both.symm)
        (fun both => nested both.symm), compare?_swap a b]
      cases a.compare? b with
      | none => rfl
      | some o => cases o <;> rfl

end Scalar

def Json.isNested : Json → Bool
  | .arr _ | .obj _ => true
  | _ => false

namespace Scalar

theorem kind_ofText (ignoreCase : Bool) (s : String) :
    (ofText ignoreCase s).kind = .date ∨ (ofText ignoreCase s).kind = .number := by
  unfold ofText
  split
  · exact .inl rfl
  · exact .inr rfl

theorem kind_of_eq_absent {value : Option Json} {ignoreCase : Bool} :
    (Scalar.of value ignoreCase).kind = .absent ↔ value.all Json.isNull = true := by
  cases value with
  | none => simp [Scalar.of, kind]
  | some j =>
    cases j with
    | str s =>
      rcases kind_ofText ignoreCase s with h | h <;> simp [Scalar.of, h, Json.isNull]
    | _ => simp [Scalar.of, kind, Json.isNull]

theorem kind_of_eq_other {value : Option Json} {ignoreCase : Bool} :
    (Scalar.of value ignoreCase).kind = .other ↔ value.any Json.isNested = true := by
  cases value with
  | none => simp [Scalar.of, kind]
  | some j =>
    cases j with
    | str s =>
      rcases kind_ofText ignoreCase s with h | h <;> simp [Scalar.of, h, Json.isNested]
    | _ => simp [Scalar.of, kind, Json.isNested]

end Scalar

namespace Comparison

def Unordered (left : Option Json) (right : Json) : Prop :=
  left.all Json.isNull = true ∧ right.isNull = true ∨ left.any Json.isNested = true ∧ right.isNested = true

variable {left : Option Json} {right : Json} {ignoreCase : Bool}

theorem order?_of_unordered (h : Unordered left right) : order? left right ignoreCase = none := by
  refine Scalar.compare?_of_unordered (h.imp ?_ ?_)
  · exact fun both => ⟨Scalar.kind_of_eq_absent.2 both.1, Scalar.kind_of_eq_absent.2 both.2⟩
  · exact fun both => ⟨Scalar.kind_of_eq_other.2 both.1, Scalar.kind_of_eq_other.2 both.2⟩

theorem equality_of_ordered (h : ¬Unordered left right) :
    equality left right ignoreCase = (order? left right ignoreCase == some .eq) := by
  refine Scalar.looseEq_eq_compare? (fun both => h (.inl ?_)) fun both => h (.inr ?_)
  · exact ⟨Scalar.kind_of_eq_absent.1 both.1, Scalar.kind_of_eq_absent.1 both.2⟩
  · exact ⟨Scalar.kind_of_eq_other.1 both.1, Scalar.kind_of_eq_other.1 both.2⟩

theorem order?_swap (left right : Json) (ignoreCase : Bool) :
    order? (some right) left ignoreCase = (order? (some left) right ignoreCase).map Ordering.swap :=
  Scalar.compare?_swap _ _

/-- At most one of less, equal and greater holds; less or equal is less or equal, and greater or equal is greater or
equal, except for values without an order, for which neither holds; swapping two present values turns less into greater
and leaves equal as it is. -/
theorem evaluate_coherent [PatternEngine] (left : Option Json) (value right : Json) (ignoreCase : Bool) :
    (¬(evaluate .lt left right ignoreCase ∧ evaluate .eq left right ignoreCase) ∧
      ¬(evaluate .lt left right ignoreCase ∧ evaluate .gt left right ignoreCase) ∧
      ¬(evaluate .eq left right ignoreCase ∧ evaluate .gt left right ignoreCase)) ∧
    ((evaluate .lte left right ignoreCase ↔
        (evaluate .lt left right ignoreCase ∨ evaluate .eq left right ignoreCase) ∧ ¬Unordered left right) ∧
      (evaluate .gte left right ignoreCase ↔
        (evaluate .gt left right ignoreCase ∨ evaluate .eq left right ignoreCase) ∧ ¬Unordered left right)) ∧
    evaluate .lt (some value) right ignoreCase = evaluate .gt (some right) value ignoreCase ∧
    evaluate .eq (some value) right ignoreCase = evaluate .eq (some right) value ignoreCase := by
  refine ⟨?_, ?_, ?_, Scalar.looseEq_comm _ _⟩
  · by_cases h : Unordered left right
    · simp [evaluate, order?_of_unordered h]
    · simp only [evaluate, equality_of_ordered h]
      cases order? left right ignoreCase with
      | none => decide
      | some o => cases o <;> decide
  · by_cases h : Unordered left right
    · simp [evaluate, order?_of_unordered h, h]
    · simp only [evaluate, equality_of_ordered h]
      cases order? left right ignoreCase with
      | none => simp
      | some o => cases o <;> simp [h]
  · simp only [evaluate, order?_swap value right]
    cases order? (some value) right ignoreCase with
    | none => rfl
    | some o => cases o <;> rfl

end Comparison

end RecordSync
