import RecordSync.Proofs.Query.Ordering
import RecordSync.Proofs.Query.ScalarOrder

/-!
# The order of values

Swapping two values swaps the result of their comparison. Not to come after is transitive as long as the values are
compared by one measure: two texts are compared by content, a text and a number by the numbers they count as, and what
cannot be compared counts as tied, so a value in between may lead from one end to the other in a way that comparing the
ends does not follow.
-/

set_option autoImplicit false

namespace RecordSync

inductive Measure where
  | content
  | number
  deriving DecidableEq

/-- The number by which a value is compared with others. A text that spells `nan` has none. -/
def magnitude? (value : Option Json) : Option Double := (Scalar.of value false).number?.filter (!·.isNaN)

def measure? : Option Json → Option Json → Option Measure
  | some (.str _), some (.str _) => some .content
  | a, b => if (magnitude? a).isSome && (magnitude? b).isSome then some .number else none

/-- If the outer values can be compared at all, the one in between is compared with both of them by the same measure, or
it is missing. -/
def ComparedAlike (a b c : Option Json) : Prop :=
  ∀ m ∈ measure? a c, b.all Json.isNull = true ∨ measure? a b = some m ∧ measure? b c = some m

instance (a b c : Option Json) : Decidable (ComparedAlike a b c) :=
  inferInstanceAs (Decidable (∀ m ∈ measure? a c, _ ∨ _))

variable {a b c : Option Json}

theorem ne_nan_of_magnitude? {x : Double} (h : magnitude? a = some x) : x ≠ .nan := by
  rintro rfl
  simp [magnitude?, Option.filter_eq_some_iff, Double.isNaN] at h

theorem measure?_eq_content : measure? a b = some .content ↔ ∃ s t, a = some (.str s) ∧ b = some (.str t) := by
  unfold measure?
  split
  · simp
  · next notTexts =>
    constructor
    · intro h
      split at h <;> cases h
    · rintro ⟨s, t, rfl, rfl⟩
      exact absurd rfl (notTexts s t rfl)

theorem measure?_of_not_texts (notTexts : ∀ s t, ¬(a = some (.str s) ∧ b = some (.str t))) :
    measure? a b = if (magnitude? a).isSome && (magnitude? b).isSome then some .number else none := by
  unfold measure?
  split
  · exact absurd ⟨rfl, rfl⟩ (notTexts _ _)
  · rfl

theorem measure?_eq_number : measure? a b = some .number ↔ (∀ s t, ¬(a = some (.str s) ∧ b = some (.str t))) ∧
    ∃ x y, magnitude? a = some x ∧ magnitude? b = some y := by
  by_cases texts : ∃ s t, a = some (.str s) ∧ b = some (.str t)
  · obtain ⟨s, t, rfl, rfl⟩ := texts
    simp [measure?]
  · have notTexts : ∀ s t, ¬(a = some (.str s) ∧ b = some (.str t)) := fun s t both => texts ⟨s, t, both⟩
    rw [measure?_of_not_texts notTexts]
    simp [Option.isSome_iff_exists, notTexts]

theorem exists_str_of_text {s : String} (h : Scalar.of a false = .text s) : ∃ t, a = some (.str t) := by
  cases a with
  | none => cases h
  | some j =>
    cases j with
    | str t => exact ⟨t, rfl⟩
    | _ => cases h

/-- Apart from two texts, values are compared by the numbers they count as. -/
theorem compare?_eq_magnitudes (notTexts : ∀ s t, ¬(a = some (.str s) ∧ b = some (.str t))) :
    (Scalar.of a false).compare? (Scalar.of b false) =
      (magnitude? a).bind fun x => (magnitude? b).bind x.compare? := by
  rw [Scalar.compare?_of_not_texts]
  · unfold magnitude?
    cases (Scalar.of a false).number? with
    | none => rfl
    | some x =>
      cases (Scalar.of b false).number? with
      | none => simp
      | some y => cases x <;> cases y <;> rfl
  · rintro s t ⟨ha, hb⟩
    obtain ⟨s', rfl⟩ := exists_str_of_text ha
    obtain ⟨t', rfl⟩ := exists_str_of_text hb
    exact notTexts s' t' ⟨rfl, rfl⟩

theorem compareValues_of_absent (h : a.all Json.isNull = true) :
    compareValues a b = if b.all Json.isNull then .eq else .lt := by
  cases a with
  | none =>
    cases b with
    | none => rfl
    | some k => cases k <;> rfl
  | some j =>
    cases j with
    | null =>
      cases b with
      | none => rfl
      | some k => cases k <;> rfl
    | _ => cases h

theorem compareValues_to_absent (h : b.all Json.isNull = true) :
    compareValues a b = if a.all Json.isNull then .eq else .gt := by
  cases b with
  | none =>
    cases a with
    | none => rfl
    | some j => cases j <;> rfl
  | some k =>
    cases k with
    | null =>
      cases a with
      | none => rfl
      | some j => cases j <;> rfl
    | _ => cases h

/-- Present values that are not both texts are compared by the numbers they count as, and tied without such. -/
theorem compareValues_of_present (ha : a.all Json.isNull = false) (hb : b.all Json.isNull = false)
    (notTexts : ∀ s t, ¬(a = some (.str s) ∧ b = some (.str t))) :
    compareValues a b = ((magnitude? a).bind fun x => (magnitude? b).bind x.compare?).getD .eq := by
  rw [← compare?_eq_magnitudes notTexts]
  cases a with
  | none => cases ha
  | some j =>
    cases b with
    | none => cases hb
    | some k =>
      simp only [Option.all_some] at ha hb
      unfold compareValues
      simp only [Option.filter_some, ha, hb, Bool.not_false, if_true]
      split
      · next missing => cases missing
      · next missing _ => cases missing
      · next missing => cases missing
      · next s t hj hk =>
        cases hj
        cases hk
        exact absurd ⟨rfl, rfl⟩ (notTexts s t)
      · next hj hk =>
        cases hj
        cases hk
        rfl

theorem compareValues_of_number (h : measure? a b = some .number) (ha : a.all Json.isNull = false)
    (hb : b.all Json.isNull = false) : ∃ x y, magnitude? a = some x ∧ magnitude? b = some y ∧
      compareValues a b = (x.compare? y).getD .eq := by
  obtain ⟨notTexts, x, y, hx, hy⟩ := measure?_eq_number.1 h
  refine ⟨x, y, hx, hy, ?_⟩
  rw [compareValues_of_present ha hb notTexts, hx, hy]
  rfl

theorem compareValues_of_no_measure (h : measure? a b = none) (ha : a.all Json.isNull = false)
    (hb : b.all Json.isNull = false) : compareValues a b = .eq := by
  have notTexts : ∀ s t, ¬(a = some (.str s) ∧ b = some (.str t)) := by
    rintro s t ⟨rfl, rfl⟩
    cases h
  rw [compareValues_of_present ha hb notTexts]
  cases hx : magnitude? a with
  | none => rfl
  | some x =>
    cases hy : magnitude? b with
    | none => rfl
    | some y =>
      rw [measure?_eq_number.2 ⟨notTexts, x, y, hx, hy⟩] at h
      cases h

theorem compareValues_swap (a b : Option Json) : compareValues b a = (compareValues a b).swap := by
  cases ha : a.all Json.isNull with
  | true =>
    rw [compareValues_of_absent ha, compareValues_to_absent ha]
    cases b.all Json.isNull <;> rfl
  | false =>
    cases hb : b.all Json.isNull with
    | true =>
      rw [compareValues_of_absent hb, compareValues_to_absent hb, ha]
      rfl
    | false =>
      by_cases texts : ∃ s t, a = some (.str s) ∧ b = some (.str t)
      · obtain ⟨s, t, rfl, rfl⟩ := texts
        show compare t s = (compare s t).swap
        exact Std.OrientedCmp.eq_swap
      · rw [compareValues_of_present ha hb fun s t both => texts ⟨s, t, both⟩,
          compareValues_of_present hb ha fun s t both => texts ⟨t, s, both.2, both.1⟩]
        cases magnitude? a with
        | none => simp
        | some x =>
          cases magnitude? b with
          | none => rfl
          | some y =>
            simp only [Option.bind_some, Double.compare?_swap x y]
            cases x.compare? y <;> rfl

theorem getD_eq_ne_gt {o : Option Ordering} : o.getD .eq ≠ .gt ↔ o ≠ some .gt := by
  cases o <;> simp

theorem compareValues_trans (alike : ComparedAlike a b c) (ab : compareValues a b ≠ .gt)
    (bc : compareValues b c ≠ .gt) : compareValues a c ≠ .gt := by
  cases ha : a.all Json.isNull with
  | true =>
    rw [compareValues_of_absent ha]
    split <;> simp
  | false =>
    -- what does not come before a missing value is missing
    have hb : b.all Json.isNull = false := by
      by_contra missing
      rw [Bool.not_eq_false] at missing
      simp [compareValues_to_absent missing, ha] at ab
    have hc : c.all Json.isNull = false := by
      by_contra missing
      rw [Bool.not_eq_false] at missing
      simp [compareValues_to_absent missing, hb] at bc
    cases measured : measure? a c with
    | none => simp [compareValues_of_no_measure measured ha hc]
    | some m =>
      obtain ⟨first, second⟩ := (alike m measured).resolve_left (by simp [hb])
      cases m with
      | content =>
        obtain ⟨s, u, rfl, rfl⟩ := measure?_eq_content.1 measured
        obtain ⟨-, t, -, rfl⟩ := measure?_eq_content.1 first
        exact (Orders.ofText [s, t, u] id).trans s (by simp) t (by simp) u (by simp) ab bc
      | number =>
        obtain ⟨x, z, hx, hz, ac⟩ := compareValues_of_number measured ha hc
        obtain ⟨x', y, hx', hy, ab'⟩ := compareValues_of_number first ha hb
        obtain ⟨y', z', hy', hz', bc'⟩ := compareValues_of_number second hb hc
        rw [hx] at hx'
        rw [hy] at hy'
        rw [hz] at hz'
        cases hx'
        cases hy'
        cases hz'
        rw [ab', getD_eq_ne_gt] at ab
        rw [bc', getD_eq_ne_gt] at bc
        rw [ac, getD_eq_ne_gt]
        exact Double.compare?_trans (ne_nan_of_magnitude? hy) ab bc

/-- Swapping two values swaps the result, and not to come after is transitive for values that are compared alike. -/
theorem compareValues_preorder :
    (∀ a b, compareValues b a = (compareValues a b).swap) ∧
      ∀ a b c, ComparedAlike a b c → compareValues a b ≠ .gt → compareValues b c ≠ .gt → compareValues a c ≠ .gt :=
  ⟨compareValues_swap, fun _ _ _ => compareValues_trans⟩

/-- A boolean, a text and a number, all of them compared as numbers. -/
theorem compareValues_preorder_sample :
    ComparedAlike (some (.bool false)) (some (.str " 0.5")) (some (.num (.int 2))) ∧
      compareValues (some (.bool false)) (some (.str " 0.5")) = .lt ∧
      compareValues (some (.str " 0.5")) (some (.num (.int 2))) = .lt ∧
      compareValues (some (.bool false)) (some (.num (.int 2))) ≠ .gt := by
  have alike : ComparedAlike (some (.bool false)) (some (.str " 0.5")) (some (.num (.int 2))) := by decide +kernel
  have first : compareValues (some (.bool false)) (some (.str " 0.5")) = .lt := by decide +kernel
  have second : compareValues (some (.str " 0.5")) (some (.num (.int 2))) = .lt := by decide +kernel
  exact ⟨alike, first, second, compareValues_preorder.2 _ _ _ alike (by simp [first]) (by simp [second])⟩

/-- A number between two texts, an array between two numbers, and a text that is no number between two numbers. -/
theorem compareValues_not_trans :
    (compareValues (some (.str "9")) (some (.num (.int 9))) = .eq ∧
      compareValues (some (.num (.int 9))) (some (.str "10")) = .lt ∧
      compareValues (some (.str "9")) (some (.str "10")) = .gt) ∧
    (compareValues (some (.num (.int 2))) (some (.arr [])) = .eq ∧
      compareValues (some (.arr [])) (some (.num (.int 1))) = .eq ∧
      compareValues (some (.num (.int 2))) (some (.num (.int 1))) = .gt) ∧
    compareValues (some (.num (.int 2))) (some (.str "x")) = .eq ∧
      compareValues (some (.str "x")) (some (.num (.int 1))) = .eq ∧
      compareValues (some (.num (.int 2))) (some (.num (.int 1))) = .gt := by
  decide +kernel

def Json.isNumeric : Json → Bool
  | .num _ | .bool _ => true
  | _ => false

theorem exists_magnitude? {j : Json} (h : j.isNumeric = true) : ∃ x, magnitude? (some j) = some x := by
  have counts : ∃ x, (Scalar.of (some j) false).number? = some x ∧ x ≠ .nan := by
    cases j with
    | num n =>
      cases n with
      | int n => exact ⟨_, rfl, Double.ofInt_ne_nan n⟩
      | double x => exact ⟨.finite x, rfl, Double.noConfusion⟩
    | bool b => exact ⟨_, Scalar.number?_bool b, Double.ofInt_ne_nan _⟩
    | _ => cases h
  obtain ⟨x, number, notNan⟩ := counts
  refine ⟨x, ?_⟩
  rw [magnitude?, number]
  cases x <;> first | rfl | exact absurd rfl notNan

theorem present_of_measure? {m : Measure} (h : measure? a b = some m) :
    a.all Json.isNull = false ∧ b.all Json.isNull = false := by
  have apart (v : Option Json) (missing : v.all Json.isNull = true) : magnitude? v = none := by
    rw [magnitude?, Scalar.number?_of_absent (Scalar.kind_of_eq_absent.2 missing)]
    rfl
  cases m with
  | content =>
    obtain ⟨s, t, rfl, rfl⟩ := measure?_eq_content.1 h
    exact ⟨rfl, rfl⟩
  | number =>
    obtain ⟨-, x, y, hx, hy⟩ := measure?_eq_number.1 h
    constructor
    · by_contra missing
      rw [apart a (by simpa using missing)] at hx
      cases hx
    · by_contra missing
      rw [apart b (by simpa using missing)] at hy
      cases hy

theorem comparedAlike_of_kind {m : Measure} {p : Json → Prop}
    (measured : ∀ j k, p j → p k → measure? (some j) (some k) = some m)
    (kind : ∀ v ∈ [a, b, c], ∀ j ∈ v, j.isNull = true ∨ p j) : ComparedAlike a b c := by
  have given (v : Option Json) (listed : v ∈ [a, b, c]) (present : v.all Json.isNull = false) :
      ∃ j, v = some j ∧ p j := by
    cases v with
    | none => cases present
    | some j => exact ⟨j, rfl, (kind _ listed j rfl).resolve_left (by simpa using present)⟩
  intro n compared
  obtain ⟨ha, hc⟩ := present_of_measure? compared
  obtain ⟨j, rfl, hj⟩ := given a (by simp) ha
  obtain ⟨l, rfl, hl⟩ := given c (by simp) hc
  cases hb : b.all Json.isNull with
  | true => exact .inl rfl
  | false =>
    obtain ⟨k, rfl, hk⟩ := given b (by simp) hb
    rw [measured j l hj hl] at compared
    cases compared
    exact .inr ⟨measured j k hj hk, measured k l hk hl⟩

theorem comparedAlike_of_texts (texts : ∀ v ∈ [a, b, c], ∀ j ∈ v, j.isNull = true ∨ ∃ s, j = .str s) :
    ComparedAlike a b c := by
  refine comparedAlike_of_kind (m := .content) ?_ texts
  rintro j k ⟨s, rfl⟩ ⟨t, rfl⟩
  rfl

theorem comparedAlike_of_numeric (numeric : ∀ v ∈ [a, b, c], ∀ j ∈ v, j.isNull = true ∨ j.isNumeric = true) :
    ComparedAlike a b c := by
  refine comparedAlike_of_kind (m := .number) ?_ numeric
  intro j k hj hk
  obtain ⟨x, hx⟩ := exists_magnitude? hj
  obtain ⟨y, hy⟩ := exists_magnitude? hk
  refine measure?_eq_number.2 ⟨?_, x, y, hx, hy⟩
  rintro s t ⟨text, -⟩
  cases text
  cases hj

section Rows

variable {α : Type} [Record α] {rows : List α} {d : SortDescriptor}

/-- A field sorts the rows consistently if any three of its values are compared alike. -/
theorem SortDescriptor.consistentOn_of_comparedAlike (byField : d.comparator = none)
    (alike : ∀ a ∈ rows, ∀ b ∈ rows, ∀ c ∈ rows, ComparedAlike (Record.lookup a (d.field.getD []))
      (Record.lookup b (d.field.getD [])) (Record.lookup c (d.field.getD []))) : d.ConsistentOn rows := by
  intro isDesc
  simp only [SortDescriptor.compareOperands, byField]
  constructor
  · intro a _ b _
    exact compareValues_swap _ _
  · intro a ha b hb c hc
    exact compareValues_trans (alike a ha b hb c hc)

theorem SortDescriptor.consistentOn_of_texts (byField : d.comparator = none)
    (texts : ∀ row ∈ rows, ∀ j ∈ Record.lookup row (d.field.getD []), j.isNull = true ∨ ∃ s, j = .str s) :
    d.ConsistentOn rows := by
  refine consistentOn_of_comparedAlike byField fun a ha b hb c hc => comparedAlike_of_texts ?_
  simpa using ⟨texts a ha, texts b hb, texts c hc⟩

theorem SortDescriptor.consistentOn_of_numeric (byField : d.comparator = none)
    (numeric : ∀ row ∈ rows, ∀ j ∈ Record.lookup row (d.field.getD []), j.isNull = true ∨ j.isNumeric = true) :
    d.ConsistentOn rows := by
  refine consistentOn_of_comparedAlike byField fun a ha b hb c hc => comparedAlike_of_numeric ?_
  simpa using ⟨numeric a ha, numeric b hb, numeric c hc⟩

end Rows

end RecordSync
