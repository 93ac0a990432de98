import RecordSync.Proofs.Query.Comparing

/-!
# Filters in place of each other

Filters that compare equal let the same rows through, and the one can be used if the other can: groups ask for all or for
one of their children whatever the order, and items that agree ask for the same, unless a test is given with one of them
or a zero is negative.
-/

set_option autoImplicit false

namespace RecordSync

/-- Operators that are equal are the same one, unless they are tests. -/
theorem Operator.eq_of_beq {o p : Operator} (h : (o == p) = true) (bare : ∀ q, o ≠ .inline q) : o = p := by
  rw [beq_iff] at h
  cases o <;> cases p <;> simp_all [mark]

namespace FilterItem

def Bare (i : FilterItem) : Prop := ∀ p, i.operator ≠ some (.inline p)

instance (i : FilterItem) : Decidable i.Bare :=
  match given : i.operator with
  | some (.inline p) => .isFalse fun bare => bare p given
  | some (.builtin _) | some (.named _) | none => .isTrue fun _ inline => nomatch given.symm.trans inline

theorem Bare.effectiveOperator {i : FilterItem} (bare : i.Bare) (p : Predicate) : i.effectiveOperator ≠ .inline p := by
  intro inline
  have resolved := i.resolvesTo_effectiveOperator
  rw [inline] at resolved
  generalize given : i.operator = operator at resolved
  cases resolved
  exact bare p given

theorem Agrees.canonical_eq {i j : FilterItem} (h : i.Agrees j) (bare : i.Bare) (plain : i.value.plainZeros = true)
    (plain' : j.value.plainZeros = true) : i.canonical = j.canonical := by
  obtain ⟨field, operator, value, ignoreCase⟩ := h
  have value := Json.eq_of_equal _ _ plain plain' value
  have operator := Operator.eq_of_beq operator bare.effectiveOperator
  cases i
  cases j
  simp_all [canonical]

end FilterItem

section Reading

variable [PatternEngine] (table : OperatorTable) (row : Lookup)

theorem FilterNode.Alike.holds_eq {a b : FilterNode} (h : Alike a b) (bare : ∀ i ∈ a.items, i.Bare) (ha : a.PlainZeros)
    (hb : b.PlainZeros) : a.holds table row = b.holds table row := by
  induction a using induct generalizing b with
  | item i =>
    cases h with
    | @item i j agrees =>
      have same := agrees.canonical_eq (bare i (.head _)) (ha i (.head _)) (hb j (.head _))
      show i.holds table row = j.holds table row
      rw [← i.holds_canonical, same, j.holds_canonical]
  | group logic children ih =>
    cases h with
    | @group _ _ moved others perm beside =>
      have each : moved.map (holds table row) = others.map (holds table row) := by
        apply forall₂_map_eq.1
        refine forall₂_mono beside fun c hc d hd alike => ?_
        have member := perm.mem_iff.2 hc
        exact ih c member alike (fun i held => bare i (mem_itemsOfAll.2 ⟨c, member, held⟩)) (ha.child member) (hb.child hd)
      have readings : (children.map (holds table row)).Perm (others.map (holds table row)) := each ▸ perm.map _
      -- what all or one of the children say does not depend on who says it
      cases logic with
      | and =>
        rw [holds, holds, allHold_eq, allHold_eq]
        simpa using readings.all_eq (f := id)
      | or =>
        rw [holds, holds, anyHolds_eq, anyHolds_eq]
        simpa using readings.any_eq (f := id)

theorem FilterNode.Alike.exists_unbound {a b : FilterNode} (h : Alike a b) (bare : ∀ i ∈ a.items, i.Bare)
    (ha : a.PlainZeros) (hb : b.PlainZeros) : (∃ i ∈ a.items, i.Unbound table) ↔ ∃ j ∈ b.items, j.Unbound table := by
  have same : ∀ i ∈ a.items, ∀ j ∈ b.items, i.Agrees j → (i.Unbound table ↔ j.Unbound table) := by
    intro i hi j hj agrees
    have canonical := agrees.canonical_eq (bare i hi) (ha i hi) (hb j hj)
    rw [← i.unbound_canonical, canonical, j.unbound_canonical]
  constructor
  · rintro ⟨i, hi, unbound⟩
    obtain ⟨j, hj, agrees⟩ := h.symm.exists_agrees hi
    exact ⟨j, hj, (same i hi j hj agrees.symm).1 unbound⟩
  · rintro ⟨j, hj, unbound⟩
    obtain ⟨i, hi, agrees⟩ := h.exists_agrees hj
    exact ⟨i, hi, (same i hi j hj agrees).2 unbound⟩

end Reading

namespace FilterInput

def Bare (input : FilterInput) : Prop := ∀ i ∈ input.leaves, i.Bare

instance (input : FilterInput) : Decidable input.Bare := inferInstanceAs (Decidable (∀ i ∈ input.leaves, i.Bare))

variable {a b : FilterInput} {g h : FilterGroup}

theorem Bare.of_normalize (bare : a.Bare) (normal : a.normalize = .ok (some g)) : ∀ i ∈ g.items, i.Bare := by
  intro i listed p given
  obtain ⟨leaf, member, -, rfl⟩ := mem_leaves_of_normalize normal listed
  exact (bare leaf member).effectiveOperator p (Option.some.inj given)

variable [PatternEngine]

theorem compile_of_normalize (normal : a.normalize = .ok (some g)) (table : OperatorTable) :
    a.compile table = (FilterInput.group g).compile table := by
  rw [compile, compile, normal, normalize_of_items normal fun _ listed => listed]

theorem exists_faulty_iff (normal : a.normalize = .ok (some g)) (table : OperatorTable) :
    (∃ i ∈ (FilterInput.group g).leaves, i.Faulty table) ↔ ∃ i ∈ g.toNode.items, i.Unbound table := by
  constructor
  · rintro ⟨i, listed, fieldless | unbound⟩
    · obtain ⟨leaf, -, present, rfl⟩ := mem_leaves_of_normalize normal listed
      exact absurd fieldless present
    · exact ⟨i, listed, unbound⟩
  · rintro ⟨i, listed, unbound⟩
    exact ⟨i, listed, .inr unbound⟩

theorem filterRows_of_alike (alike : FilterNode.Alike g.toNode h.toNode) (normal : a.normalize = .ok (some g))
    (normal' : b.normalize = .ok (some h)) (bare : a.Bare) (plain : a.PlainZeros) (plain' : b.PlainZeros) {α : Type}
    [Record α] (rows : List α) (table : OperatorTable) :
    ∃ kept, FailsIff (∃ i ∈ g.toNode.items, i.Unbound table) kept (filterRows rows a table) ∧
      FailsIff (∃ i ∈ g.toNode.items, i.Unbound table) kept (filterRows rows b table) := by
  have items := bare.of_normalize normal
  have zeros := plain.of_normalize normal
  have zeros' := plain'.of_normalize normal'
  have faults := alike.exists_unbound table items zeros zeros'
  have holds (row : Lookup) : (FilterInput.group h).holds table row = (FilterInput.group g).holds table row := by
    rw [FilterInput.holds, FilterInput.holds, alike.holds_eq table row items zeros zeros', alike.isEmpty_eq]
  have first := (filterRows_failsIff rows (.group g) table).congr (exists_faulty_iff normal table)
  have second := (filterRows_failsIff rows (.group h) table).congr ((exists_faulty_iff normal' table).trans faults.symm)
  simp only [holds] at second
  rw [filterRows, filterRows, compile_of_normalize normal, compile_of_normalize normal']
  exact ⟨_, first, second⟩

end FilterInput

/-- Requests without tests and negative zeros that compare equal can be used in place of each other: with any table of
operators, filtering any rows fails for both of them, or keeps the same rows. -/
theorem filterRows_of_compare [PatternEngine] {a b : FilterInput} (equal : a.compare b = .ok true) (bare : a.Bare)
    (plain : a.PlainZeros) (plain' : b.PlainZeros) {α : Type} [Record α] (rows : List α) (table : OperatorTable) :
    ((∃ cause, filterRows rows a table = .error cause) ∧ ∃ cause, filterRows rows b table = .error cause) ∨
      ∃ kept, filterRows rows a table = .ok kept ∧ filterRows rows b table = .ok kept := by
  obtain ⟨g, normal, equal'⟩ := ok_of_bind equal
  obtain ⟨h, normal', -⟩ := ok_of_bind equal'
  cases FilterInput.upToOrder_of_compare normal normal' equal with
  | none =>
    have unfiltered (input : FilterInput) (absent : input.normalize = .ok none) :
        filterRows rows input table = .ok (rows.filter fun _ => true) := by
      rw [filterRows, FilterInput.compile, absent]
      rfl
    exact .inr ⟨_, unfiltered a normal, unfiltered b normal'⟩
  | some alike =>
    obtain ⟨kept, first, second⟩ := FilterInput.filterRows_of_alike alike normal normal' bare plain plain' rows table
    rcases first.both second with failed | passed
    · exact .inl failed
    · exact .inr ⟨kept, passed⟩

def lettered (a b : String) : Object := [("a", .str a), ("b", .str b)]

def letteredRows : List Object := [lettered "p" "q", lettered "q" "q", lettered "p" "p"]

theorem filterRows_of_compare_sample :
    (FilterInput.group toldApartSample).compare (.group toldApartMoved) = .ok true ∧
      (FilterInput.group toldApartSample).Bare ∧ (FilterInput.group toldApartSample).PlainZeros ∧
      (FilterInput.group toldApartMoved).PlainZeros ∧
      filterRows letteredRows (.group toldApartMoved) .empty = .ok [lettered "p" "q"] := by
  have same : FilterNode.Matches toldApartSample.toNode toldApartMoved.toNode :=
    toldApartSample_toldApart.matches_of_alike (by decide) (by decide) toldApartSample_alike
  have equal : (FilterInput.group toldApartSample).compare (.group toldApartMoved) = .ok true :=
    (FilterInput.compare_eq_true_iff (a := .group toldApartSample) (b := .group toldApartMoved) rfl rfl).2 (.some same)
  have bare : (FilterInput.group toldApartSample).Bare := by decide
  have plain : (FilterInput.group toldApartSample).PlainZeros := by decide
  have plain' : (FilterInput.group toldApartMoved).PlainZeros := by decide
  have first : filterRows letteredRows (.group toldApartSample) .empty = .ok [lettered "p" "q"] := by rfl
  refine ⟨equal, bare, plain, plain', ?_⟩
  rcases filterRows_of_compare equal bare plain plain' letteredRows .empty with
    ⟨⟨cause, failed⟩, -⟩ | ⟨kept, passed, second⟩
  · cases first.symm.trans failed
  · cases first.symm.trans passed
    exact second

end RecordSync
