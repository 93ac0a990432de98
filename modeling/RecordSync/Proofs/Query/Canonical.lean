import RecordSync.Proofs.Query.Reading
import RecordSync.Proofs.Query.RoundTrip

/-!
# The canonical form of a filter

Normalising a request resolves the operator of every item and changes nothing else. It fails only on items without a
field, and what it gives is a fixed point: a name that has been resolved, or that was kept because it spells nothing,
is not resolved differently the second time.
-/

set_option autoImplicit false

namespace RecordSync

theorem Comparison.spelledBy_of_ofName? {text : String} {c : Comparison}
    (h : ofName? (Unicode.toLower (Unicode.trim text)) = some c) : c.SpelledBy text := by
  unfold SpelledBy
  generalize Unicode.toLower (Unicode.trim text) = name at h ⊢
  rcases Option.or_eq_some_iff.1 h with spelling | ⟨-, canonical⟩
  · obtain ⟨before, after, listed, -⟩ := List.lookup_eq_some_iff.1 spelling
    exact .inr (by simp [listed])
  · have same := List.find?_some canonical
    exact .inl (beq_iff_eq.1 same).symm

theorem Comparison.not_spelledBy_of_ofName? {text : String}
    (h : ofName? (Unicode.toLower (Unicode.trim text)) = none) (c : Comparison) : ¬c.SpelledBy text := by
  rw [ofName?, Option.or_eq_none_iff, List.lookup_eq_none_iff, List.find?_eq_none] at h
  rintro (name | spelling)
  · have listed : c ∈ all := by cases c <;> decide
    exact h.2 c listed (beq_iff_eq.2 name.symm)
  · exact bne_iff_ne.1 (h.1 _ spelling) rfl

namespace Operator

/-- What the operator of an item is resolved to. Without one the item asks for equality; a name that spells a comparison
stands for it, and any other name for itself. -/
inductive ResolvesTo : Option Operator → Operator → Prop where
  | missing : ResolvesTo none (.builtin .eq)
  | builtin (c : Comparison) : ResolvesTo (some (.builtin c)) (.builtin c)
  | inline (p : Predicate) : ResolvesTo (some (.inline p)) (.inline p)
  | spelled {c : Comparison} {name : String} : c.SpelledBy name → ResolvesTo (some (.named name)) (.builtin c)
  | custom {name : String} : (∀ c : Comparison, ¬c.SpelledBy name) → ResolvesTo (some (.named name)) (.named name)

def IsResolved : Operator → Prop
  | .builtin _ => True
  | .named name => ∀ c : Comparison, ¬c.SpelledBy name
  | .inline _ => True

theorem ResolvesTo.isResolved {given : Option Operator} {o : Operator} (h : ResolvesTo given o) : o.IsResolved := by
  cases h with
  | missing | builtin | inline | spelled => trivial
  | custom unspelled => exact unspelled

theorem resolvesTo_parse (name : String) : ResolvesTo (some (.named name)) (parse name) := by
  unfold parse
  split
  · next c found => exact .spelled (Comparison.spelledBy_of_ofName? found)
  · next found => exact .custom (Comparison.not_spelledBy_of_ofName? found)

end Operator

namespace FilterItem

theorem resolvesTo_effectiveOperator (i : FilterItem) : Operator.ResolvesTo i.operator i.effectiveOperator := by
  unfold effectiveOperator
  cases i.operator with
  | none => exact .missing
  | some o =>
    cases o with
    | builtin c => exact .builtin c
    | named name => exact Operator.resolvesTo_parse name
    | inline p => exact .inline p

theorem canonical_canonical (i : FilterItem) : i.canonical.canonical = i.canonical := by
  rw [canonical, effectiveOperator_canonical]
  rfl

structure Resolves (i given : FilterItem) : Prop where
  field : i.field = given.field
  value : i.value = given.value
  ignoreCase : i.ignoreCase = given.ignoreCase
  operator : ∃ o, i.operator = some o ∧ Operator.ResolvesTo given.operator o

theorem resolves_canonical (i : FilterItem) : i.canonical.Resolves i :=
  ⟨rfl, rfl, rfl, i.effectiveOperator, rfl, i.resolvesTo_effectiveOperator⟩

end FilterItem

namespace FilterNode

mutual

/-- A tree of the same shape as a given one, with the operator of each item resolved. -/
inductive Resolves : FilterNode → FilterNode → Prop where
  | item {i given : FilterItem} : i.Resolves given → Resolves (.item i) (.item given)
  | group {logic : Logic} {children given : List FilterNode} : ResolvesAll children given →
      Resolves (.group logic children) (.group logic given)

inductive ResolvesAll : List FilterNode → List FilterNode → Prop where
  | nil : ResolvesAll [] []
  | cons {node given : FilterNode} {rest others : List FilterNode} : Resolves node given → ResolvesAll rest others →
      ResolvesAll (node :: rest) (given :: others)

end

mutual

theorem resolves_canonical : (node : FilterNode) → Resolves node.canonical node
  | .item i => .item i.resolves_canonical
  | .group _ children => .group (resolvesAll_canonicalAll children)

theorem resolvesAll_canonicalAll : (nodes : List FilterNode) → ResolvesAll (canonicalAll nodes) nodes
  | [] => .nil
  | node :: rest => .cons (resolves_canonical node) (resolvesAll_canonicalAll rest)

end

mutual

theorem canonical_canonical : (node : FilterNode) → node.canonical.canonical = node.canonical
  | .item i => by simp only [canonical, i.canonical_canonical]
  | .group _ children => by simp only [canonical, canonicalAll_canonicalAll children]

theorem canonicalAll_canonicalAll : (nodes : List FilterNode) →
    canonicalAll (canonicalAll nodes) = canonicalAll nodes
  | [] => rfl
  | node :: rest => by simp only [canonicalAll, canonical_canonical node, canonicalAll_canonicalAll rest]

end

end FilterNode

namespace FilterGroup

theorem canonical_canonical (g : FilterGroup) : g.canonical.canonical = g.canonical := by
  simp only [canonical, FilterNode.canonicalAll_canonicalAll]

theorem mem_items_canonical {g : FilterGroup} {i : FilterItem} (h : i ∈ g.canonical.items) :
    ∃ given ∈ g.items, i = given.canonical := by
  rw [items, canonical, FilterNode.itemsOfAll_canonicalAll, List.mem_map] at h
  obtain ⟨given, listed, rfl⟩ := h
  exact ⟨given, listed, rfl⟩

end FilterGroup

namespace FilterInput

theorem leaves_of_group? {input : FilterInput} {g : FilterGroup} (h : input.group? = some g) :
    input.leaves = g.items := by
  cases input with
  | absent => cases h
  | item i =>
    cases h
    rfl
  | items is =>
    cases h
    exact (itemsOfAll_map_item is).symm
  | group given =>
    cases h
    rfl

theorem normalize_failsIff (input : FilterInput) :
    FailsIff (∃ i ∈ input.leaves, i.field = []) (input.group?.map FilterGroup.canonical) input.normalize := by
  unfold normalize
  split
  · next none =>
    have leafless : input.leaves = [] := by
      cases input with
      | absent => rfl
      | item | items | group => cases none
    rw [none]
    exact .ok (by simp [leafless])
  · next g some =>
    rw [leaves_of_group? some, some]
    exact g.normalize_failsIff.map _

/-- What normalising a request does. Nothing comes of the absent request only; items without a field, at any depth, are
the only fault; and otherwise the tree stays as it was given, but for operators, which are resolved for good. -/
theorem normalize_resolves (input : FilterInput) :
    (input.normalize = .ok none ↔ input = .absent) ∧
      ((∃ cause, input.normalize = .error cause) ↔ ∃ i ∈ input.leaves, i.field = []) ∧
      ∀ g, input.normalize = .ok (some g) →
        (∃ given, input.group? = some given ∧ g.toNode.Resolves given.toNode) ∧
          (∀ i ∈ g.items, ∃ o, i.operator = some o ∧ o.IsResolved) ∧
          (FilterInput.group g).normalize = .ok (some g) := by
  have outcome := input.normalize_failsIff
  refine ⟨?_, outcome.error_iff, fun g normal => ?_⟩
  · constructor
    · intro nothing
      have shapeless := ((outcome.ok_iff _).1 nothing).2
      cases input with
      | absent => rfl
      | item | items | group => cases shapeless
    · rintro rfl
      rfl
  · obtain ⟨sound, shape⟩ := (outcome.ok_iff _).1 normal
    obtain ⟨given, present, rfl⟩ := Option.map_eq_some_iff.1 shape.symm
    refine ⟨⟨given, present, FilterNode.resolves_canonical given.toNode⟩, fun i listed => ?_, ?_⟩
    · obtain ⟨leaf, -, rfl⟩ := FilterGroup.mem_items_canonical listed
      exact ⟨_, rfl, leaf.resolvesTo_effectiveOperator.isResolved⟩
    · -- the items of the result have the fields of those that were given
      apply ((normalize_failsIff (.group given.canonical)).ok_iff _).2
      refine ⟨?_, congrArg some given.canonical_canonical.symm⟩
      rintro ⟨i, listed, fieldless⟩
      obtain ⟨leaf, member, rfl⟩ := FilterGroup.mem_items_canonical listed
      exact sound ⟨leaf, leaves_of_group? present ▸ member, fieldless⟩

end FilterInput

/-- An alias in capitals with blanks around it, a custom name that keeps its blanks, and an item without an operator
inside of a group without a sibling. -/
def looseSample : List FilterNode :=
  [.item { field := ["age"], operator := some (.named " GreaterThan "), value := .num (.int 3), ignoreCase := false },
    .group .or [.item (.equality ["name", "0"] .null)],
    .item { field := [""], operator := some (.named " Between"), value := .arr [], ignoreCase := true }]

def strictSample : List FilterNode :=
  [.item { field := ["age"], operator := some (.builtin .gt), value := .num (.int 3), ignoreCase := false },
    .group .or [.item { FilterItem.equality ["name", "0"] .null with operator := some (.builtin .eq) }],
    .item { field := [""], operator := some (.named " Between"), value := .arr [], ignoreCase := true }]

theorem FilterInput.normalize_resolves_sample :
    (FilterInput.group ⟨.or, looseSample⟩).normalize = .ok (some ⟨.or, strictSample⟩) ∧
      (FilterInput.group ⟨.or, strictSample⟩).normalize = .ok (some ⟨.or, strictSample⟩) := by
  have normal : (FilterInput.group ⟨.or, looseSample⟩).normalize = .ok (some ⟨.or, strictSample⟩) := by rfl
  exact ⟨normal, ((FilterInput.normalize_resolves _).2.2 _ normal).2.2⟩

end RecordSync
