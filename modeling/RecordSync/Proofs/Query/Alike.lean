import RecordSync.Proofs.Json.Equality
import RecordSync.Proofs.SideBySide
import RecordSync.Query.Filter

/-!
# Filters up to order

Two filters are alike when the children of their groups can be moved so that each item stands beside one that asks for the
same. This is an equivalence, and alike filters have items that ask for the same.
-/

set_option autoImplicit false

namespace RecordSync

namespace Operator

def mark : Operator → Comparison ⊕ String ⊕ String
  | .builtin c => .inl c
  | .named name => .inr (.inl name)
  | .inline p => .inr (.inr p.name)

theorem beq_iff {o p : Operator} : (o == p) = true ↔ o.mark = p.mark := by
  cases o <;> cases p <;> simp [BEq.beq, mark]

instance : EquivBEq Operator where
  rfl := beq_iff.2 rfl
  symm h := beq_iff.2 (beq_iff.1 h).symm
  trans h k := beq_iff.2 ((beq_iff.1 h).trans (beq_iff.1 k))

theorem name_eq_of_beq {o p : Operator} (h : (o == p) = true) : o.name = p.name := by
  rw [beq_iff] at h
  cases o <;> cases p <;> simp_all [mark, name]

end Operator

namespace FilterItem

structure Agrees (i j : FilterItem) : Prop where
  field : i.field = j.field
  operator : (i.effectiveOperator == j.effectiveOperator) = true
  value : (i.value == j.value) = true
  ignoreCase : i.ignoreCase = j.ignoreCase

variable {i j k : FilterItem}

theorem Agrees.refl (i : FilterItem) : i.Agrees i := ⟨rfl, BEq.rfl, BEq.rfl, rfl⟩

theorem Agrees.symm (h : i.Agrees j) : j.Agrees i :=
  ⟨h.field.symm, BEq.symm h.operator, BEq.symm h.value, h.ignoreCase.symm⟩

theorem Agrees.trans (h : i.Agrees j) (more : j.Agrees k) : i.Agrees k :=
  ⟨h.field.trans more.field, BEq.trans h.operator more.operator, BEq.trans h.value more.value,
    h.ignoreCase.trans more.ignoreCase⟩

theorem sameItem_iff : FilterNode.sameItem i j = true ↔ i.Agrees j := by
  simp only [FilterNode.sameItem, Bool.and_eq_true, beq_iff_eq (a := i.field), beq_iff_eq (a := i.ignoreCase)]
  constructor
  · rintro ⟨⟨⟨field, operator⟩, value⟩, ignoreCase⟩
    exact ⟨field, operator, value, ignoreCase⟩
  · intro h
    exact ⟨⟨⟨h.field, h.operator⟩, h.value⟩, h.ignoreCase⟩

end FilterItem

namespace FilterNode

variable {a b c : FilterNode}

/-- Induction over a tree: a property of all items that a group has when its children have it. -/
theorem induct {P : FilterNode → Prop} (item : ∀ i, P (.item i))
    (group : ∀ logic children, (∀ child ∈ children, P child) → P (.group logic children)) (node : FilterNode) : P node :=
  @FilterNode.rec P (fun nodes => ∀ child ∈ nodes, P child) item group (fun _ listed => nomatch listed)
    (fun _ _ first rest => List.forall_mem_cons.2 ⟨first, rest⟩) node

theorem mem_itemsOfAll {i : FilterItem} {nodes : List FilterNode} :
    i ∈ itemsOfAll nodes ↔ ∃ node ∈ nodes, i ∈ node.items := by
  induction nodes with
  | nil => simp [itemsOfAll]
  | cons node rest ih => simp [itemsOfAll, ih]

/-- Equality up to the order of children: those of a group can be moved so that each stands beside one that is alike. -/
inductive Alike : FilterNode → FilterNode → Prop where
  | item {i j : FilterItem} : i.Agrees j → Alike (.item i) (.item j)
  | group {logic : Logic} {children moved others : List FilterNode} : children.Perm moved →
      List.Forall₂ Alike moved others → Alike (.group logic children) (.group logic others)

namespace Alike

theorem refl (node : FilterNode) : Alike node node := by
  induction node using induct with
  | item i => exact .item (.refl i)
  | group logic children ih => exact .group (.refl children) (List.forall₂_same.2 ih)

theorem symm (h : Alike a b) : Alike b a := by
  induction a using induct generalizing b with
  | item i =>
    cases h with
    | item agrees => exact .item agrees.symm
  | group logic children ih =>
    cases h with
    | @group _ _ moved others perm beside =>
      have back : List.Forall₂ Alike others moved := by
        refine (forall₂_mono beside fun x hx y _ alike => ?_).flip
        exact ih x (perm.mem_iff.2 hx) alike
      obtain ⟨others', perm', beside'⟩ := forall₂_moved back perm.symm
      exact .group perm' beside'

theorem trans (h : Alike a b) (k : Alike b c) : Alike a c := by
  induction a using induct generalizing b c with
  | item i =>
    cases h with
    | item agrees =>
      cases k with
      | item more => exact .item (agrees.trans more)
  | group logic children ih =>
    cases h with
    | group perm beside =>
      cases k with
      | group perm' beside' =>
        obtain ⟨moved, further, through⟩ := forall₂_moved beside perm'
        have whole := perm.trans further
        refine .group whole ?_
        have each : List.Forall₂ (fun x y => ∀ z, Alike y z → Alike x z) moved _ :=
          forall₂_mono through fun x hx y _ alike z next => ih x (whole.mem_iff.2 hx) alike next
        exact forall₂_trans (fun _ _ z step next => step z next) each beside'

theorem exists_agrees (h : Alike a b) {j : FilterItem} (listed : j ∈ b.items) : ∃ i ∈ a.items, i.Agrees j := by
  induction a using induct generalizing b with
  | item i =>
    cases h with
    | item agrees =>
      rw [items, List.mem_singleton] at listed
      exact ⟨i, .head _, listed ▸ agrees⟩
  | group logic children ih =>
    cases h with
    | group perm beside =>
      rw [items, mem_itemsOfAll] at listed
      obtain ⟨other, member, listed⟩ := listed
      obtain ⟨child, moved, alike⟩ := forall₂_exists beside member
      obtain ⟨i, held, agrees⟩ := ih child (perm.mem_iff.2 moved) alike listed
      exact ⟨i, mem_itemsOfAll.2 ⟨child, perm.mem_iff.2 moved, held⟩, agrees⟩

theorem length_eq {logic other : Logic} {children others : List FilterNode}
    (h : Alike (.group logic children) (.group other others)) : children.length = others.length := by
  cases h with
  | group perm beside => exact perm.length_eq.trans beside.length_eq

theorem isEmpty_eq {g h : FilterGroup} (alike : Alike g.toNode h.toNode) : g.isEmpty = h.isEmpty := by
  have length : g.filters.length = h.filters.length := alike.length_eq
  rw [Bool.eq_iff_iff, FilterGroup.isEmpty, FilterGroup.isEmpty, List.isEmpty_iff_length_eq_zero,
    List.isEmpty_iff_length_eq_zero, length]

end Alike

end FilterNode

end RecordSync
