import RecordSync.Proofs.Query.Reading

/-!
# Filters one after the other

To filter by one node and then by another is to filter by the group that asks for both. The exception is an `or`
without children: on its own it is no filter, like any group without children, but inside of a group no row satisfies
it.
-/

set_option autoImplicit false

namespace RecordSync

namespace FilterNode

def request : FilterNode → FilterInput
  | .item i => .item i
  | .group logic children => .group ⟨logic, children⟩

def isVoid : FilterNode → Bool
  | .group .or [] => true
  | _ => false

theorem leaves_request (node : FilterNode) : node.request.leaves = node.items := by
  cases node <;> simp [request, FilterInput.leaves, items, FilterGroup.items]

variable [PatternEngine] (table : OperatorTable) (row : Lookup)

theorem holds_request {node : FilterNode} (h : node.isVoid = false) :
    node.request.holds table row = holds table row node := by
  cases node with
  | item i => rfl
  | group logic children =>
    cases children with
    | nil =>
      cases logic with
      | and => rfl
      | or => simp [isVoid] at h
    | cons child rest => simp [request, FilterInput.holds, FilterGroup.isEmpty, FilterGroup.toNode]

theorem holds_of_isVoid {node : FilterNode} (h : node.isVoid = true) : holds table row node = false := by
  cases node with
  | item i => simp [isVoid] at h
  | group logic children =>
    cases children with
    | nil =>
      cases logic with
      | and => simp [isVoid] at h
      | or => rfl
    | cons child rest => simp [isVoid] at h

theorem holds_both (a b : FilterNode) :
    FilterInput.holds table row (.group ⟨.and, [a, b]⟩) = (holds table row a && holds table row b) := by
  simp [FilterInput.holds, FilterGroup.isEmpty, FilterGroup.toNode, holds, allHold]

end FilterNode

section Rows

variable [PatternEngine] {α : Type} [Record α] {rows first other : List α} {table : OperatorTable}

/-- The law of composition, with its exception. -/
theorem filterRows_both {a b : FilterNode} (ha : filterRows rows a.request table = .ok first)
    (hb : filterRows rows b.request table = .ok other) :
    ∃ second, filterRows first b.request table = .ok second ∧
      filterRows rows (.group ⟨.and, [a, b]⟩) table =
        .ok (if a.isVoid || b.isVoid then [] else second) := by
  obtain ⟨soundA, kept⟩ := ((filterRows_failsIff rows a.request table).ok_iff first).1 ha
  have soundB := (((filterRows_failsIff rows b.request table).ok_iff other).1 hb).1
  refine ⟨_, ((filterRows_failsIff first b.request table).ok_iff _).2 ⟨soundB, rfl⟩, ?_⟩
  apply ((filterRows_failsIff rows _ table).ok_iff _).2
  constructor
  · rintro ⟨i, listed, faulty⟩
    have either : i ∈ a.items ∨ i ∈ b.items := by
      simpa [FilterInput.leaves, FilterGroup.items, FilterNode.itemsOfAll] using listed
    rcases either with member | member
    · exact soundA ⟨i, a.leaves_request ▸ member, faulty⟩
    · exact soundB ⟨i, b.leaves_request ▸ member, faulty⟩
  · simp only [FilterNode.holds_both]
    cases va : a.isVoid with
    | true => simp [FilterNode.holds_of_isVoid table _ va]
    | false =>
      cases vb : b.isVoid with
      | true => simp [FilterNode.holds_of_isVoid table _ vb]
      | false =>
        simp [kept, FilterNode.holds_request table _ va, FilterNode.holds_request table _ vb, List.filter_filter,
          Bool.and_comm]

end Rows

def blank (name : String) : Json := .obj [(name, .null)]

def whereNull (name : String) : FilterNode := .item ⟨[name], some (.builtin .isNull), .null, false⟩

theorem filterRows_both_sample :
    ∃ second, filterRows [blank "a", blank "b"] (whereNull "b").request .empty = .ok second ∧
      filterRows [blank "a", blank "b", blank "c"]
        (.group ⟨.and, [.group .or [whereNull "a", whereNull "b"], whereNull "b"]⟩) .empty =
        .ok (if (FilterNode.group .or [whereNull "a", whereNull "b"]).isVoid || (whereNull "b").isVoid then []
          else second) := by
  have either : filterRows [blank "a", blank "b", blank "c"]
      (FilterNode.group .or [whereNull "a", whereNull "b"]).request .empty = .ok [blank "a", blank "b"] := rfl
  have one : filterRows [blank "a", blank "b", blank "c"] (whereNull "b").request .empty = .ok [blank "b"] := rfl
  exact filterRows_both either one

/-- An `or` without children keeps every row on its own, and no row inside of a group. -/
theorem filterRows_void_sample :
    filterRows [blank "a"] (FilterNode.group .or []).request .empty = .ok [blank "a"] ∧
      filterRows [blank "a"] (whereNull "a").request .empty = .ok [blank "a"] ∧
      filterRows [blank "a"] (.group ⟨.and, [.group .or [], whereNull "a"]⟩) .empty = .ok [] :=
  ⟨rfl, rfl, rfl⟩

end RecordSync
