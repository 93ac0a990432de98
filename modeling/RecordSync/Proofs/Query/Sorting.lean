import RecordSync.Query.Group

/-!
# Directions of a sort

A request is stored as a list of criteria, and what has no direction of its own by then is sorted in ascending order. A
field and a single criterion take the direction that is given with them when they are stored, a list does not.
-/

set_option autoImplicit false

namespace RecordSync

namespace SortDescriptor

theorem compareAll_of_directed {ds : List SortDescriptor} (directed : ∀ d ∈ ds, d.dir.isSome) (dir other : SortDir)
    (a b : Lookup) : compareAll ds dir a b = compareAll ds other a b := by
  induction ds with
  | nil => rfl
  | cons d rest ih =>
    obtain ⟨own, named⟩ := Option.isSome_iff_exists.1 (directed d (.head _))
    rw [compareAll, compareAll, ih fun e listed => directed e (.tail _ listed)]
    simp [compareRows, named]

end SortDescriptor

namespace SortInput

def ofStored : Option (List SortDescriptor) → SortInput
  | none => .absent
  | some ds => .many ds

def storedDir (input : SortInput) (dir : SortDir) : SortDir :=
  match input with
  | .many ds => if ds.all (·.dir.isSome) then dir else .asc
  | _ => dir

end SortInput

section Rows

variable {α : Type} [Record α]

theorem sortRows_of_directed {ds : List SortDescriptor} (directed : ∀ d ∈ ds, d.dir.isSome) (rows : List α)
    (dir other : SortDir) : sortRows rows ds dir = sortRows rows ds other := by
  have same : (fun a b : α => SortDescriptor.compareAll ds dir (Record.lookup a) (Record.lookup b) != .gt) =
      fun a b => SortDescriptor.compareAll ds other (Record.lookup a) (Record.lookup b) != .gt := by
    funext a b
    rw [SortDescriptor.compareAll_of_directed directed dir other]
  rw [sortRows, sortRows, same]

theorem sortRows_pair (a b : α) (ds : List SortDescriptor) (dir : SortDir) :
    sortRows [a, b] ds dir =
      if SortDescriptor.compareAll ds dir (Record.lookup a) (Record.lookup b) != .gt then [a, b] else [b, a] := by
  simp [sortRows, List.mergeSort, List.MergeSort.Internal.splitInTwo, List.cons_merge_cons]

/-- Swapping two rows swaps the result of their comparison, and not coming after is transitive. -/
def SortDescriptor.ConsistentOn (d : SortDescriptor) (rows : List α) : Prop :=
  ∀ isDesc, (∀ a ∈ rows, ∀ b ∈ rows, d.compareOperands (Record.lookup b) (Record.lookup a) isDesc =
      (d.compareOperands (Record.lookup a) (Record.lookup b) isDesc).swap) ∧
    ∀ a ∈ rows, ∀ b ∈ rows, ∀ c ∈ rows, d.compareOperands (Record.lookup a) (Record.lookup b) isDesc ≠ .gt →
      d.compareOperands (Record.lookup b) (Record.lookup c) isDesc ≠ .gt →
      d.compareOperands (Record.lookup a) (Record.lookup c) isDesc ≠ .gt

instance (d : SortDescriptor) (rows : List α) : Decidable (d.ConsistentOn rows) :=
  inferInstanceAs (Decidable (∀ _ : Bool, _ ∧ _))

def SortInput.ConsistentOn (input : SortInput) (rows : List α) : Prop :=
  ∀ dir ds, input.normalize dir = some ds → ∀ d ∈ ds, d.ConsistentOn rows

theorem perm_orderRows (rows : List α) (input : SortInput) (dir : SortDir) : (orderRows rows input dir).Perm rows := by
  unfold orderRows
  split
  · exact .refl rows
  · exact List.mergeSort_perm _ _

theorem orderRows_ofStored (rows : List α) (input : SortInput) (dir : SortDir) :
    orderRows rows (.ofStored (input.normalize dir)) .asc = orderRows rows input (input.storedDir dir) := by
  cases input with
  | absent => rfl
  | field name =>
    show sortRows rows [_] .asc = sortRows rows [_] dir
    exact sortRows_of_directed (by simp) rows .asc dir
  | one d =>
    show sortRows rows [_] .asc = sortRows rows [_] dir
    exact sortRows_of_directed (by simp) rows .asc dir
  | many ds =>
    show sortRows rows ds .asc = sortRows rows ds (SortInput.storedDir (.many ds) dir)
    by_cases directed : ds.all (·.dir.isSome) = true
    · exact sortRows_of_directed (List.all_eq_true.1 directed) rows _ _
    · rw [SortInput.storedDir, if_neg directed]

end Rows

section Orders

variable {α : Type}

/-- A comparison that puts rows into an order: swapping two of them swaps the result, and not coming after is
transitive. -/
structure Orders (rows : List α) (order : α → α → Ordering) : Prop where
  swap : ∀ a ∈ rows, ∀ b ∈ rows, order b a = (order a b).swap
  trans : ∀ a ∈ rows, ∀ b ∈ rows, ∀ c ∈ rows, order a b ≠ .gt → order b c ≠ .gt → order a c ≠ .gt

namespace Orders

variable {rows : List α} {order : α → α → Ordering}

/-- Sorting only compares rows that are sorted, so it may be done where they are known to belong. -/
theorem mergeSort_eq (rows : List α) (order : α → α → Ordering) :
    (rows.mergeSort fun a b => order a b != .gt) =
      (rows.attach.mergeSort fun a b => order a.1 b.1 != .gt).map Subtype.val := by
  rw [List.map_mergeSort (s := fun a b => order a b != .gt) fun _ _ _ _ => rfl, List.attach_map_subtype_val]

theorem attach_trans (h : Orders rows order) (a b c : { row // row ∈ rows }) (ab : (order a.1 b.1 != .gt) = true)
    (bc : (order b.1 c.1 != .gt) = true) : (order a.1 c.1 != .gt) = true := by
  rw [bne_iff_ne] at *
  exact h.trans a.1 a.2 b.1 b.2 c.1 c.2 ab bc

theorem attach_total (h : Orders rows order) (a b : { row // row ∈ rows }) :
    (order a.1 b.1 != .gt || order b.1 a.1 != .gt) = true := by
  rw [h.swap a.1 a.2 b.1 b.2]
  cases order a.1 b.1 <;> rfl

theorem pairwise_mergeSort (h : Orders rows order) :
    (rows.mergeSort fun a b => order a b != .gt).Pairwise fun a b => order a b ≠ .gt := by
  rw [mergeSort_eq, List.pairwise_map]
  exact (List.pairwise_mergeSort h.attach_trans h.attach_total _).imp bne_iff_ne.1

/-- Rows that are in order already keep the order in which they are. -/
theorem sublist_mergeSort (h : Orders rows order) {part : List α} (inOrder : part.Pairwise fun a b => order a b ≠ .gt)
    (within : part.Sublist rows) : part.Sublist (rows.mergeSort fun a b => order a b != .gt) := by
  rw [← List.attach_map_subtype_val rows] at within
  obtain ⟨held, inside, rfl⟩ := List.sublist_map_iff.1 within
  rw [mergeSort_eq]
  have ascending := (List.pairwise_map.1 inOrder).imp fun {a b} ne => bne_iff_ne.2 ne
  exact (List.sublist_mergeSort h.attach_trans h.attach_total ascending inside).map _

end Orders

theorem SortDescriptor.ConsistentOn.orders [Record α] {d : SortDescriptor} {rows : List α} (h : d.ConsistentOn rows)
    (dir : SortDir) : Orders rows fun a b => d.compareRows dir (Record.lookup a) (Record.lookup b) where
  swap := by
    intro a ha b hb
    unfold compareRows
    cases d.dir.getD dir with
    | asc => exact (h false).1 a ha b hb
    | desc => exact (h true).1 b hb a ha
  trans := by
    intro a ha b hb c hc
    unfold compareRows
    cases d.dir.getD dir with
    | asc => exact (h false).2 a ha b hb c hc
    | desc => exact fun ab bc => (h true).2 c hc b hb a ha bc ab

theorem sortRows_one [Record α] (rows : List α) (d : SortDescriptor) (dir : SortDir) : sortRows rows [d] dir =
    rows.mergeSort fun a b => d.compareRows dir (Record.lookup a) (Record.lookup b) != .gt := by
  simp only [sortRows, SortDescriptor.compareAll, Ordering.then_eq]

end Orders

end RecordSync
