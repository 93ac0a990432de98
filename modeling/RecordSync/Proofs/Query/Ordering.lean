import Mathlib.Data.List.Permutation
import RecordSync.Proofs.Query.Sorting

/-!
# Rows in order

Criteria that compare rows consistently do so together as well, the first one that tells two rows apart deciding. The
stable arrangement of a list under such a comparison is unique. Hence sorting by several criteria is sorting by one after
the other, the last one first, and to leave rows out before or after they are sorted is the same.
-/

set_option autoImplicit false

namespace RecordSync

namespace Orders

variable {α : Type} {rows part : List α} {order first second : α → α → Ordering}

theorem mono (h : Orders rows order) (within : ∀ a ∈ part, a ∈ rows) : Orders part order where
  swap := fun a ha b hb => h.swap a (within a ha) b (within b hb)
  trans := fun a ha b hb c hc => h.trans a (within a ha) b (within b hb) c (within c hc)

theorem refl (h : Orders rows order) {a : α} (ha : a ∈ rows) : order a a = .eq := by
  have self := h.swap a ha a ha
  cases compared : order a a with
  | eq => rfl
  | lt | gt =>
    rw [compared] at self
    cases self

theorem symm (h : Orders rows order) {a b : α} (ha : a ∈ rows) (hb : b ∈ rows) (tied : order a b = .eq) :
    order b a = .eq := by
  rw [h.swap a ha b hb, tied]
  rfl

theorem antisymm (h : Orders rows order) {a b : α} (ha : a ∈ rows) (hb : b ∈ rows) (ab : order a b ≠ .gt)
    (ba : order b a ≠ .gt) : order a b = .eq := by
  rw [h.swap a ha b hb] at ba
  cases compared : order a b with
  | eq => rfl
  | lt => rw [compared] at ba; exact absurd rfl ba
  | gt => exact absurd compared ab

theorem tied_trans (h : Orders rows order) {a b c : α} (ha : a ∈ rows) (hb : b ∈ rows) (hc : c ∈ rows)
    (ab : order a b = .eq) (bc : order b c = .eq) : order a c = .eq := by
  apply h.antisymm ha hc
  · exact h.trans a ha b hb c hc (by simp [ab]) (by simp [bc])
  · exact h.trans c hc b hb a ha (by simp [h.symm hb hc bc]) (by simp [h.symm ha hb ab])

/-- A row that comes before another one comes before everything that does not come before that one. -/
theorem before_of_before (h : Orders rows order) {a b c : α} (ha : a ∈ rows) (hb : b ∈ rows) (hc : c ∈ rows)
    (ab : order a b = .lt) (bc : order b c ≠ .gt) : order a c = .lt := by
  have ac := h.trans a ha b hb c hc (by simp [ab]) bc
  cases compared : order a c with
  | lt => rfl
  | gt => exact absurd compared ac
  | eq =>
    have ba := h.trans b hb c hc a ha bc (by simp [h.symm ha hc compared])
    rw [h.swap a ha b hb, ab] at ba
    exact absurd rfl ba

theorem before_of_tied (h : Orders rows order) {a b c : α} (ha : a ∈ rows) (hb : b ∈ rows) (hc : c ∈ rows)
    (ab : order a b = .eq) (bc : order b c = .lt) : order a c = .lt := by
  have ac := h.trans a ha b hb c hc (by simp [ab]) (by simp [bc])
  cases compared : order a c with
  | lt => rfl
  | gt => exact absurd compared ac
  | eq =>
    rw [h.tied_trans hb ha hc (h.symm ha hb ab) compared] at bc
    cases bc

theorem ofTied (rows : List α) : Orders rows fun _ _ => .eq where
  swap := fun _ _ _ _ => rfl
  trans := fun _ _ _ _ _ _ _ _ => by simp

theorem ofText (rows : List α) (text : α → String) :
    Orders rows fun a b => compare (text a) (text b) where
  swap := fun _ _ _ _ => Std.OrientedCmp.eq_swap
  trans := by
    intro a _ b _ c _ ab bc
    exact Ordering.isLE_iff_ne_gt.1
      (Std.TransCmp.isLE_trans (Ordering.isLE_iff_ne_gt.2 ab) (Ordering.isLE_iff_ne_gt.2 bc))

/-- Two comparisons, the second of which decides where the first one does not. -/
theorem combine (h : Orders rows first) (k : Orders rows second) :
    Orders rows fun a b => (first a b).then (second a b) where
  swap := by
    intro a ha b hb
    rw [h.swap a ha b hb, k.swap a ha b hb, Ordering.swap_then]
  trans := by
    intro a ha b hb c hc ab bc
    cases firstAB : first a b with
    | gt => simp [firstAB] at ab
    | lt =>
      have notAfter : first b c ≠ .gt := by
        intro after
        simp [after] at bc
      simp [h.before_of_before ha hb hc firstAB notAfter]
    | eq =>
      cases firstBC : first b c with
      | gt => simp [firstBC] at bc
      | lt => simp [h.before_of_tied ha hb hc firstAB firstBC]
      | eq =>
        simp only [firstAB, firstBC, Ordering.then] at ab bc
        simpa [h.tied_trans ha hb hc firstAB firstBC] using k.trans a ha b hb c hc ab bc

theorem filter_tied_mergeSort (h : Orders rows order) {row : α} (listed : row ∈ rows) :
    (rows.mergeSort fun a b => order a b != .gt).filter (order row · == .eq) = rows.filter (order row · == .eq) := by
  have inOrder : (rows.filter (order row · == .eq)).Pairwise fun a b => order a b ≠ .gt := by
    rw [List.pairwise_iff_forall_sublist]
    intro a b pair
    obtain ⟨ha, tiedA⟩ := List.mem_filter.1 (pair.subset (.head _))
    obtain ⟨hb, tiedB⟩ := List.mem_filter.1 (pair.subset (.tail _ (.head _)))
    rw [beq_iff_eq] at tiedA tiedB
    simp [h.tied_trans ha listed hb (h.symm listed ha tiedA) tiedB]
  have kept := (h.sublist_mergeSort inOrder List.filter_sublist).filter (order row · == .eq)
  simp only [List.filter_filter, Bool.and_self] at kept
  exact (kept.eq_of_length ((List.mergeSort_perm _ _).filter _).length_eq.symm).symm

/-- The stable arrangement is unique: two lists in order that have the same rows, with tied rows in the same sequence, are
the same. -/
theorem eq_of_sorted {rows others : List α} (h : Orders rows order) (perm : rows.Perm others)
    (inOrder : rows.Pairwise fun a b => order a b ≠ .gt) (otherOrder : others.Pairwise fun a b => order a b ≠ .gt)
    (tied : ∀ row ∈ rows, rows.filter (order row · == .eq) = others.filter (order row · == .eq)) : rows = others := by
  induction rows generalizing others with
  | nil => exact perm.nil_eq
  | cons a rest ih =>
    cases others with
    | nil => exact absurd perm.eq_nil (List.cons_ne_nil _ _)
    | cons b later =>
      have hb : b ∈ a :: rest := perm.mem_iff.2 (.head _)
      have ab : order a b ≠ .gt := by
        rcases List.mem_cons.1 hb with rfl | further
        · simp [h.refl hb]
        · exact List.rel_of_pairwise_cons inOrder further
      have ba : order b a ≠ .gt := by
        rcases List.mem_cons.1 (perm.mem_iff.1 (.head _)) with rfl | further
        · simp [h.refl hb]
        · exact List.rel_of_pairwise_cons otherOrder further
      -- both heads lead the rows that are tied with the first of them
      have heads := tied a (.head _)
      rw [List.filter_cons_of_pos (by simp [h.refl (.head _)]),
        List.filter_cons_of_pos (by simp [h.antisymm (.head _) hb ab ba])] at heads
      obtain rfl := (List.cons.inj heads).1
      congr 1
      refine ih (h.mono fun _ => List.mem_cons_of_mem _) perm.cons_inv inOrder.of_cons otherOrder.of_cons ?_
      intro row further
      have same := tied row (.tail _ further)
      rw [List.filter_cons, List.filter_cons] at same
      split at same
      · exact (List.cons.inj same).2
      · exact same

theorem filter_mergeSort (h : Orders rows order) (keep : α → Bool) :
    (rows.mergeSort fun a b => order a b != .gt).filter keep =
      (rows.filter keep).mergeSort fun a b => order a b != .gt := by
  have sorted := List.mergeSort_perm rows fun a b => order a b != .gt
  have kept := List.mergeSort_perm (rows.filter keep) fun a b => order a b != .gt
  have within : Orders (rows.filter keep) order := h.mono fun _ => List.mem_of_mem_filter
  refine eq_of_sorted (h.mono fun a ha => sorted.mem_iff.1 (List.mem_of_mem_filter ha))
    ((sorted.filter keep).trans kept.symm) (h.pairwise_mergeSort.filter keep) within.pairwise_mergeSort ?_
  intro row listed
  have member := (sorted.filter keep).mem_iff.1 listed
  rw [List.filter_comm, h.filter_tied_mergeSort (List.mem_of_mem_filter member), within.filter_tied_mergeSort member,
    List.filter_comm]

/-- Sorting by two comparisons at once is sorting by the second one and then, stably, by the first. -/
theorem mergeSort_combine (h : Orders rows first) (k : Orders rows second) :
    (rows.mergeSort fun a b => (first a b).then (second a b) != .gt) =
      (rows.mergeSort fun a b => second a b != .gt).mergeSort fun a b => first a b != .gt := by
  have once := List.mergeSort_perm rows fun a b => second a b != .gt
  have twice := List.mergeSort_perm (rows.mergeSort fun a b => second a b != .gt) fun a b => first a b != .gt
  have both := List.mergeSort_perm rows fun a b => (first a b).then (second a b) != .gt
  have inner : Orders (rows.mergeSort fun a b => second a b != .gt) first := h.mono fun _ => once.mem_iff.1
  refine eq_of_sorted ((h.combine k).mono fun _ => both.mem_iff.1) (both.trans (twice.trans once).symm)
    (h.combine k).pairwise_mergeSort ?_ ?_
  · rw [List.pairwise_iff_forall_sublist]
    intro a b pair
    have ha := twice.mem_iff.1 (pair.subset (.head _))
    have notAfter := List.pairwise_iff_forall_sublist.1 inner.pairwise_mergeSort pair
    cases compared : first a b with
    | gt => exact absurd compared notAfter
    | lt => simp
    | eq =>
      -- rows that the first comparison does not tell apart are left as the second one has sorted them
      have tied := pair.filter (first a · == .eq)
      rw [inner.filter_tied_mergeSort ha, List.filter_cons_of_pos (by simp [inner.refl ha]),
        List.filter_cons_of_pos (by simp [compared])] at tied
      exact List.pairwise_iff_forall_sublist.1 k.pairwise_mergeSort (tied.trans List.filter_sublist)
  · intro row listed
    have member := both.mem_iff.1 listed
    have split : ∀ a, ((first row a).then (second row a) == .eq) = (second row a == .eq && first row a == .eq) := by
      intro a
      cases first row a <;> simp [Ordering.then]
    rw [(h.combine k).filter_tied_mergeSort member]
    simp only [split, ← List.filter_filter]
    rw [inner.filter_tied_mergeSort (once.mem_iff.2 member), List.filter_comm _ _ rows,
      List.filter_comm _ _ (rows.mergeSort _), k.filter_tied_mergeSort member]

end Orders

namespace SortDescriptor

variable {dir : SortDir} {a b : Lookup} {d : SortDescriptor} {ds : List SortDescriptor}

/-- What a criterion says of two rows: a comparison that is given with it, or else the order of its field. For a descending
criterion the rows are swapped, and the comparison is told that they are. -/
inductive Judges (dir : SortDir) (a b : Lookup) (d : SortDescriptor) : Ordering → Prop where
  | custom {c : Comparator} : d.comparator = some c → d.dir.getD dir = .asc → Judges dir a b d (c.compare a b false)
  | customDescending {c : Comparator} : d.comparator = some c → d.dir.getD dir = .desc →
      Judges dir a b d (c.compare b a true)
  | field : d.comparator = none → d.dir.getD dir = .asc →
      Judges dir a b d (compareValues (a (d.field.getD [])) (b (d.field.getD [])))
  | fieldDescending : d.comparator = none → d.dir.getD dir = .desc →
      Judges dir a b d (compareValues (b (d.field.getD [])) (a (d.field.getD [])))

/-- The first criterion that tells two rows apart puts the first one first. -/
inductive Precedes (dir : SortDir) (a b : Lookup) : List SortDescriptor → Prop where
  | decided {d : SortDescriptor} {rest : List SortDescriptor} : Judges dir a b d .lt → Precedes dir a b (d :: rest)
  | undecided {d : SortDescriptor} {rest : List SortDescriptor} : Judges dir a b d .eq → Precedes dir a b rest →
      Precedes dir a b (d :: rest)

def Ties (dir : SortDir) (a b : Lookup) (ds : List SortDescriptor) : Prop := ∀ d ∈ ds, Judges dir a b d .eq

theorem judges_compareRows : Judges dir a b d (d.compareRows dir a b) := by
  unfold compareRows compareOperands
  cases direction : d.dir.getD dir with
  | asc =>
    cases given : d.comparator with
    | none => exact .field given direction
    | some c => exact .custom given direction
  | desc =>
    cases given : d.comparator with
    | none => exact .fieldDescending given direction
    | some c => exact .customDescending given direction

theorem precedes_of_compareAll (h : compareAll ds dir a b = .lt) : Precedes dir a b ds := by
  induction ds with
  | nil => cases h
  | cons d rest ih =>
    rw [compareAll] at h
    cases judged : d.compareRows dir a b with
    | lt => exact .decided (judged ▸ judges_compareRows)
    | gt => simp [judged] at h
    | eq =>
      rw [judged] at h
      exact .undecided (judged ▸ judges_compareRows) (ih h)

theorem compareRows_of_judges {o : Ordering} (h : Judges dir a b d o) : d.compareRows dir a b = o := by
  cases h with
  | custom given direction | customDescending given direction | field given direction
  | fieldDescending given direction => simp only [compareRows, compareOperands, given, direction]

theorem ties_iff : Ties dir a b ds ↔ compareAll ds dir a b = .eq := by
  induction ds with
  | nil => simp [Ties, compareAll]
  | cons d rest ih =>
    rw [compareAll, Ordering.then_eq_eq, ← ih, Ties, List.forall_mem_cons]
    constructor
    · rintro ⟨tied, others⟩
      exact ⟨compareRows_of_judges tied, others⟩
    · rintro ⟨tied, others⟩
      exact ⟨tied ▸ judges_compareRows, others⟩

theorem precedes_or_ties (h : compareAll ds dir a b ≠ .gt) : Precedes dir a b ds ∨ Ties dir a b ds := by
  cases compared : compareAll ds dir a b with
  | lt => exact .inl (precedes_of_compareAll compared)
  | eq => exact .inr (ties_iff.2 compared)
  | gt => exact absurd compared h

end SortDescriptor

section Rows

variable {α : Type} [Record α] {rows : List α} {ds : List SortDescriptor} {dir : SortDir}

/-- A criterion compares the rows consistently in the direction in which it sorts them. -/
def SortDescriptor.ConsistentIn (d : SortDescriptor) (dir : SortDir) (rows : List α) : Prop :=
  Orders rows fun a b => d.compareRows dir (Record.lookup a) (Record.lookup b)

theorem SortDescriptor.ConsistentOn.consistentIn {d : SortDescriptor} (h : d.ConsistentOn rows) (dir : SortDir) :
    d.ConsistentIn dir rows := h.orders dir

theorem SortDescriptor.orders_compareAll (consistent : ∀ d ∈ ds, d.ConsistentIn dir rows) :
    Orders rows fun a b => compareAll ds dir (Record.lookup a) (Record.lookup b) := by
  induction ds with
  | nil => exact .ofTied rows
  | cons d rest ih =>
    rw [List.forall_mem_cons] at consistent
    exact consistent.1.combine (ih consistent.2)

/-- Sorting by the last criterion, then by the one before it, and so on. -/
theorem sortRows_eq_foldr (consistent : ∀ d ∈ ds, d.ConsistentIn dir rows) :
    sortRows rows ds dir = ds.foldr (fun d rows => sortRows rows [d] dir) rows := by
  induction ds with
  | nil => exact List.mergeSort_of_pairwise (List.pairwise_of_forall fun _ _ => rfl)
  | cons d rest ih =>
    rw [List.forall_mem_cons] at consistent
    rw [List.foldr_cons, ← ih consistent.2, sortRows_one]
    exact consistent.1.mergeSort_combine (SortDescriptor.orders_compareAll consistent.2)

/-- Sorting by a list of criteria that compare the rows consistently. The result has the same rows; of two rows the one
that the first criterion to tell them apart puts first comes first; rows that no criterion tells apart stay in their
sequence; the criteria may be applied one by one, from the last to the first; and once is enough. -/
theorem orderRows_by_criteria (consistent : ∀ d ∈ ds, d.ConsistentIn dir rows) :
    (orderRows rows (.many ds) dir).Perm rows ∧
      ((orderRows rows (.many ds) dir).Pairwise fun a b =>
        SortDescriptor.Precedes dir (Record.lookup a) (Record.lookup b) ds ∨
          SortDescriptor.Ties dir (Record.lookup a) (Record.lookup b) ds) ∧
      (∀ tied : List α, (tied.Pairwise fun a b => SortDescriptor.Ties dir (Record.lookup a) (Record.lookup b) ds) →
        tied.Sublist rows → tied.Sublist (orderRows rows (.many ds) dir)) ∧
      orderRows rows (.many ds) dir = ds.foldr (fun d rows => orderRows rows (.many [d]) dir) rows ∧
      orderRows (orderRows rows (.many ds) dir) (.many ds) dir = orderRows rows (.many ds) dir := by
  have orders := SortDescriptor.orders_compareAll consistent
  refine ⟨perm_orderRows rows _ dir, ?_, ?_, sortRows_eq_foldr consistent, ?_⟩
  · exact orders.pairwise_mergeSort.imp SortDescriptor.precedes_or_ties
  · intro tied undecided within
    exact orders.sublist_mergeSort (undecided.imp fun same => by simp [SortDescriptor.ties_iff.1 same]) within
  · exact List.mergeSort_of_pairwise (orders.pairwise_mergeSort.imp bne_iff_ne.2)

def SortInput.ConsistentIn (input : SortInput) (dir : SortDir) (rows : List α) : Prop :=
  ∀ ds, input.normalize dir = some ds → ∀ d ∈ ds, d.ConsistentIn dir rows

theorem orderRows_filter {input : SortInput} (consistent : input.ConsistentIn dir rows) (keep : α → Bool) :
    orderRows (rows.filter keep) input dir = (orderRows rows input dir).filter keep := by
  unfold orderRows
  cases normal : input.normalize dir with
  | none => rfl
  | some ds => exact ((SortDescriptor.orders_compareAll (consistent ds normal)).filter_mergeSort keep).symm

end Rows

def parcel (kind grade label : String) : Object := [("grade", .str grade), ("kind", .str kind), ("label", .str label)]

def parcels : List Object := [parcel "b" "1" "p", parcel "a" "2" "q", parcel "b" "3" "r", parcel "a" "2" "s"]

def byKind : SortDescriptor := { field := some ["kind"], comparator := none, dir := some .asc }

def byGrade : SortDescriptor :=
  { field := none
    comparator := some { name := "grade", compare := fun a b _ => compareValues (a ["grade"]) (b ["grade"]) }
    dir := none }

theorem parcels_consistent (dir : SortDir) : ∀ d ∈ [byKind, byGrade], d.ConsistentIn dir parcels := by
  intro d listed
  have compared : d.ConsistentOn parcels := by
    rcases List.mem_pair.1 listed with rfl | rfl <;> decide +kernel
  exact compared.consistentIn dir

/-- By kind, and within a kind the best grade first. -/
theorem orderRows_by_criteria_parcels :
    (∀ d ∈ [byKind, byGrade], d.ConsistentIn .desc parcels) ∧
      orderRows parcels (.many [byKind, byGrade]) .desc =
        [parcel "a" "2" "q", parcel "a" "2" "s", parcel "b" "3" "r", parcel "b" "1" "p"] ∧
      orderRows (orderRows parcels (.many [byGrade]) .desc) (.many [byKind]) .desc =
        [parcel "a" "2" "q", parcel "a" "2" "s", parcel "b" "3" "r", parcel "b" "1" "p"] := by
  have sorted : orderRows parcels (.many [byKind, byGrade]) .desc =
      [parcel "a" "2" "q", parcel "a" "2" "s", parcel "b" "3" "r", parcel "b" "1" "p"] := by
    cbv
  obtain ⟨-, -, -, oneByOne, -⟩ := orderRows_by_criteria (parcels_consistent .desc)
  exact ⟨parcels_consistent .desc, sorted, oneByOne.symm.trans sorted⟩

end RecordSync
