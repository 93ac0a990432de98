import Mathlib.Data.List.Nodup
import Mathlib.Data.List.Permutation
import RecordSync.Proofs.Query.Buckets
import RecordSync.Proofs.Query.Reading
import RecordSync.Proofs.Query.Sorting

/-!
# Trees of groups

Each level of a tree of groups takes the rows of one group, puts them in order and divides them by the keys of one
descriptor. So no row is lost or doubled on the way down, whatever the descriptors are and however they compare rows.
-/

set_option autoImplicit false

namespace RecordSync

namespace Group

variable {α : Type}

mutual

def rows : Group α → List α
  | .leaf _ _ _ rows => rows
  | .branch _ _ _ groups => rowsOfAll groups

def rowsOfAll : List (Group α) → List α
  | [] => []
  | g :: rest => rows g ++ rowsOfAll rest

end

def subgroups : Group α → List (Group α)
  | .leaf .. => []
  | .branch _ _ _ groups => groups

def key (g : Group α) : String := bucketKey (some g.value)

theorem rowsOfAll_eq (groups : List (Group α)) : rowsOfAll groups = groups.flatMap rows := by
  induction groups with
  | nil => rfl
  | cons g rest ih => simp [rowsOfAll, ih]

end Group

section Rows

variable {α : Type} [Record α]

def GroupDescriptor.matching (d : GroupDescriptor) (rows : List α) (value : Json) : List α :=
  rows.filter fun row => (Scalar.of (Record.lookup row d.field) false).looseEq (Scalar.of (some value) false)

theorem filterRows_equality [PatternEngine] {rows kept : List α} {d : GroupDescriptor} {value : Json}
    (h : filterRows rows (.item (.equality d.field value)) .empty = .ok kept) : kept = d.matching rows value :=
  (((filterRows_failsIff rows _ _).ok_iff kept).1 h).2

inductive Group.Made (d : GroupDescriptor) (enclosing : List α) (b : Bucket α) :
    List GroupDescriptor → Group α → Prop where
  | leaf : Made d enclosing b []
      (.leaf b.field b.value (aggregate (d.matching enclosing b.value) d.aggregates) b.items)
  | branch {next : GroupDescriptor} {more : List GroupDescriptor} {groups : List (Group α)} :
      groupWithin (next :: more) b.items (d.matching enclosing b.value) = .ok groups →
      Made d enclosing b (next :: more)
        (.branch b.field b.value (aggregate (d.matching enclosing b.value) d.aggregates) groups)

theorem groups_made {d : GroupDescriptor} {rest : List GroupDescriptor} {rows enclosing : List α}
    {groups : List (Group α)} (h : groupWithin (d :: rest) rows enclosing = .ok groups) :
    List.Forall₂ (fun b g => Group.Made d enclosing b rest g) (buckets d rows) groups := by
  rw [groupWithin] at h
  refine (forall₂_of_mapM h).imp fun b g made => ?_
  obtain ⟨matching, filtered, made⟩ := ok_of_bind made
  rw [filterRows_equality filtered] at made
  cases rest with
  | nil =>
    cases made
    exact .leaf
  | cons next more =>
    obtain ⟨subgroups, below, made⟩ := ok_of_bind made
    cases made
    exact .branch below

namespace Group.Made

variable {d : GroupDescriptor} {rest : List GroupDescriptor} {enclosing : List α} {b : Bucket α} {g : Group α}

theorem value_eq (h : Made d enclosing b rest g) : g.value = b.value := by
  cases h <;> rfl

theorem key_eq (h : Made d enclosing b rest g) : g.key = b.key :=
  congrArg (fun value => bucketKey (some value)) h.value_eq

theorem hasSubgroups_eq (h : Made d enclosing b rest g) : g.hasSubgroups = !rest.isEmpty := by
  cases h <;> rfl

end Group.Made

/-- The order in which a level goes through its rows: as they are, or sorted. A comparison that is not consistent may
leave the rows in any order. -/
structure GroupDescriptor.Arranges (d : GroupDescriptor) (rows ordered : List α) : Prop where
  perm : ordered.Perm rows
  unsorted : d.skipItemSorting = true → ordered = rows
  sorted : d.skipItemSorting = false → d.sortDescriptor.ConsistentOn rows →
    ordered.Pairwise fun a b => d.sortDescriptor.compareRows .asc (Record.lookup a) (Record.lookup b) ≠ .gt
  stable : d.skipItemSorting = false → d.sortDescriptor.ConsistentOn rows → ∀ part : List α, part.Sublist rows →
    (part.Pairwise fun a b => d.sortDescriptor.compareRows .asc (Record.lookup a) (Record.lookup b) ≠ .gt) →
    part.Sublist ordered

theorem arranges_rowsForBuckets (d : GroupDescriptor) (rows : List α) : d.Arranges rows (rowsForBuckets d rows) := by
  unfold rowsForBuckets
  cases skipped : d.skipItemSorting with
  | true =>
    rw [if_pos rfl]
    exact ⟨.refl rows, fun _ => rfl, fun sorts => absurd (skipped.symm.trans sorts) (by decide),
      fun sorts => absurd (skipped.symm.trans sorts) (by decide)⟩
  | false =>
    rw [if_neg (by decide), sortRows_one]
    exact ⟨List.mergeSort_perm _ _, fun skips => absurd (skipped.symm.trans skips) (by decide),
      fun _ consistent => (consistent.orders .asc).pairwise_mergeSort,
      fun _ consistent _ within inOrder => (consistent.orders .asc).sublist_mergeSort inOrder within⟩

structure Siblings (d : GroupDescriptor) (isLast : Bool) (ordered : List α) (groups : List (Group α)) : Prop where
  perm : (Group.rowsOfAll groups).Perm ordered
  /-- No row is beneath two of the groups, or beneath none. -/
  once : ∀ row ∈ ordered, ∃! g, g ∈ groups ∧ row ∈ g.rows
  hasSubgroups : ∀ g ∈ groups, g.hasSubgroups = !isLast
  filled : ∀ g ∈ groups, g.size ≠ 0 ∧ g.rows ≠ []
  apart : (groups.map Group.key).Nodup
  /-- Groups stand in the order in which their keys first occur. -/
  inOrder : (groups.map Group.key).Pairwise fun first second =>
    (ordered.map d.keyOf).idxOf first < (ordered.map d.keyOf).idxOf second
  /-- The value of a group is the one of the first row with its key. -/
  value : ∀ g ∈ groups, ∃ first rest, d.share ordered g.key = first :: rest ∧
    g.value = (Record.lookup first d.field).getD .null
  beneath : ∀ g ∈ groups, g.rows.Perm (d.share ordered g.key)
  leaf : isLast = true → ∀ g ∈ groups, g.rows = d.share ordered g.key

def GroupedBy : List GroupDescriptor → List α → List (Group α) → Prop
  | [], _, groups => groups = []
  | d :: rest, rows, groups =>
    ∃ ordered, d.Arranges rows ordered ∧ Siblings d rest.isEmpty ordered groups ∧
      ∀ g ∈ groups, GroupedBy rest (d.share ordered g.key) g.subgroups

theorem GroupedBy.perm {d : GroupDescriptor} {rest : List GroupDescriptor} {rows : List α} {groups : List (Group α)}
    (h : GroupedBy (d :: rest) rows groups) : (Group.rowsOfAll groups).Perm rows := by
  obtain ⟨ordered, arranged, siblings, -⟩ := h
  exact siblings.perm.trans arranged.perm

section Level

variable {d : GroupDescriptor} {rest : List GroupDescriptor} {rows enclosing : List α} {bs : List (Bucket α)}
  {groups : List (Group α)}

theorem keys_of_made (made : List.Forall₂ (fun b g => Group.Made d enclosing b rest g) bs groups) :
    groups.map Group.key = bs.map Bucket.key := by
  induction made with
  | nil => rfl
  | cons first _ ih => rw [List.map_cons, List.map_cons, first.key_eq, ih]

theorem exists_bucket_of_made (made : List.Forall₂ (fun b g => Group.Made d enclosing b rest g) bs groups)
    {g : Group α} (listed : g ∈ groups) : ∃ b ∈ bs, Group.Made d enclosing b rest g := by
  induction made with
  | nil => cases listed
  | cons first _ ih =>
    rcases List.mem_cons.1 listed with rfl | later
    · exact ⟨_, .head _, first⟩
    · obtain ⟨b, among, here⟩ := ih later
      exact ⟨b, .tail _ among, here⟩

theorem perm_rows_of_made (made : List.Forall₂ (fun b g => Group.Made d enclosing b rest g) bs groups)
    (beneath : ∀ b g, Group.Made d enclosing b rest g → g.rows.Perm b.items) :
    (Group.rowsOfAll groups).Perm (bs.flatMap Bucket.items) := by
  induction made with
  | nil => exact .nil
  | cons first _ ih =>
    rw [Group.rowsOfAll, List.flatMap_cons]
    exact (beneath _ _ first).append ih

theorem siblings_of_made (made : List.Forall₂ (fun b g => Group.Made d enclosing b rest g) (buckets d rows) groups)
    (beneath : ∀ b g, Group.Made d enclosing b rest g → g.rows.Perm b.items) :
    Siblings d rest.isEmpty (rowsForBuckets d rows) groups := by
  have filing := buckets_of d rows
  have keys := keys_of_made made
  have apart : (groups.map Group.key).Nodup := keys ▸ filing.nodup_keys
  have share {g : Group α} (listed : g ∈ groups) : ∃ b, b.Of d (rowsForBuckets d rows) ∧
      Group.Made d enclosing b rest g ∧ b.items = d.share (rowsForBuckets d rows) g.key := by
    obtain ⟨b, among, here⟩ := exists_bucket_of_made made listed
    have filled := buckets_filled among
    exact ⟨b, filled, here, here.key_eq ▸ filled.items⟩
  have rowsBeneath {g : Group α} (listed : g ∈ groups) : g.rows.Perm (d.share (rowsForBuckets d rows) g.key) := by
    obtain ⟨b, -, here, items⟩ := share listed
    exact items ▸ beneath b g here
  have nonempty {g : Group α} (listed : g ∈ groups) : g.rows ≠ [] := by
    obtain ⟨b, filled, here, -⟩ := share listed
    obtain ⟨first, others, items, -⟩ := filled.value
    intro none
    have empty := beneath b g here
    rw [none, items] at empty
    exact absurd empty.length_eq (by simp)
  have keyOf {g : Group α} (listed : g ∈ groups) {row : α} (member : row ∈ g.rows) : d.keyOf row = g.key :=
    (GroupDescriptor.mem_share.1 ((rowsBeneath listed).mem_iff.1 member)).2
  constructor
  · exact (perm_rows_of_made made beneath).trans (perm_items_buckets d rows)
  · intro row member
    obtain ⟨b, among, key⟩ := filing.covered row member
    obtain ⟨g, listed, same⟩ := List.mem_map.1 (keys.symm ▸ List.mem_map.2 ⟨b, among, key⟩)
    refine ⟨g, ⟨listed, (rowsBeneath listed).mem_iff.2 (GroupDescriptor.mem_share.2 ⟨member, same.symm⟩)⟩, ?_⟩
    rintro other ⟨among, holds⟩
    exact List.inj_on_of_nodup_map apart among listed ((keyOf among holds).symm.trans same.symm)
  · intro g listed
    obtain ⟨b, -, here, -⟩ := share listed
    exact here.hasSubgroups_eq
  · intro g listed
    refine ⟨fun empty => nonempty listed ?_, nonempty listed⟩
    cases g with
    | leaf => exact List.eq_nil_of_length_eq_zero empty
    | branch _ _ _ groups =>
      rw [Group.rows, List.eq_nil_of_length_eq_zero empty, Group.rowsOfAll]
  · exact apart
  · rw [keys]
    exact filing.inOrder
  · intro g listed
    obtain ⟨b, filled, here, items⟩ := share listed
    obtain ⟨first, others, held, value⟩ := filled.value
    exact ⟨first, others, items ▸ held, here.value_eq.trans value⟩
  · exact fun g => rowsBeneath
  · intro isLast g listed
    obtain ⟨b, -, here, items⟩ := share listed
    cases here with
    | leaf => exact items
    | branch => cases isLast

theorem groupedBy_of_ok {ds : List GroupDescriptor} {rows enclosing : List α} {groups : List (Group α)}
    (h : groupWithin ds rows enclosing = .ok groups) : GroupedBy ds rows groups := by
  induction ds generalizing rows enclosing groups with
  | nil =>
    rw [groupWithin] at h
    cases h
    rfl
  | cons d rest ih =>
    have made := groups_made h
    refine ⟨_, arranges_rowsForBuckets d rows, siblings_of_made made fun b g here => ?_, fun g listed => ?_⟩
    · cases here with
      | leaf => exact .refl _
      | branch below => exact (ih below).perm
    · obtain ⟨b, among, here⟩ := exists_bucket_of_made made listed
      rw [here.key_eq, ← (buckets_filled among).items]
      cases here with
      | leaf => rfl
      | branch below => exact ih below

end Level

/-- Grouping keeps every row once, and builds its levels one inside of the other. -/
theorem group_partitions {rows : List α} {input : GroupInput} {groups : List (Group α)}
    (h : group rows input = .ok groups) :
    input.normalize ≠ [] ∧ (Group.rowsOfAll groups).Perm rows ∧ GroupedBy input.normalize rows groups := by
  unfold group at h
  split at h
  · cases h
  · next ds given =>
    have grouped := groupedBy_of_ok h
    obtain ⟨d, rest, parts⟩ := List.exists_cons_of_ne_nil given
    rw [parts] at grouped ⊢
    exact ⟨List.cons_ne_nil _ _, grouped.perm, grouped⟩

end Rows

def visit (city year : Json) : Json := .obj [("city", city), ("year", year)]

def visits : List Json :=
  [visit (.str "a") .null, visit (.str "b") (.str "y"), visit (.str "a") (.str "x"), .obj [("city", .str "a")]]

def byCity : GroupDescriptor := { GroupDescriptor.ofField ["city"] with dir := some .desc }

def byYear : GroupDescriptor :=
  { GroupDescriptor.ofField ["year"] with skipItemSorting := true, aggregates := [⟨["year"], .count⟩] }

def visitGroups : List (Group Json) :=
  [.branch "city" (.str "b") []
      [.leaf "year" (.str "y") [("year", [(.count, .ofNat 1)])] [visit (.str "b") (.str "y")]],
    .branch "city" (.str "a") []
      [.leaf "year" .null [("year", [(.count, .ofNat 2)])] [visit (.str "a") .null, .obj [("city", .str "a")]],
        .leaf "year" (.str "x") [("year", [(.count, .ofNat 1)])] [visit (.str "a") (.str "x")]]]

theorem rowsForBuckets_byCity : rowsForBuckets byCity visits =
    [visit (.str "b") (.str "y"), visit (.str "a") .null, visit (.str "a") (.str "x"), .obj [("city", .str "a")]] := by
  cbv

theorem group_visits : group visits (.many [byCity, byYear]) = .ok visitGroups := by
  show groupWithin [byCity, byYear] visits visits = _
  rw [groupWithin, buckets, rowsForBuckets_byCity]
  rfl

theorem group_partitions_visits : group visits (.many [byCity, byYear]) = .ok visitGroups ∧
    (Group.rowsOfAll visitGroups).Perm visits ∧ GroupedBy [byCity, byYear] visits visitGroups :=
  ⟨group_visits, (group_partitions group_visits).2⟩

end RecordSync
