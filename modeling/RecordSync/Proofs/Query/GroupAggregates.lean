import RecordSync.Proofs.Query.BucketKeys
import RecordSync.Proofs.Query.Grouping

/-!
# Aggregates of groups

A group lists the rows that have its key and the keys of the groups above it. Its aggregates are computed over the rows
of the whole input whose values are loosely equal to its value and to those of the groups above it. Values with different
keys may be equal, so there may be more of the latter. The two agree exactly when no row of the input has equal values
without having the keys, or the other way round.
-/

set_option autoImplicit false

namespace RecordSync

theorem perm_filter_iff {α : Type} {p q : α → Bool} {rows : List α} :
    (rows.filter p).Perm (rows.filter q) ↔ ∀ row ∈ rows, p row = q row := by
  constructor
  · intro perm row listed
    have same := perm.mem_iff (a := row)
    rw [List.mem_filter, List.mem_filter] at same
    rw [Bool.eq_iff_iff]
    exact ⟨fun h => (same.1 ⟨listed, h⟩).2, fun h => (same.2 ⟨listed, h⟩).2⟩
  · intro same
    rw [List.filter_congr same]

theorem AggregateMethod.mem_all (m : AggregateMethod) : m ∈ all := by cases m <;> decide

namespace AggregateDescriptor

def asks (field : String) (method : AggregateMethod) (d : AggregateDescriptor) : Bool :=
  Path.toDotted d.field == field && d.method == method

end AggregateDescriptor

/-- The values of a result are those of the fields that are asked for. -/
theorem get?_aggregate {α : Type} [Record α] {rows : List α} (nonempty : rows ≠ []) (ds : List AggregateDescriptor)
    (field : String) (method : AggregateMethod) : (aggregate rows ds).get? field method =
      if field ∈ ds.map fun d => Path.toDotted d.field then aggregateValue (rows.map Record.lookup) ds field method
      else none := by
  have stored := KeyMap.get?_ofList_map (fun d : AggregateDescriptor => Path.toDotted d.field) (fun field =>
    AggregateMethod.all.filterMap fun m => (aggregateValue (rows.map Record.lookup) ds field m).map (m, ·)) ds field
  unfold aggregate AggregateResult.get?
  rw [if_neg (by simpa using nonempty)]
  refine (congrArg (Option.bind · (List.lookup method)) stored).trans ?_
  split
  · exact (KeyMap.lookup_filterMap _ _ method).trans (if_pos method.mem_all)
  · rfl

theorem Accumulator.foldl_step_count (isLast : Bool) (row : Lookup) {paths : List Path} (nonempty : paths ≠ [])
    (acc : Accumulator) : paths.foldl (fun acc path => step .count isLast acc (row path)) acc =
      ⟨some (.ofNat (acc.count + paths.length)), acc.count + paths.length⟩ := by
  induction paths generalizing acc with
  | nil => exact absurd rfl nonempty
  | cons path rest ih =>
    rw [List.foldl_cons, step]
    cases rest with
    | nil => rfl
    | cons next more =>
      rw [ih (List.cons_ne_nil _ _)]
      simp only [List.length_cons, Nat.add_assoc, Nat.add_comm 1]

theorem Accumulator.fold_count {paths : List Path} (asked : paths ≠ []) (acc : Accumulator) (rows : List Lookup) :
    fold .count paths acc rows = if rows = [] then acc else
      ⟨some (.ofNat (acc.count + rows.length * paths.length)), acc.count + rows.length * paths.length⟩ := by
  induction rows generalizing acc with
  | nil => rfl
  | cons row rest ih =>
    rw [fold, ih, foldl_step_count _ row asked, if_neg (List.cons_ne_nil _ _)]
    cases rest with
    | nil => simp
    | cons next more =>
      rw [if_neg (List.cons_ne_nil _ _)]
      simp only [List.length_cons, Nat.succ_mul, Nat.add_assoc, Nat.add_comm paths.length]

theorem aggregateValue_eq (rows : List Lookup) (ds : List AggregateDescriptor) (field : String)
    (method : AggregateMethod) : aggregateValue rows ds field method =
      (Accumulator.fold method ((ds.filter (·.asks field method)).map (·.field)) .start rows).value :=
  rfl

/-- A count is the number of rows times that of the descriptors that ask for it. -/
theorem aggregateValue_count {rows : List Lookup} (nonempty : rows ≠ []) {ds : List AggregateDescriptor}
    {field : String} (asked : 0 < ds.countP (·.asks field .count)) :
    aggregateValue rows ds field .count = some (.ofNat (rows.length * ds.countP (·.asks field .count))) := by
  rw [List.countP_eq_length_filter] at asked ⊢
  have paths : (ds.filter (·.asks field .count)).map (·.field) ≠ [] :=
    fun none => List.length_pos_iff.1 asked (List.map_eq_nil_iff.1 none)
  rw [aggregateValue_eq, Accumulator.fold_count paths, if_neg nonempty, List.length_map]
  simp only [Accumulator.start, Nat.zero_add]

theorem aggregate_count {α : Type} [Record α] {rows : List α} (nonempty : rows ≠ []) {ds : List AggregateDescriptor}
    {field : String} (once : ds.countP (·.asks field .count) = 1) :
    (aggregate rows ds).get? field .count = some (.ofNat rows.length) := by
  have asked : 0 < ds.countP (·.asks field .count) := once ▸ Nat.one_pos
  obtain ⟨d, listed, asks⟩ := List.countP_pos_iff.1 asked
  rw [AggregateDescriptor.asks, Bool.and_eq_true, beq_iff_eq, beq_iff_eq] at asks
  rw [get?_aggregate nonempty, if_pos (List.mem_map.2 ⟨d, listed, asks.1⟩),
    aggregateValue_count (by simpa using nonempty) asked, once, Nat.mul_one, List.length_map]

abbrev Way := List (GroupDescriptor × Json)

section Rows

variable {α : Type} [Record α]

namespace Way

def equals (way : Way) (row : α) : Bool :=
  way.all fun step => (step.1.scalarOf row).looseEq (Scalar.of (some step.2) false)

def leads (way : Way) (row : α) : Bool := way.all fun step => step.1.keyOf row == bucketKey (some step.2)

/-- No row has equal values without having the keys, or the keys without having equal values. -/
def Exact (way : Way) (rows : List α) : Prop := ∀ row ∈ rows, way.equals row = way.leads row

theorem filter_equals_append (way : Way) (d : GroupDescriptor) (value : Json) (rows : List α) :
    rows.filter (way ++ [(d, value)]).equals = d.matching (rows.filter way.equals) value := by
  rw [GroupDescriptor.matching, List.filter_filter]
  refine List.filter_congr fun row _ => ?_
  simp [equals, GroupDescriptor.scalarOf, Bool.and_comm]

theorem filter_leads_append (way : Way) (d : GroupDescriptor) (value : Json) (rows : List α) :
    rows.filter (way ++ [(d, value)]).leads = d.share (rows.filter way.leads) (bucketKey (some value)) := by
  rw [GroupDescriptor.share, List.filter_filter]
  refine List.filter_congr fun row _ => ?_
  simp [leads, Bool.and_comm]

end Way

/-- Two rows have loosely equal values just when they have one key. -/
def GroupDescriptor.Fits (d : GroupDescriptor) (rows : List α) : Prop :=
  ∀ row ∈ rows, ∀ other ∈ rows, (d.scalarOf row).looseEq (d.scalarOf other) = true ↔ d.keyOf row = d.keyOf other

def GroupDescriptor.Occurs (d : GroupDescriptor) (rows : List α) (value : Json) : Prop :=
  ∃ row ∈ rows, value = (Record.lookup row d.field).getD .null

theorem Scalar.looseEq_getD_null (a : Scalar) (value : Option Json) :
    a.looseEq (Scalar.of (some (value.getD .null)) false) = a.looseEq (Scalar.of value false) := by
  cases value with
  | some j => rfl
  | none => cases a <;> rfl

/-- Where all descriptors fit the rows, every way through values of the rows is exact. -/
theorem Way.exact_of_fits {way : Way} {rows : List α} (occurs : ∀ step ∈ way, step.1.Occurs rows step.2)
    (fits : ∀ step ∈ way, step.1.Fits rows) : way.Exact rows := by
  intro row listed
  have agree (step : GroupDescriptor × Json) (member : step ∈ way) :
      (step.1.scalarOf row).looseEq (Scalar.of (some step.2) false) =
        (step.1.keyOf row == bucketKey (some step.2)) := by
    obtain ⟨first, among, value⟩ := occurs step member
    rw [value, Scalar.looseEq_getD_null, bucketKey_getD_null, Bool.eq_iff_iff, beq_iff_eq]
    exact fits step member row listed first among
  rw [Bool.eq_iff_iff, equals, leads, List.all_eq_true, List.all_eq_true]
  exact forall₂_congr fun step member => by rw [agree step member]

def Group.way (above : Way) (d : GroupDescriptor) (g : Group α) : Way := above ++ [(d, g.value)]

/-- The aggregates of one level of a tree of groups. The level divides `part`, the rows beneath the group above, which is
reached on the way `above`; at the top these are all rows. -/
structure Tallied (rows : List α) (above : Way) (d : GroupDescriptor) (part : List α) (groups : List (Group α)) :
    Prop where
  /-- The aggregates are computed over the rows with equal values. -/
  aggregates : ∀ g ∈ groups, g.aggregates = aggregate (rows.filter (g.way above d).equals) d.aggregates
  /-- These are the rows beneath the group exactly when equal values and keys agree about all rows. -/
  perm_iff : ∀ g ∈ groups, (rows.filter (g.way above d).equals).Perm g.rows ↔ (g.way above d).Exact rows
  /-- They agree if they do for any two rows and each field. -/
  exact : (∀ step ∈ above, step.1.Fits rows) → d.Fits rows → ∀ g ∈ groups, (g.way above d).Exact rows
  /-- Then a count that is asked for once is the number of rows beneath the group. -/
  count : ∀ g ∈ groups, (g.way above d).Exact rows → ∀ field, d.aggregates.countP (·.asks field .count) = 1 →
    g.aggregates.get? field .count = some (.ofNat g.rows.length)
  /-- The counts of a level add up to the number of rows that it divides. -/
  sum : (∀ g ∈ groups, (g.way above d).Exact rows) → ∀ field, d.aggregates.countP (·.asks field .count) = 1 →
    ∃ counts : List Nat, (groups.map fun g => g.aggregates.get? field .count) = counts.map (fun n => some (.ofNat n)) ∧
      counts.sum = part.length

def TalliedBy (rows : List α) : List GroupDescriptor → Way → List α → List (Group α) → Prop
  | [], _, _, groups => groups = []
  | d :: rest, above, part, groups =>
    Tallied rows above d part groups ∧ ∀ g ∈ groups, TalliedBy rows rest (g.way above d) g.rows g.subgroups

section Level

variable {rows level part enclosing : List α} {above : Way} {d : GroupDescriptor} {rest : List GroupDescriptor}
  {b : Bucket α} {g : Group α} {groups : List (Group α)}

theorem Group.Made.perm_rows (h : Made d enclosing b rest g) : g.rows.Perm b.items := by
  cases h with
  | leaf => exact .refl _
  | branch below => exact (groupedBy_of_ok below).perm

theorem Group.Made.aggregates_eq (h : Made d enclosing b rest g) :
    g.aggregates = aggregate (d.matching enclosing g.value) d.aggregates := by
  cases h <;> rfl

theorem occurs_of_bucket (listed : b ∈ buckets d level) : d.Occurs level b.value := by
  obtain ⟨first, others, items, value⟩ := (buckets_filled listed).value
  have held : first ∈ b.items := by
    rw [items]
    exact .head _
  exact ⟨first, (GroupDescriptor.mem_share.1 ((perm_share_of_bucket listed).mem_iff.1 held)).1, value⟩

/-- The rows at the end of a way through values that rows have. -/
structure Beneath (rows : List α) (above : Way) (level : List α) : Prop where
  perm : level.Perm (rows.filter above.leads)
  occurs : ∀ step ∈ above, step.1.Occurs rows step.2

theorem Beneath.bucket (h : Beneath rows above level) (listed : b ∈ buckets d level) :
    Beneath rows (above ++ [(d, b.value)]) b.items where
  perm := by
    rw [Way.filter_leads_append]
    exact (perm_share_of_bucket listed).trans (h.perm.filter _)
  occurs step member := by
    rcases List.mem_append.1 member with earlier | last
    · exact h.occurs step earlier
    · rw [List.mem_singleton.1 last]
      obtain ⟨row, among, value⟩ := occurs_of_bucket listed
      exact ⟨row, (List.mem_filter.1 (h.perm.mem_iff.1 among)).1, value⟩

theorem Beneath.group (h : Beneath rows above level) (made : Group.Made d enclosing b rest g)
    (listed : b ∈ buckets d level) : Beneath rows (g.way above d) g.rows := by
  have held := h.bucket listed
  rw [Group.way, made.value_eq]
  exact ⟨made.perm_rows.trans held.perm, held.occurs⟩

theorem tallied_of_made (beneath : Beneath rows above level) (same : part.Perm level)
    (made : List.Forall₂ (fun b g => Group.Made d (rows.filter above.equals) b rest g) (buckets d level) groups) :
    Tallied rows above d part groups := by
  have siblings := siblings_of_made made fun _ _ => Group.Made.perm_rows
  have aggregates (g : Group α) (listed : g ∈ groups) :
      g.aggregates = aggregate (rows.filter (g.way above d).equals) d.aggregates := by
    obtain ⟨b, -, here⟩ := exists_bucket_of_made made listed
    rw [here.aggregates_eq, Group.way, Way.filter_equals_append]
  have reached (g : Group α) (listed : g ∈ groups) : Beneath rows (g.way above d) g.rows := by
    obtain ⟨b, among, here⟩ := exists_bucket_of_made made listed
    exact beneath.group here among
  have perm_iff (g : Group α) (listed : g ∈ groups) :
      (rows.filter (g.way above d).equals).Perm g.rows ↔ (g.way above d).Exact rows := by
    rw [List.Perm.congr_right (reached g listed).perm, perm_filter_iff]
    rfl
  have count (g : Group α) (listed : g ∈ groups) (exact : (g.way above d).Exact rows) (field : String)
      (once : d.aggregates.countP (·.asks field .count) = 1) :
      g.aggregates.get? field .count = some (.ofNat g.rows.length) := by
    have perm := (perm_iff g listed).2 exact
    have nonempty : rows.filter (g.way above d).equals ≠ [] := fun none =>
      (siblings.filled g listed).2 (none ▸ perm).nil_eq.symm
    rw [aggregates g listed, aggregate_count nonempty once, perm.length_eq]
  refine ⟨aggregates, perm_iff, fun fits fitting g listed => ?_, count, fun exact field once => ?_⟩
  · refine Way.exact_of_fits (reached g listed).occurs fun step member => ?_
    rcases List.mem_append.1 member with earlier | last
    · exact fits step earlier
    · rw [List.mem_singleton.1 last]
      exact fitting
  · refine ⟨groups.map (·.rows.length), ?_, ?_⟩
    · rw [List.map_map]
      exact List.map_congr_left fun g listed => count g listed (exact g listed) field once
    · have perm := siblings.perm.trans (perm_rowsForBuckets d level)
      rw [← List.length_flatMap, ← Group.rowsOfAll_eq, perm.length_eq, same.length_eq]

theorem talliedBy_of_ok {ds : List GroupDescriptor} (beneath : Beneath rows above level) (same : part.Perm level)
    (h : groupWithin ds level (rows.filter above.equals) = .ok groups) : TalliedBy rows ds above part groups := by
  induction ds generalizing level part above groups with
  | nil =>
    rw [groupWithin] at h
    cases h
    rfl
  | cons d rest ih =>
    have made := groups_made h
    refine ⟨tallied_of_made beneath same made, fun g listed => ?_⟩
    obtain ⟨b, among, here⟩ := exists_bucket_of_made made listed
    have reached := beneath.bucket among
    have perm := here.perm_rows
    rw [← here.value_eq] at reached
    cases here with
    | leaf => rfl
    | branch below =>
      rw [← Way.filter_equals_append] at below
      exact ih reached perm below

end Level

/-- The aggregates of a group are computed over the rows of the input that are equal to it and to the groups above it;
these are the rows that the group lists exactly when equal values and keys agree. -/
theorem group_aggregates {rows : List α} {input : GroupInput} {groups : List (Group α)}
    (h : group rows input = .ok groups) : TalliedBy rows input.normalize [] rows groups := by
  have all : rows.filter (Way.equals []) = rows := List.filter_eq_self.2 fun _ _ => rfl
  have top : Beneath rows [] rows := ⟨.of_eq (List.filter_eq_self.2 fun _ _ => rfl).symm, by simp⟩
  unfold group at h
  split at h
  · cases h
  · refine talliedBy_of_ok top (.refl rows) ?_
    rwa [all]

/-- Values of one kind fit, as long as no text among them spells another value. -/
theorem GroupDescriptor.fits_of_oneKind {d : GroupDescriptor} {rows : List α} (wellFormed : d.WellFormedOn rows)
    (kinds : ∀ row ∈ rows, ∀ other ∈ rows, (d.scalarOf row).OneKind (d.scalarOf other))
    (unspelled : ∀ row ∈ rows, ∀ other ∈ rows, ¬(d.scalarOf row).Spells (d.scalarOf other)) : d.Fits rows := by
  intro row listed other listed'
  rw [d.keyOf_eq, d.keyOf_eq]
  refine Scalar.looseEq_iff_key_eq (wellFormed.scalarOf listed) (wellFormed.scalarOf listed')
    (kinds row listed other listed') ?_
  rintro (spells | spells)
  · exact unspelled row listed other listed' spells
  · exact unspelled other listed' row listed spells

instance (d : GroupDescriptor) (rows : List α) : Decidable (d.Fits rows) :=
  inferInstanceAs (Decidable (∀ row ∈ rows, ∀ other ∈ rows, _ ↔ _))

end Rows

theorem group_aggregates_visits : group visits (.many [byCity, byYear]) = .ok visitGroups ∧
    byCity.Fits visits ∧ byYear.Fits visits ∧ TalliedBy visits [byCity, byYear] [] visits visitGroups :=
  ⟨group_visits, by decide, by decide, group_aggregates group_visits⟩

def flags : List Json := [reading (.bool false), reading (.str "")]

def byFlag : GroupDescriptor :=
  { GroupDescriptor.ofField ["v"] with skipItemSorting := true, aggregates := [⟨["v"], .count⟩] }

/-- Two groups of one row each, both of which count two. -/
theorem group_counts_equal_values : ∃ groups, group flags (.one byFlag) = .ok groups ∧
    ∀ g ∈ groups, g.rows.length = 1 ∧ g.aggregates.get? "v" .count = some (.ofNat 2) := by
  refine ⟨[.leaf "v" (.bool false) [("v", [(.count, .ofNat 2)])] [reading (.bool false)],
    .leaf "v" (.str "") [("v", [(.count, .ofNat 2)])] [reading (.str "")]], ?_, ?_⟩
  · rfl
  · exact List.forall_mem_cons.2 ⟨⟨rfl, rfl⟩, List.forall_mem_singleton.2 ⟨rfl, rfl⟩⟩

end RecordSync
