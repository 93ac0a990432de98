import RecordSync.Proofs.KeyMap
import RecordSync.Query.Group

/-!
# Filling buckets

Rows are put into buckets one after the other, with a map that tells at which place the bucket of a key stands. The map
and the buckets stay in step, so each bucket holds exactly the rows of its key, in their order, and buckets stand in the
order in which their keys first occur.
-/

set_option autoImplicit false

namespace RecordSync

@[simp] theorem bucketKey_getD_null (value : Option Json) : bucketKey (some (value.getD .null)) = bucketKey value := by
  cases value <;> rfl

def Bucket.key {α : Type} (b : Bucket α) : String := bucketKey (some b.value)

@[simp] theorem Bucket.key_put {α : Type} (b : Bucket α) (row : α) : (b.put row).key = b.key := rfl

section Rows

variable {α : Type} [Record α]

def GroupDescriptor.keyOf (d : GroupDescriptor) (row : α) : String := bucketKey (Record.lookup row d.field)

@[simp] theorem Bucket.key_opened (d : GroupDescriptor) (row : α) : (Bucket.opened d row).key = d.keyOf row :=
  bucketKey_getD_null _

def GroupDescriptor.share (d : GroupDescriptor) (rows : List α) (key : String) : List α :=
  rows.filter fun row => d.keyOf row == key

variable {d : GroupDescriptor} {rows : List α} {row : α} {key : String}

theorem GroupDescriptor.mem_share : row ∈ d.share rows key ↔ row ∈ rows ∧ d.keyOf row = key := by
  simp [share]

/-- Shares of different keys that cover all rows are the rows again, up to order. -/
theorem GroupDescriptor.perm_flatMap_share {keys : List String} (distinct : keys.Nodup)
    (covered : ∀ row ∈ rows, d.keyOf row ∈ keys) : (keys.flatMap (d.share rows)).Perm rows := by
  have part : (keys.flatMap (d.share rows)).Perm (rows.filter fun row => keys.contains (d.keyOf row)) := by
    clear covered
    induction keys with
    | nil => simp
    | cons key rest ih =>
      obtain ⟨fresh, distinct⟩ := List.nodup_cons.1 distinct
      rw [List.flatMap_cons]
      refine ((ih distinct).append_left _).trans ?_
      have first : d.share rows key = (rows.filter fun row => (key :: rest).contains (d.keyOf row)).filter
          fun row => d.keyOf row == key := by
        rw [List.filter_filter]
        refine List.filter_congr fun row _ => ?_
        by_cases same : d.keyOf row = key <;> simp [same]
      have others : (rows.filter fun row => rest.contains (d.keyOf row)) =
          (rows.filter fun row => (key :: rest).contains (d.keyOf row)).filter fun row => !(d.keyOf row == key) := by
        rw [List.filter_filter]
        refine List.filter_congr fun row _ => ?_
        by_cases same : d.keyOf row = key
        · simpa [same] using fresh
        · simp [same]
      rw [first, others]
      exact List.filter_append_perm _ _
  have all : (rows.filter fun row => keys.contains (d.keyOf row)) = rows := by
    rw [List.filter_eq_self]
    intro row listed
    simpa using covered row listed
  rwa [all] at part

structure Bucket.Of (d : GroupDescriptor) (rows : List α) (b : Bucket α) : Prop where
  field : b.field = Path.toDotted d.field
  items : b.items = d.share rows b.key
  value : ∃ first rest, b.items = first :: rest ∧ b.value = (Record.lookup first d.field).getD .null

namespace Bucket.Of

variable {b : Bucket α}

theorem key_mem (h : b.Of d rows) : b.key ∈ rows.map d.keyOf := by
  obtain ⟨first, rest, items, -⟩ := h.value
  have listed : first ∈ d.share rows b.key := by rw [← h.items, items]; exact .head _
  obtain ⟨member, key⟩ := GroupDescriptor.mem_share.1 listed
  exact List.mem_map.2 ⟨first, member, key⟩

theorem put (h : b.Of d rows) (same : d.keyOf row = b.key) :
    Bucket.Of d (rows ++ [row]) (b.put row) where
  field := h.field
  items := by
    show b.items ++ [row] = d.share (rows ++ [row]) b.key
    simp [GroupDescriptor.share, h.items, same]
  value := by
    obtain ⟨first, rest, items, value⟩ := h.value
    exact ⟨first, rest ++ [row], by simp [Bucket.put, items], value⟩

theorem skip (h : b.Of d rows) (other : d.keyOf row ≠ b.key) : b.Of d (rows ++ [row]) where
  field := h.field
  items := by
    rw [h.items]
    simp [GroupDescriptor.share, other]
  value := h.value

theorem opened (fresh : d.keyOf row ∉ rows.map d.keyOf) :
    Bucket.Of d (rows ++ [row]) (.opened d row) where
  field := rfl
  items := by
    have none : d.share rows (d.keyOf row) = [] := by
      rw [GroupDescriptor.share, List.filter_eq_nil_iff]
      intro other listed same
      exact fresh (List.mem_map.2 ⟨other, listed, beq_iff_eq.1 same⟩)
    rw [Bucket.key_opened, GroupDescriptor.share, List.filter_append]
    show [row] = d.share rows (d.keyOf row) ++ d.share [row] (d.keyOf row)
    rw [none]
    simp [GroupDescriptor.share]
  value := ⟨row, [], rfl, rfl⟩

end Bucket.Of

/-- The buckets that have been filled with some rows. -/
structure Filing.Of (d : GroupDescriptor) (rows : List α) (f : Filing α) : Prop where
  filled : ∀ b ∈ f.buckets, b.Of d rows
  inOrder : (f.buckets.map Bucket.key).Pairwise fun first second =>
    (rows.map d.keyOf).idxOf first < (rows.map d.keyOf).idxOf second
  covered : ∀ row ∈ rows, ∃ b ∈ f.buckets, b.key = d.keyOf row
  slots : ∀ key slot, KeyMap.get? f.slots key = some slot ↔ f.buckets[slot]?.map Bucket.key = some key

namespace Filing.Of

variable {f : Filing α}

theorem empty : Filing.Of d ([] : List α) .empty where
  filled := by simp [Filing.empty]
  inOrder := .nil
  covered := by simp
  slots := by simp [Filing.empty]

theorem nodup_keys (h : f.Of d rows) : (f.buckets.map Bucket.key).Nodup := by
  rw [List.nodup_iff_pairwise_ne]
  refine h.inOrder.imp fun before same => ?_
  rw [same] at before
  exact Nat.lt_irrefl _ before

theorem keyOf_not_mem (h : f.Of d rows) (unknown : KeyMap.get? f.slots key = none) : key ∉ rows.map d.keyOf := by
  intro listed
  obtain ⟨row, member, rfl⟩ := List.mem_map.1 listed
  obtain ⟨b, filled, key⟩ := h.covered row member
  obtain ⟨slot, stands⟩ := List.mem_iff_getElem?.1 filled
  have known := (h.slots (d.keyOf row) slot).2 (by rw [stands]; exact congrArg some key)
  rw [unknown] at known
  cases known

/-- The place of a key that is known is kept when one more row of a known key comes. -/
theorem idxOf_append (rows : List α) (row : α) (listed : key ∈ rows.map d.keyOf) :
    ((rows ++ [row]).map d.keyOf).idxOf key = (rows.map d.keyOf).idxOf key := by
  rw [List.map_append, List.idxOf_append, if_pos listed]

theorem key_mem (h : f.Of d rows) (listed : key ∈ f.buckets.map Bucket.key) : key ∈ rows.map d.keyOf := by
  obtain ⟨b, filled, rfl⟩ := List.mem_map.1 listed
  exact (h.filled b filled).key_mem

theorem inOrder_append (h : f.Of d rows) (row : α) : (f.buckets.map Bucket.key).Pairwise fun first second =>
    ((rows ++ [row]).map d.keyOf).idxOf first < ((rows ++ [row]).map d.keyOf).idxOf second := by
  refine h.inOrder.imp_of_mem fun first second before => ?_
  rwa [idxOf_append rows row (h.key_mem first), idxOf_append rows row (h.key_mem second)]

theorem put (h : f.Of d rows) {slot : Nat} {b : Bucket α} (stands : f.buckets[slot]? = some b)
    (same : b.key = d.keyOf row) : Filing.Of d (rows ++ [row])
      { f with buckets := f.buckets.modify slot (·.put row) } := by
  -- only the items of one bucket change, so no key does
  have keys : (f.buckets.modify slot (·.put row)).map Bucket.key =
      f.buckets.map Bucket.key := by
    apply List.ext_getElem?
    intro place
    rw [List.getElem?_map, List.getElem?_map, List.getElem?_modify]
    cases f.buckets[place]? with
    | none => rfl
    | some other => by_cases here : slot = place <;> simp [here]
  constructor
  · intro other listed
    obtain ⟨place, found⟩ := List.mem_iff_getElem?.1 listed
    rw [List.getElem?_modify] at found
    obtain ⟨old, before, rfl⟩ := Option.map_eq_some_iff.1 found
    have filled := h.filled old (List.mem_iff_getElem?.2 ⟨place, before⟩)
    by_cases here : slot = place
    · rw [← here, stands, Option.some.injEq] at before
      subst before
      rw [if_pos here]
      exact filled.put same.symm
    · rw [if_neg here]
      refine filled.skip fun key => here ?_
      have first := (h.slots old.key place).2 (by rw [before]; rfl)
      have second := (h.slots old.key slot).2 (by rw [stands, ← key, ← same]; rfl)
      exact Option.some.inj (second.symm.trans first)
  · rw [keys]
    exact h.inOrder_append row
  · intro other listed
    have known : ∃ c ∈ f.buckets, c.key = d.keyOf other := by
      rcases List.mem_append.1 listed with earlier | last
      · exact h.covered other earlier
      · rw [List.mem_singleton.1 last]
        exact ⟨b, List.mem_iff_getElem?.2 ⟨slot, stands⟩, same⟩
    have key := List.mem_map.2 known
    rw [← keys] at key
    exact List.mem_map.1 key
  · intro key place
    show KeyMap.get? f.slots key = some place ↔ _
    rw [← List.getElem?_map, keys, List.getElem?_map]
    exact h.slots key place

theorem opened (h : f.Of d rows) (unknown : KeyMap.get? f.slots (d.keyOf row) = none) : Filing.Of d (rows ++ [row])
      { buckets := f.buckets ++ [.opened d row]
        slots := KeyMap.insert f.slots (d.keyOf row) f.buckets.length } := by
  have fresh := h.keyOf_not_mem unknown
  constructor
  · intro b listed
    rcases List.mem_append.1 listed with old | new
    · exact (h.filled b old).skip fun same => fresh (same ▸ (h.filled b old).key_mem)
    · rw [List.mem_singleton.1 new]
      exact Bucket.Of.opened fresh
  · have keys : (f.buckets ++ [Bucket.opened d row]).map Bucket.key = f.buckets.map Bucket.key ++ [d.keyOf row] := by
      simp
    rw [keys, List.pairwise_append]
    refine ⟨h.inOrder_append row, List.pairwise_singleton _ _, fun first old second new => ?_⟩
    have place := List.idxOf_lt_length_of_mem (h.key_mem old)
    rw [List.mem_singleton.1 new, idxOf_append rows row (h.key_mem old), List.map_append, List.idxOf_append,
      if_neg fresh]
    omega
  · intro other listed
    rcases List.mem_append.1 listed with earlier | last
    · obtain ⟨b, old, same⟩ := h.covered other earlier
      exact ⟨b, List.mem_append_left _ old, same⟩
    · rw [List.mem_singleton.1 last]
      exact ⟨_, List.mem_append_right _ (.head _), Bucket.key_opened d row⟩
  · intro other place
    rw [KeyMap.get?_insert, List.getElem?_append]
    have old := h.slots other place
    by_cases same : d.keyOf row = other
    · subst same
      rw [unknown] at old
      rw [if_pos rfl]
      rcases Nat.lt_trichotomy place f.buckets.length with within | rfl | beyond
      · rw [if_pos within]
        simp only [Option.some.injEq]
        constructor
        · rintro rfl
          exact absurd within (Nat.lt_irrefl _)
        · intro known
          cases old.2 known
      · simp
      · rw [if_neg (by omega), List.getElem?_eq_none (by simp; omega)]
        simp
        omega
    · rw [if_neg same, old]
      split
      · rfl
      · next beyond =>
        rw [List.getElem?_eq_none (Nat.not_lt.1 beyond)]
        cases later : place - f.buckets.length with
        | zero => simpa using same
        | succ n => simp

theorem add (h : f.Of d rows) (row : α) : (f.add d row).Of d (rows ++ [row]) := by
  unfold Filing.add
  simp only []
  split
  · next slot known =>
    obtain ⟨b, stands, same⟩ := Option.map_eq_some_iff.1 ((h.slots _ slot).1 known)
    exact h.put stands same
  · next unknown => exact h.opened unknown

theorem foldl (h : f.Of d rows) (more : List α) : (more.foldl (Filing.add d) f).Of d (rows ++ more) := by
  induction more generalizing f rows with
  | nil => simpa using h
  | cons row rest ih => simpa using ih (h.add row)

end Filing.Of

theorem buckets_of (d : GroupDescriptor) (rows : List α) :
    ((rowsForBuckets d rows).foldl (Filing.add d) .empty).Of d (rowsForBuckets d rows) := by
  simpa using Filing.Of.empty.foldl (rowsForBuckets d rows)

theorem buckets_filled {b : Bucket α} (h : b ∈ buckets d rows) : b.Of d (rowsForBuckets d rows) :=
  (buckets_of d rows).filled b h

theorem perm_rowsForBuckets (d : GroupDescriptor) (rows : List α) : (rowsForBuckets d rows).Perm rows := by
  unfold rowsForBuckets
  split
  · exact .refl rows
  · exact List.mergeSort_perm _ _

theorem perm_share_of_bucket {b : Bucket α} (h : b ∈ buckets d rows) : b.items.Perm (d.share rows b.key) := by
  rw [(buckets_filled h).items]
  exact (perm_rowsForBuckets d rows).filter _

theorem perm_items_buckets (d : GroupDescriptor) (rows : List α) :
    ((buckets d rows).flatMap Bucket.items).Perm (rowsForBuckets d rows) := by
  have filing := buckets_of d rows
  have shares : (buckets d rows).flatMap Bucket.items =
      ((buckets d rows).map Bucket.key).flatMap (d.share (rowsForBuckets d rows)) := by
    rw [List.flatMap_map, List.flatMap_def, List.flatMap_def]
    exact congrArg List.flatten (List.map_congr_left fun b listed => (buckets_filled listed).items)
  rw [shares]
  refine d.perm_flatMap_share filing.nodup_keys fun row listed => ?_
  obtain ⟨b, filled, key⟩ := filing.covered row listed
  exact List.mem_map.2 ⟨b, filled, key⟩

end Rows

end RecordSync
