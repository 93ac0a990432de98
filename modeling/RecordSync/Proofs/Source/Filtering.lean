import Mathlib.Data.List.Dedup
import Mathlib.Data.List.Induction
import RecordSync.Proofs.Query.Comparing
import RecordSync.Source.Query

/-!
# The filter of a source

A source keeps its filter normalised, whichever way it is set. At the top of it an item is known by its field and by the
operator that is applied, however that is spelled, and to add an item of a known kind is to give its value to the first
item of that kind; everything else about that item, its case flag above all, stays as it was.
-/

set_option autoImplicit false

namespace RecordSync

structure FilterKey where
  field : Path
  operator : Comparison ⊕ String ⊕ String
  deriving DecidableEq

def FilterItem.key (i : FilterItem) : FilterKey := ⟨i.field, i.effectiveOperator.mark⟩

def FilterNode.key? : FilterNode → Option FilterKey
  | .item i => some i.key
  | .group _ _ => none

theorem FilterItem.key_canonical (i : FilterItem) : i.canonical.key = i.key := by
  simp [key]

theorem FilterNode.isItem_iff (item : FilterItem) (node : FilterNode) :
    node.isItem item.field item.effectiveOperator = true ↔ node.key? = some item.key := by
  cases node with
  | item i =>
    simp only [isItem, key?, FilterItem.key, Bool.and_eq_true, beq_iff_eq (a := i.field), Operator.beq_iff,
      Option.some.injEq, FilterKey.mk.injEq]
  | group logic children => simp [isItem, key?]

def FilterItem.taking (i : FilterItem) (value : Json) : FilterItem := { i with value }

/-- What becomes of the nodes at the top when an item is added: the first item of its kind takes its value, or the item
comes last if it is the first of its kind. All other nodes are kept where they are. -/
inductive Puts (item : FilterItem) : List FilterNode → List FilterNode → Prop where
  | taken {before after : List FilterNode} {old : FilterItem} (first : ∀ node ∈ before, node.key? ≠ some item.key)
      (alike : old.key = item.key) :
      Puts item (before ++ .item old :: after) (before ++ .item (old.taking item.value) :: after)
  | appended {nodes : List FilterNode} (absent : ∀ node ∈ nodes, node.key? ≠ some item.key) :
      Puts item nodes (nodes ++ [.item item.canonical])

namespace Source

variable {s t : Source} {item : FilterItem}

def filterGroup (s : Source) : FilterGroup := s.filter.getD ⟨.and, []⟩

theorem addFilter_of_fieldless (fieldless : item.field = []) (s : Source) :
    s.addFilter item = .error (.query .missingField) := by
  simp [addFilter, FilterItem.normalize, fieldless, Except.mapError, bind, Except.bind]

theorem puts_modify {nodes : List FilterNode} {index : Nat}
    (found : nodes.findIdx? (FilterNode.isItem item.field item.effectiveOperator) = some index) :
    Puts item nodes (nodes.modify index (FilterNode.withValue item.value)) := by
  obtain ⟨inside, here, earlier⟩ := List.findIdx?_eq_some_iff_getElem.1 found
  have key := (FilterNode.isItem_iff item nodes[index]).1 here
  have first : ∀ node ∈ nodes.take index, node.key? ≠ some item.key := by
    intro node listed same
    obtain ⟨place, bound, rfl⟩ := List.mem_take_iff_getElem.1 listed
    exact earlier place (by omega) ((FilterNode.isItem_iff item _).2 same)
  have split : nodes = nodes.take index ++ nodes[index] :: nodes.drop (index + 1) := by
    rw [List.getElem_cons_drop, List.take_append_drop]
  rw [List.modify_eq_take_cons_drop inside]
  cases shown : nodes[index] with
  | group logic children => simp [shown, FilterNode.key?] at key
  | item old =>
    rw [shown] at key split
    conv => arg 2; rw [split]
    exact .taken first (Option.some.inj key)

theorem addFilter_puts (present : item.field ≠ []) (s : Source) : ∃ filters,
    s.addFilter item = .ok { s with filter := some { s.filterGroup with filters } } ∧
      Puts item s.filterGroup.filters filters := by
  have normal : item.normalize = .ok item.canonical := (item.normalize_failsIff.ok_iff _).2 ⟨present, rfl⟩
  unfold addFilter
  rw [normal]
  refine ⟨_, rfl, ?_⟩
  show Puts item s.filterGroup.filters _
  rw [item.effectiveOperator_canonical, item.canonical_field]
  split
  · next index found => exact puts_modify found
  · next none =>
    refine .appended fun node listed same => ?_
    have missed := List.findIdx?_eq_none_iff.1 none node listed
    rw [(FilterNode.isItem_iff item node).2 same] at missed
    cases missed

end Source

theorem FilterNode.find?_of_first {key : FilterKey} {before after : List FilterNode} {node : FilterNode}
    (first : ∀ earlier ∈ before, earlier.key? ≠ some key) (here : node.key? = some key) :
    (before ++ node :: after).find? (·.key? = some key) = some node := by
  have passed : before.find? (·.key? = some key) = none :=
    List.find?_eq_none.2 fun earlier listed => by simpa using first earlier listed
  rw [List.find?_append, passed, Option.none_or, List.find?_cons_of_pos (by simpa using here)]

/-- The first item of its kind has the value of the item that was added. -/
theorem Puts.find? {item : FilterItem} {nodes put : List FilterNode} (h : Puts item nodes put) :
    ∃ i, put.find? (·.key? = some item.key) = some (.item i) ∧ i.value = item.value := by
  cases h with
  | taken first alike => exact ⟨_, FilterNode.find?_of_first first (congrArg some alike), rfl⟩
  | appended absent => exact ⟨_, FilterNode.find?_of_first absent (congrArg some item.key_canonical), rfl⟩

structure FilterItem.IsNormal (i : FilterItem) : Prop where
  field : i.field ≠ []
  operator : ∃ o, i.operator = some o ∧ o.IsResolved

def FilterGroup.IsNormal (g : FilterGroup) : Prop := ∀ i ∈ g.items, i.IsNormal

theorem Operator.canonicalize_of_isResolved {o : Operator} (h : o.IsResolved) : o.canonicalize = o := by
  cases o with
  | builtin c => rfl
  | inline p => rfl
  | named name =>
    have resolved := resolvesTo_parse name
    show parse name = .named name
    generalize parse name = result at resolved ⊢
    cases resolved with
    | spelled spelled => exact absurd spelled (h _)
    | custom => rfl

theorem FilterItem.isNormal_canonical {i : FilterItem} (present : i.field ≠ []) : i.canonical.IsNormal :=
  ⟨present, i.effectiveOperator, rfl, i.resolvesTo_effectiveOperator.isResolved⟩

theorem FilterItem.IsNormal.canonical_eq {i : FilterItem} (h : i.IsNormal) : i.canonical = i := by
  obtain ⟨o, given, resolved⟩ := h.operator
  have same : i.effectiveOperator = o := by
    rw [effectiveOperator, given]
    exact Operator.canonicalize_of_isResolved resolved
  rw [canonical, same, ← given]

theorem FilterGroup.IsNormal.normalize {g : FilterGroup} (h : g.IsNormal) :
    (FilterInput.group g).normalize = .ok (some g) := by
  refine ((FilterInput.normalize_failsIff (.group g)).ok_iff _).2 ⟨?_, ?_⟩
  · rintro ⟨i, listed, fieldless⟩
    exact (h i listed).field fieldless
  · have whole := FilterNode.canonicalAll_of_items g.filters fun i listed => (h i listed).canonical_eq
    show some g = some { g with filters := FilterNode.canonicalAll g.filters }
    rw [whole]

theorem isNormal_of_normalize {input : FilterInput} {g : FilterGroup} (normal : input.normalize = .ok (some g)) :
    g.IsNormal := by
  intro i listed
  obtain ⟨given, -, present, rfl⟩ := FilterInput.mem_leaves_of_normalize normal listed
  exact FilterItem.isNormal_canonical present

theorem Puts.isNormal {item : FilterItem} {nodes put : List FilterNode} (h : Puts item nodes put)
    (present : item.field ≠ []) (normal : ∀ i ∈ FilterNode.itemsOfAll nodes, i.IsNormal) :
    ∀ i ∈ FilterNode.itemsOfAll put, i.IsNormal := by
  intro i listed
  obtain ⟨node, member, inside⟩ := FilterNode.mem_itemsOfAll.1 listed
  have kept (old : node ∈ nodes) : i.IsNormal := normal i (FilterNode.mem_itemsOfAll.2 ⟨node, old, inside⟩)
  cases h with
  | @taken before after old first alike =>
    rcases List.mem_append.1 member with ahead | here
    · exact kept (List.mem_append_left _ ahead)
    · rcases List.mem_cons.1 here with rfl | behind
      · obtain rfl := List.mem_singleton.1 inside
        have was : old.IsNormal := normal old (FilterNode.mem_itemsOfAll.2 ⟨.item old, by simp, .head _⟩)
        exact ⟨was.field, was.operator⟩
      · exact kept (List.mem_append_right _ (.tail _ behind))
  | appended absent =>
    rcases List.mem_append.1 member with ahead | last
    · exact kept ahead
    · obtain rfl := List.mem_singleton.1 last
      obtain rfl := List.mem_singleton.1 inside
      exact FilterItem.isNormal_canonical present

inductive FilterCommand where
  | set (filter : FilterInput)
  | add (item : FilterItem)
  | remove (field : String) (operator : Option String)

namespace Source

variable {s t : Source}

def performFilter (s : Source) : FilterCommand → Except SourceError Source
  | .set filter => s.setFilters filter
  | .add item => s.addFilter item
  | .remove field operator => .ok (s.removeFilter field operator).2

def afterFilters (s : Source) (commands : List FilterCommand) : Source :=
  commands.foldl (fun s command => (s.performFilter command).toOption.getD s) s

def Filtered (s : Source) : Prop := ∀ g, s.filter = some g → g.IsNormal

/-- To remove an item is to erase the first one that is meant, if there is one. -/
theorem filter_removeFilter (s : Source) (field : String) (operator : Option String) : ∃ meant : FilterNode → Bool,
    (s.removeFilter field operator).2.filter = s.filter.map fun g => { g with filters := g.filters.eraseP meant } := by
  refine ⟨FilterNode.isItemOn field (operator.map fun name => (Operator.parse name).canonicalize), ?_⟩
  cases given : s.filter with
  | none => simp only [removeFilter, given, Option.map_none]
  | some group =>
    simp only [removeFilter, given]
    split
    · rfl
    · next missing =>
      rw [List.any_eq_true, not_exists] at missing
      have same := List.eraseP_of_forall_not fun node listed here => missing node ⟨listed, here⟩
      rw [given, Option.map_some, same]

theorem Filtered.filterGroup (h : s.Filtered) : s.filterGroup.IsNormal := by
  unfold Source.filterGroup
  cases given : s.filter with
  | none => intro i listed; cases listed
  | some g => exact h g given

theorem Filtered.step (h : s.Filtered) {command : FilterCommand} (done : s.performFilter command = .ok t) :
    t.Filtered := by
  intro g shown
  cases command with
  | set filter =>
    obtain ⟨normal, read, done⟩ := ok_of_bind done
    cases done
    exact isNormal_of_normalize ((ok_of_mapError read).trans (congrArg Except.ok shown))
  | add item =>
    have done : s.addFilter item = .ok t := done
    by_cases present : item.field = []
    · rw [addFilter_of_fieldless present] at done
      cases done
    · obtain ⟨filters, added, puts⟩ := addFilter_puts present s
      cases added.symm.trans done
      cases shown
      exact puts.isNormal present h.filterGroup
  | remove field operator =>
    cases done
    obtain ⟨meant, erased⟩ := s.filter_removeFilter field operator
    obtain ⟨group, given, rfl⟩ := Option.map_eq_some_iff.1 (erased.symm.trans shown)
    intro i listed
    obtain ⟨node, member, inside⟩ := FilterNode.mem_itemsOfAll.1 listed
    exact h group given i (FilterNode.mem_itemsOfAll.2 ⟨node, List.mem_of_mem_eraseP member, inside⟩)

theorem Filtered.run (h : s.Filtered) (commands : List FilterCommand) : (s.afterFilters commands).Filtered := by
  induction commands generalizing s with
  | nil => exact h
  | cons command rest ih =>
    refine ih (s := (s.performFilter command).toOption.getD s) ?_
    cases done : s.performFilter command with
    | error e => exact h
    | ok t => exact h.step done

end Source

def FilterItem.kinds (items : List FilterItem) : List FilterKey := (items.map key).reverse.dedup.reverse

/-- The first item of a kind with the value of the last one. -/
def Merges (items : List FilterItem) (kind : FilterKey) (node : FilterNode) : Prop :=
  ∃ first last, items.find? (·.key = kind) = some first ∧ items.reverse.find? (·.key = kind) = some last ∧
    node = .item (first.canonical.taking last.value)

def FilterNode.renewed (item : FilterItem) (node : FilterNode) : FilterNode :=
  if node.key? = some item.key then node.withValue item.value else node

section Merging

variable {item : FilterItem} {items : List FilterItem} {kind : FilterKey} {node : FilterNode} {nodes put : List FilterNode}

theorem FilterItem.kinds_append (items : List FilterItem) (item : FilterItem) :
    kinds (items ++ [item]) = if item.key ∈ items.map key then kinds items else kinds items ++ [item.key] := by
  simp only [kinds, List.map_append, List.map_singleton, List.reverse_concat, List.dedup_cons, List.mem_reverse]
  split
  · rfl
  · rw [List.reverse_cons]

theorem FilterItem.mem_kinds : kind ∈ kinds items ↔ kind ∈ items.map key := by
  rw [kinds, List.mem_reverse, List.mem_dedup, List.mem_reverse]

theorem FilterItem.nodup_kinds (items : List FilterItem) : (kinds items).Nodup :=
  List.nodup_reverse.2 (List.nodup_dedup _)

theorem Merges.mem (h : Merges items kind node) : kind ∈ items.map FilterItem.key := by
  obtain ⟨first, last, found, -⟩ := h
  exact List.mem_map.2 ⟨first, List.mem_of_find?_eq_some found, by simpa using List.find?_some found⟩

theorem Merges.key? (h : Merges items kind node) : node.key? = some kind := by
  obtain ⟨first, last, found, -, rfl⟩ := h
  have key : first.key = kind := by simpa using List.find?_some found
  exact congrArg some (first.key_canonical.trans key)

/-- The value of a later item replaces that of the item of its kind. -/
theorem Merges.grow (h : Merges items kind node) (item : FilterItem) :
    Merges (items ++ [item]) kind (node.renewed item) := by
  rw [FilterNode.renewed, h.key?]
  obtain ⟨first, last, found, latest, rfl⟩ := h
  by_cases same : item.key = kind
  · refine ⟨first, item, ?_, ?_, ?_⟩
    · rw [List.find?_append, found, Option.some_or]
    · rw [List.reverse_concat, List.find?_cons_of_pos (by simpa)]
    · rw [if_pos (congrArg some same.symm)]
      rfl
  · refine ⟨first, last, ?_, ?_, ?_⟩
    · rw [List.find?_append, found, Option.some_or]
    · rw [List.reverse_concat, List.find?_cons_of_neg (by simpa), latest]
    · rw [if_neg fun other => same (Option.some.inj other).symm]

theorem merges_new (fresh : item.key ∉ items.map FilterItem.key) :
    Merges (items ++ [item]) item.key (.item item.canonical) := by
  refine ⟨item, item, ?_, ?_, rfl⟩
  · have none : items.find? (·.key = item.key) = none := by
      refine List.find?_eq_none.2 fun other listed same => fresh (List.mem_map.2 ⟨other, listed, ?_⟩)
      simpa using same
    rw [List.find?_append, none, Option.none_or, List.find?_cons_of_pos (by simp)]
  · rw [List.reverse_concat, List.find?_cons_of_pos (by simp)]

theorem map_key?_of_merges {kinds : List FilterKey} (merged : List.Forall₂ (Merges items) kinds nodes) :
    nodes.map FilterNode.key? = kinds.map some := by
  induction merged with
  | nil => rfl
  | cons first _ ih => rw [List.map_cons, List.map_cons, first.key?, ih]

theorem mem_map_key_iff (merged : List.Forall₂ (Merges items) (FilterItem.kinds items) nodes) :
    kind ∈ items.map FilterItem.key ↔ ∃ node ∈ nodes, node.key? = some kind := by
  rw [← List.mem_map, map_key?_of_merges merged, ← FilterItem.mem_kinds]
  simp

/-- Where every kind comes up once, the value goes to each item of its kind. -/
theorem map_renewed {before after : List FilterNode} {old : FilterItem} (alike : old.key = item.key)
    (distinct : ((before ++ .item old :: after).map FilterNode.key?).Nodup) :
    (before ++ .item old :: after).map (·.renewed item) = before ++ .item (old.taking item.value) :: after := by
  rw [List.map_append, List.map_cons, List.nodup_middle, List.nodup_cons, List.mem_append, not_or] at distinct
  have here : (FilterNode.item old).key? = some item.key := congrArg some alike
  have kept {part : List FilterNode} (other : (FilterNode.item old).key? ∉ part.map FilterNode.key?) :
      part.map (·.renewed item) = part := by
    refine (List.map_congr_left fun node listed => if_neg fun same => other ?_).trans (List.map_id part)
    exact List.mem_map.2 ⟨node, listed, same.trans here.symm⟩
  rw [List.map_append, List.map_cons, kept distinct.1.1, kept distinct.1.2, FilterNode.renewed, if_pos here]
  rfl

theorem Puts.merges (h : Puts item nodes put)
    (merged : List.Forall₂ (Merges items) (FilterItem.kinds items) nodes) :
    List.Forall₂ (Merges (items ++ [item])) (FilterItem.kinds (items ++ [item])) put := by
  cases h with
  | @taken before after old first alike =>
    have known : item.key ∈ items.map FilterItem.key :=
      (mem_map_key_iff merged).2 ⟨.item old, by simp, congrArg some alike⟩
    have distinct : ((before ++ .item old :: after).map FilterNode.key?).Nodup := by
      rw [map_key?_of_merges merged]
      exact (FilterItem.nodup_kinds items).map fun _ _ => Option.some.inj
    rw [FilterItem.kinds_append, if_pos known, ← map_renewed alike distinct, List.forall₂_map_right_iff]
    exact merged.imp fun kind node entry => entry.grow item
  | appended absent =>
    have fresh : item.key ∉ items.map FilterItem.key := by
      intro known
      obtain ⟨node, member, same⟩ := (mem_map_key_iff merged).1 known
      exact absent node member same
    rw [FilterItem.kinds_append, if_neg fresh]
    refine List.rel_append (merged.imp fun kind node entry => ?_) (.cons (merges_new fresh) .nil)
    have other : node.key? ≠ some item.key := by
      rw [entry.key?]
      exact fun same => fresh (Option.some.inj same ▸ entry.mem)
    have grown := entry.grow item
    rwa [FilterNode.renewed, if_neg other] at grown

end Merging

namespace Source

variable {s t : Source}

theorem afterFilters_append (s : Source) (commands : List FilterCommand) (command : FilterCommand) :
    s.afterFilters (commands ++ [command]) =
      ((s.afterFilters commands).performFilter command).toOption.getD (s.afterFilters commands) := by
  rw [afterFilters, List.foldl_append]
  rfl

/-- From no filter on, items that are added make up a filter with one item of each kind. -/
theorem afterFilters_add (start : s.filter = none) (items : List FilterItem) :
    let t := s.afterFilters (items.map .add)
    let added := items.filter fun i => i.field ≠ []
    (t.filter = none ↔ added = []) ∧ t.filterGroup.logic = .and ∧
      List.Forall₂ (Merges added) (FilterItem.kinds added) t.filterGroup.filters := by
  induction items using List.reverseRecOn with
  | nil => simp [afterFilters, start, filterGroup, FilterItem.kinds]
  | append_singleton items item ih =>
    rw [List.map_append, List.map_singleton, afterFilters_append, performFilter]
    generalize s.afterFilters (items.map .add) = t at ih ⊢
    by_cases present : item.field = []
    · rw [addFilter_of_fieldless present]
      simpa [present, Except.toOption] using ih
    · obtain ⟨filters, done, puts⟩ := addFilter_puts present t
      have added : (items ++ [item]).filter (fun i => i.field ≠ []) = items.filter (fun i => i.field ≠ []) ++ [item] := by
        simp [present]
      rw [done, added]
      refine ⟨iff_of_false ?_ (by simp), ih.2.1, puts.merges ih.2.2⟩
      exact Option.some_ne_none _

/-- After any commands on the filter of a source there is none or it is normalised. An item without a field is refused.
Any other is added: the first item of its field and operator takes its value, or it comes last with its operator
resolved, and no other node changes or moves. And of items that are added to no filter one of each field and operator
remains, in the order of the first ones: it is the first one with the value of the last. -/
theorem addFilter_keyed (start : s.filter = none) (commands : List FilterCommand) :
    let t := s.afterFilters commands
    (∀ g, t.filter = some g → g.IsNormal ∧ (FilterInput.group g).normalize = .ok (some g)) ∧
    (∀ item : FilterItem, item.field = [] → t.addFilter item = .error (.query .missingField)) ∧
    (∀ item : FilterItem, item.field ≠ [] → ∃ filters,
      t.addFilter item = .ok { t with filter := some { t.filterGroup with filters } } ∧
      Puts item t.filterGroup.filters filters ∧
      ∃ i, filters.find? (·.key? = some item.key) = some (.item i) ∧ i.value = item.value) ∧
    ∀ items : List FilterItem,
      let u := s.afterFilters (items.map .add)
      let added := items.filter fun i => i.field ≠ []
      (u.filter = none ↔ added = []) ∧ u.filterGroup.logic = .and ∧
        List.Forall₂ (Merges added) (FilterItem.kinds added) u.filterGroup.filters := by
  have clear : s.Filtered := fun g given => by rw [start] at given; cases given
  refine ⟨fun g given => ?_, fun item fieldless => addFilter_of_fieldless fieldless _, fun item present => ?_,
    afterFilters_add start⟩
  · have normal := clear.run commands g given
    exact ⟨normal, normal.normalize⟩
  · obtain ⟨filters, done, puts⟩ := addFilter_puts present (s.afterFilters commands)
    exact ⟨filters, done, puts, puts.find?⟩

def nameItems : List FilterItem :=
  [.equality ["name"] (.str "foo"),
    { field := ["id"], operator := some (.named ">"), value := .ofNat 1, ignoreCase := false },
    { field := ["name"], operator := some (.named " EQ "), value := .str "BAR", ignoreCase := true }]

/-- Three items make two; and the last of them, added to a filter that has been set, gives its value away. -/
theorem addFilter_keyed_nameItems :
    let s := Source.empty .standard [] false .disabled
    let t := s.afterFilters [.set (.item (.equality ["name"] (.str "foo"))), .remove "id" none]
    let last : FilterItem := { field := ["name"], operator := some (.named " EQ "), value := .str "BAR", ignoreCase := true }
    s.filter = none ∧ (s.afterFilters (nameItems.map .add)).filterGroup.filters.length = 2 ∧
      ∃ u g i, t.addFilter last = .ok u ∧ u.filter = some g ∧
        g.filters.find? (·.key? = some last.key) = some (.item i) ∧ i.value = .str "BAR" := by
  intro s t last
  obtain ⟨-, -, added, sequence⟩ := addFilter_keyed (s := s) rfl
    [.set (.item (.equality ["name"] (.str "foo"))), .remove "id" none]
  obtain ⟨-, -, merged⟩ := sequence nameItems
  obtain ⟨filters, done, -, i, found, value⟩ := added last (by decide)
  have two : (FilterItem.kinds (nameItems.filter fun i => i.field ≠ [])).length = 2 := by decide +kernel
  exact ⟨rfl, merged.length_eq.symm.trans two, _, _, i, done, rfl, found, value⟩

/-- The item that is there takes the value of the added one and not its case flag. -/
theorem flag_not_taken :
    let s := Source.empty .standard [] false .disabled
    let last : FilterItem := { field := ["name"], operator := none, value := .str "FOO", ignoreCase := true }
    let t := s.afterFilters [.add (.equality ["name"] (.str "foo")), .add last]
    ∃ i, t.filterGroup.filters.find? (·.key? = some last.key) = some (.item i) ∧ i.value = .str "FOO" ∧
      i.ignoreCase ≠ last.ignoreCase := by
  intro s last t
  exact ⟨{ field := ["name"], operator := some (.builtin .eq), value := .str "FOO", ignoreCase := false }, rfl, rfl, by
    decide⟩

end Source

end RecordSync
