import RecordSync.Proofs.Except
import RecordSync.Query.Group

/-!
# What a filter means

A filter is read directly along its tree, with each item judged on its own. Compiling it first puts it into canonical
form and binds patterns and custom operators; it fails exactly on items that cannot be bound, whatever the rows are,
and otherwise the test that results is the direct reading. What patterns mean is left open.
-/

set_option autoImplicit false

namespace RecordSync

theorem Operator.canonicalize_canonicalize (o : Operator) : o.canonicalize.canonicalize = o.canonicalize := by
  cases o with
  | builtin c => rfl
  | inline p => rfl
  | named name =>
    show (parse name).canonicalize = parse name
    cases found : Comparison.ofName? (Unicode.toLower (Unicode.trim name)) with
    | none => simp [parse, canonicalize, found]
    | some c => simp [parse, canonicalize, found]

def FilterItem.canonical (i : FilterItem) : FilterItem := { i with operator := some i.effectiveOperator }

namespace FilterItem

@[simp] theorem canonical_field (i : FilterItem) : i.canonical.field = i.field := rfl

@[simp] theorem canonical_value (i : FilterItem) : i.canonical.value = i.value := rfl

@[simp] theorem canonical_ignoreCase (i : FilterItem) : i.canonical.ignoreCase = i.ignoreCase := rfl

@[simp] theorem effectiveOperator_canonical (i : FilterItem) :
    i.canonical.effectiveOperator = i.effectiveOperator :=
  Operator.canonicalize_canonicalize _

theorem normalize_failsIff (i : FilterItem) : FailsIff (i.field = []) i.canonical i.normalize := by
  unfold normalize
  split
  · next empty => exact .error _ (List.isEmpty_iff.1 empty)
  · next present => exact .ok fun empty => present (List.isEmpty_iff.2 empty)

end FilterItem

namespace FilterNode

mutual

def canonical : FilterNode → FilterNode
  | .item i => .item i.canonical
  | .group logic children => .group logic (canonicalAll children)

def canonicalAll : List FilterNode → List FilterNode
  | [] => []
  | node :: rest => canonical node :: canonicalAll rest

end

mutual

theorem items_canonical : (node : FilterNode) → node.canonical.items = node.items.map FilterItem.canonical
  | .item i => by simp [canonical, items]
  | .group logic children => by simp [canonical, items, itemsOfAll_canonicalAll children]

theorem itemsOfAll_canonicalAll : (nodes : List FilterNode) →
    itemsOfAll (canonicalAll nodes) = (itemsOfAll nodes).map FilterItem.canonical
  | [] => rfl
  | node :: rest => by simp [canonicalAll, itemsOfAll, items_canonical node, itemsOfAll_canonicalAll rest]

end

mutual

theorem normalize_failsIff : (node : FilterNode) →
    FailsIff (∃ i ∈ node.items, i.field = []) node.canonical node.normalize
  | .item i => by
    simp only [normalize, canonical, items, List.mem_singleton, exists_eq_left]
    exact i.normalize_failsIff.map _
  | .group logic children => by
    simp only [normalize, canonical, items]
    exact (normalizeAll_failsIff children).map _

theorem normalizeAll_failsIff : (nodes : List FilterNode) →
    FailsIff (∃ i ∈ itemsOfAll nodes, i.field = []) (canonicalAll nodes) (normalizeAll nodes)
  | [] => .ok (by simp [itemsOfAll])
  | node :: rest => by
    simp only [normalizeAll, canonicalAll]
    apply FailsIff.congr
    · apply (normalize_failsIff node).bind
      exact (normalizeAll_failsIff rest).map _
    · simp [itemsOfAll, or_and_right, exists_or]

end

end FilterNode

namespace FilterGroup

def canonical (g : FilterGroup) : FilterGroup := { g with filters := FilterNode.canonicalAll g.filters }

theorem normalize_failsIff (g : FilterGroup) :
    FailsIff (∃ i ∈ g.items, i.field = []) g.canonical g.normalize :=
  (FilterNode.normalizeAll_failsIff g.filters).map _

theorem isEmpty_canonical (g : FilterGroup) : g.canonical.isEmpty = g.isEmpty := by
  obtain ⟨logic, filters⟩ := g
  cases filters <;> rfl

end FilterGroup

namespace FilterInput

def leaves : FilterInput → List FilterItem
  | .absent => []
  | .item i => [i]
  | .items is => is
  | .group g => g.items

theorem itemsOfAll_map_item (is : List FilterItem) : FilterNode.itemsOfAll (is.map .item) = is := by
  induction is with
  | nil => rfl
  | cons i rest ih => simp [FilterNode.itemsOfAll, FilterNode.items, ih]

end FilterInput

variable [PatternEngine]

namespace FilterItem

def pattern? (i : FilterItem) : Option (String → Bool) :=
  i.value.str?.bind fun literal => PatternEngine.compile? (patternText literal) i.ignoreCase

inductive Unbound (table : OperatorTable) (i : FilterItem) : Prop where
  | unknown (name : String) : i.effectiveOperator = .named name → table.contains name = false → Unbound table i
  | unreadable : i.effectiveOperator = .builtin .matchesPattern ∨
      i.effectiveOperator = .builtin .doesNotMatchPattern → i.pattern? = none → Unbound table i

/-- An item that no filter can use: it has no field, names an operator that the table does not hold, or asks for a
pattern that is no text or cannot be read. -/
def Faulty (table : OperatorTable) (i : FilterItem) : Prop := i.field = [] ∨ i.Unbound table

def admits (table : OperatorTable) (i : FilterItem) (left : Option Json) : Bool :=
  match i.effectiveOperator with
  | .named name => (table.find? name).any fun test => test left i.value i.ignoreCase
  | o => o.evaluate left i.value i.ignoreCase

def holds (table : OperatorTable) (row : Lookup) (i : FilterItem) : Bool := i.admits table (row i.field)

@[simp] theorem unbound_canonical (table : OperatorTable) (i : FilterItem) :
    i.canonical.Unbound table ↔ i.Unbound table := by
  have pattern : i.canonical.pattern? = i.pattern? := rfl
  constructor
  · intro h
    cases h with
    | unknown name named absent => exact .unknown name (by simpa using named) absent
    | unreadable asks none => exact .unreadable (by simpa using asks) (pattern ▸ none)
  · intro h
    cases h with
    | unknown name named absent => exact .unknown name (by simpa using named) absent
    | unreadable asks none => exact .unreadable (by simpa using asks) (pattern ▸ none)

@[simp] theorem holds_canonical (table : OperatorTable) (row : Lookup) (i : FilterItem) :
    i.canonical.holds table row = i.holds table row := by
  simp [holds, admits]

end FilterItem

namespace FilterNode

variable (table : OperatorTable)

mutual

def holds (row : Lookup) : FilterNode → Bool
  | .item i => i.holds table row
  | .group .and children => allHold row children
  | .group .or children => anyHolds row children

def allHold (row : Lookup) : List FilterNode → Bool
  | [] => true
  | node :: rest => holds row node && allHold row rest

def anyHolds (row : Lookup) : List FilterNode → Bool
  | [] => false
  | node :: rest => holds row node || anyHolds row rest

end

theorem allHold_eq (row : Lookup) (nodes : List FilterNode) :
    allHold table row nodes = nodes.all (holds table row) := by
  induction nodes with
  | nil => rfl
  | cons node rest ih => simp [allHold, ih]

theorem anyHolds_eq (row : Lookup) (nodes : List FilterNode) :
    anyHolds table row nodes = nodes.any (holds table row) := by
  induction nodes with
  | nil => rfl
  | cons node rest ih => simp [anyHolds, ih]

mutual

theorem holds_canonical (row : Lookup) : (node : FilterNode) →
    holds table row node.canonical = holds table row node
  | .item i => by simp [canonical, holds]
  | .group .and children => by simp [canonical, holds, allHold_canonicalAll row children]
  | .group .or children => by simp [canonical, holds, anyHolds_canonicalAll row children]

theorem allHold_canonicalAll (row : Lookup) : (nodes : List FilterNode) →
    allHold table row (canonicalAll nodes) = allHold table row nodes
  | [] => rfl
  | node :: rest => by simp [canonicalAll, allHold, holds_canonical row node, allHold_canonicalAll row rest]

theorem anyHolds_canonicalAll (row : Lookup) : (nodes : List FilterNode) →
    anyHolds table row (canonicalAll nodes) = anyHolds table row nodes
  | [] => rfl
  | node :: rest => by simp [canonicalAll, anyHolds, holds_canonical row node, anyHolds_canonicalAll row rest]

end

end FilterNode

namespace FilterItem

theorem compilePattern_of_some {i : FilterItem} {occurs : String → Bool} (read : i.pattern? = some occurs) :
    compilePattern i.value i.ignoreCase = .ok occurs := by
  unfold pattern? at read
  cases value : i.value with
  | str literal =>
    have compiled : PatternEngine.compile? (patternText literal) i.ignoreCase = some occurs := by
      simpa [value, Json.str?] using read
    simp [compilePattern, compiled]
  | _ => simp [value, Json.str?] at read

theorem compilePattern_of_none {i : FilterItem} (unread : i.pattern? = none) :
    ∃ cause, compilePattern i.value i.ignoreCase = .error cause := by
  unfold pattern? at unread
  cases value : i.value with
  | str literal =>
    have failed : PatternEngine.compile? (patternText literal) i.ignoreCase = none := by
      simpa [value, Json.str?] using unread
    exact ⟨.patternNotReadable literal, by simp [compilePattern, failed]⟩
  | _ => exact ⟨_, rfl⟩

variable {table : OperatorTable} {i : FilterItem}

theorem compile_of_unbound (h : i.Unbound table) :
    ∃ cause, table.compile i.effectiveOperator i.value i.ignoreCase = .error cause := by
  cases h with
  | unknown name named absent =>
    have missing : table.find? name = none := by simpa [OperatorTable.contains] using absent
    exact ⟨.unknownOperator name, by simp [named, OperatorTable.compile, missing]⟩
  | unreadable asks unread =>
    obtain ⟨cause, failed⟩ := compilePattern_of_none unread
    refine ⟨cause, ?_⟩
    rcases asks with asks | asks <;> simp [asks, OperatorTable.compile, failed, bind, Except.bind]

/-- A pattern that is read once tests every value as if it were read for that value. -/
theorem compile_of_bound (h : ¬i.Unbound table) :
    table.compile i.effectiveOperator i.value i.ignoreCase = .ok (i.admits table) := by
  have readable (asks : i.effectiveOperator = .builtin .matchesPattern ∨
      i.effectiveOperator = .builtin .doesNotMatchPattern) :
      ∃ occurs, compilePattern i.value i.ignoreCase = .ok occurs := by
    cases read : i.pattern? with
    | none => exact absurd (.unreadable asks read) h
    | some occurs => exact ⟨occurs, compilePattern_of_some read⟩
  unfold admits
  cases operator : i.effectiveOperator with
  | named name =>
    cases found : table.find? name with
    | none => exact absurd (.unknown name operator (by simp [OperatorTable.contains, found])) h
    | some test => simp [OperatorTable.compile, found]
  | inline p => rfl
  | builtin c =>
    cases c with
    | matchesPattern =>
      obtain ⟨occurs, read⟩ := readable (.inl operator)
      simp [OperatorTable.compile, Operator.evaluate, Comparison.evaluate, read, bind, Except.bind, pure, Except.pure]
    | doesNotMatchPattern =>
      obtain ⟨occurs, read⟩ := readable (.inr operator)
      simp [OperatorTable.compile, Operator.evaluate, Comparison.evaluate, read, bind, Except.bind, pure, Except.pure]
    | _ => rfl

theorem compileItem_failsIff (table : OperatorTable) (i : FilterItem) :
    FailsIff (i.Unbound table) (fun row => i.holds table row) (FilterNode.compileItem i table) := by
  unfold FilterNode.compileItem
  by_cases h : i.Unbound table
  · obtain ⟨cause, failed⟩ := compile_of_unbound h
    rw [failed]
    exact .error cause h
  · rw [compile_of_bound h]
    exact .ok h

end FilterItem

namespace FilterNode

variable (table : OperatorTable)

mutual

theorem compile_failsIff : (node : FilterNode) →
    FailsIff (∃ i ∈ node.items, i.Unbound table) (fun row => holds table row node) (compile table node)
  | .item i => by
    simp only [compile, holds, items, List.mem_singleton, exists_eq_left]
    exact i.compileItem_failsIff table
  | .group .and children => by
    have tests := (compileAll_failsIff children).map fun tests row => tests.all (· row)
    simpa [compile, holds, items, allHold_eq, List.all_map, Function.comp_def] using tests
  | .group .or children => by
    have tests := (compileAll_failsIff children).map fun tests row => tests.any (· row)
    simpa [compile, holds, items, anyHolds_eq, List.any_map, Function.comp_def] using tests

theorem compileAll_failsIff : (nodes : List FilterNode) →
    FailsIff (∃ i ∈ itemsOfAll nodes, i.Unbound table) (nodes.map fun node row => holds table row node)
      (compileAll table nodes)
  | [] => .ok (by simp [itemsOfAll])
  | node :: rest => by
    simp only [compileAll, List.map_cons]
    apply FailsIff.congr
    · apply (compile_failsIff node).bind
      exact (compileAll_failsIff rest).map _
    · simp [itemsOfAll, or_and_right, exists_or]

end

end FilterNode

namespace FilterGroup

/-- The test of the canonical form is the reading of the group as it was given. -/
theorem compile_failsIff (table : OperatorTable) (g : FilterGroup) :
    FailsIff (∃ i ∈ g.items, i.Faulty table) (fun row => g.isEmpty || FilterNode.holds table row g.toNode)
      (g.normalize >>= fun g => if g.isEmpty then pure fun _ => true else g.toNode.compile table) := by
  apply FailsIff.congr
  · apply g.normalize_failsIff.bind
    rw [isEmpty_canonical]
    cases empty : g.isEmpty with
    | true =>
      simp only [if_true, Bool.true_or]
      have none : ¬∃ i ∈ g.items, i.Unbound table := by
        simp [items, List.isEmpty_iff.1 empty, FilterNode.itemsOfAll]
      exact .ok none
    | false =>
      have compiled := FilterNode.compile_failsIff table g.toNode.canonical
      simp only [FilterNode.items_canonical, FilterNode.holds_canonical] at compiled
      have unbound : (∃ i ∈ g.toNode.items.map FilterItem.canonical, i.Unbound table) ↔
          ∃ i ∈ g.items, i.Unbound table := by
        constructor
        · rintro ⟨_, listed, unbound⟩
          obtain ⟨i, member, rfl⟩ := List.mem_map.1 listed
          exact ⟨i, member, (i.unbound_canonical table).1 unbound⟩
        · rintro ⟨i, member, unbound⟩
          exact ⟨i.canonical, List.mem_map.2 ⟨i, member, rfl⟩, (i.unbound_canonical table).2 unbound⟩
      simp only [Bool.false_eq_true, if_false, Bool.false_or]
      exact compiled.congr unbound
  · simp [FilterItem.Faulty, and_or_left, exists_or]

end FilterGroup

namespace FilterInput

/-- Does a row satisfy a request? Every row does when there is nothing to filter by, and also when the group has no
children, whatever its logic. -/
def holds (table : OperatorTable) (row : Lookup) : FilterInput → Bool
  | .absent => true
  | .item i => i.holds table row
  | .items is => is.all fun i => i.holds table row
  | .group g => g.isEmpty || FilterNode.holds table row g.toNode

theorem compile_of_group? {input : FilterInput} {g : FilterGroup} (h : input.group? = some g) (table : OperatorTable) :
    input.compile table =
      (g.normalize >>= fun g => if g.isEmpty then pure fun _ => true else g.toNode.compile table) := by
  simp only [compile, normalize, h]
  cases g.normalize <;> rfl

/-- A request fails on items that cannot be used, and otherwise becomes the test that it reads as. -/
theorem compile_failsIff (table : OperatorTable) (input : FilterInput) :
    FailsIff (∃ i ∈ input.leaves, i.Faulty table) (fun row => input.holds table row) (input.compile table) := by
  cases input with
  | absent => exact FailsIff.ok (by simp [leaves])
  | item i =>
    rw [compile_of_group? rfl]
    have grouped := FilterGroup.compile_failsIff table ⟨.and, [.item i]⟩
    simpa [leaves, holds, FilterGroup.items, FilterGroup.isEmpty, FilterGroup.toNode, FilterNode.items,
      FilterNode.itemsOfAll, FilterNode.holds, FilterNode.allHold] using grouped
  | items is =>
    rw [compile_of_group? rfl]
    have grouped := FilterGroup.compile_failsIff table ⟨.and, is.map .item⟩
    have reading : (fun row => (FilterGroup.isEmpty ⟨.and, is.map .item⟩ ||
        FilterNode.holds table row (FilterGroup.toNode ⟨.and, is.map .item⟩))) =
        fun row => is.all fun i => i.holds table row := by
      funext row
      cases is with
      | nil => rfl
      | cons i rest =>
        simp [FilterGroup.isEmpty, FilterGroup.toNode, FilterNode.holds, FilterNode.allHold_eq, List.all_map,
          Function.comp_def]
    rw [reading] at grouped
    simpa [leaves, holds, FilterGroup.items, itemsOfAll_map_item] using grouped
  | group g =>
    rw [compile_of_group? rfl]
    exact g.compile_failsIff table

end FilterInput

section Rows

variable {α : Type} [Record α] (rows : List α) (input : FilterInput) (table : OperatorTable)

theorem filterRows_failsIff :
    FailsIff (∃ i ∈ input.leaves, i.Faulty table)
      (rows.filter fun row => input.holds table (Record.lookup row)) (filterRows rows input table) :=
  (input.compile_failsIff table).map fun test => rows.filter fun row => test (Record.lookup row)

/-- Filtering fails exactly when some item cannot be used, whatever the rows are. Otherwise it keeps, in their order,
the rows that satisfy the request as it was given. -/
theorem filterRows_reads :
    ((∃ cause, filterRows rows input table = .error cause) ↔ ∃ i ∈ input.leaves, i.Faulty table) ∧
      ∀ kept, filterRows rows input table = .ok kept ↔
        (∀ i ∈ input.leaves, ¬i.Faulty table) ∧
          kept = rows.filter fun row => input.holds table (Record.lookup row) := by
  have outcome := filterRows_failsIff rows input table
  constructor
  · exact outcome.error_iff
  · intro kept
    rw [outcome.ok_iff]
    simp

end Rows

end RecordSync
