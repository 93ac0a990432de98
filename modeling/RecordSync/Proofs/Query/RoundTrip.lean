import RecordSync.Proofs.KeyMap
import RecordSync.Query.Filter

/-!
# Filters as data and back

A filter is read from its own description as it was, as long as its parts can be told from what is written for them:
a path from its dotted text, and an operator from its name. Groups and items are told apart by their fields.
-/

set_option autoImplicit false

namespace RecordSync

namespace Text

variable {separator : Char}

theorem splitChars_of_not_mem {cs : List Char} (h : separator ∉ cs) : splitChars separator cs = [cs] := by
  induction cs with
  | nil => rfl
  | cons c cs ih =>
    rw [List.mem_cons, not_or] at h
    simp [splitChars, Ne.symm h.1, ih h.2]

theorem splitChars_append {cs : List Char} (h : separator ∉ cs) (later : List Char) :
    splitChars separator (cs ++ separator :: later) = cs :: splitChars separator later := by
  induction cs with
  | nil => simp [splitChars]
  | cons c cs ih =>
    rw [List.mem_cons, not_or] at h
    simp [splitChars, Ne.symm h.1, ih h.2]

/-- Pieces that do not hold the separator are found again between its occurrences. -/
theorem splitChars_intercalate {pieces : List (List Char)} (filled : pieces ≠ [])
    (clean : ∀ piece ∈ pieces, separator ∉ piece) :
    splitChars separator ([separator].intercalate pieces) = pieces := by
  induction pieces with
  | nil => exact absurd rfl filled
  | cons piece rest ih =>
    rw [List.forall_mem_cons] at clean
    cases rest with
    | nil => simpa using splitChars_of_not_mem clean.1
    | cons next later =>
      have cut : [separator].intercalate (piece :: next :: later) =
          piece ++ separator :: [separator].intercalate (next :: later) := by
        simp [List.intercalate, List.intersperse]
      rw [cut, splitChars_append clean.1, ih (by simp) clean.2]

end Text

namespace Path

/-- A path that can be told from its dotted text. -/
structure Dottable (path : Path) : Prop where
  undotted : ∀ key ∈ path, '.' ∉ key.toList
  ne_empty : path ≠ [""]

theorem ofDotted_toDotted {path : Path} (h : path.Dottable) : ofDotted path.toDotted = path := by
  by_cases keyless : path = []
  · rw [keyless]
    rfl
  · have text : path.toDotted.toList = ['.'].intercalate (path.map String.toList) := String.toList_intercalate
    have split : Text.split path.toDotted '.' = path := by
      rw [Text.split, text, Text.splitChars_intercalate (by simpa using keyless) (by simpa using h.undotted)]
      simp [Function.comp_def]
    have filled : path.toDotted.isEmpty = false := by
      rw [Bool.eq_false_iff]
      intro empty
      rw [String.isEmpty_iff.1 empty] at split
      exact h.ne_empty split.symm
    rw [ofDotted, filled, if_neg Bool.false_ne_true, split]

end Path

def Comparison.SpelledBy (c : Comparison) (text : String) : Prop :=
  Unicode.toLower (Unicode.trim text) = c.name ∨ (Unicode.toLower (Unicode.trim text), c) ∈ aliases

instance (c : Comparison) (text : String) : Decidable (c.SpelledBy text) := inferInstanceAs (Decidable (_ ∨ _))

theorem Comparison.ofName?_eq_none {text : String} (h : ∀ c : Comparison, ¬c.SpelledBy text) :
    ofName? (Unicode.toLower (Unicode.trim text)) = none := by
  rw [ofName?, Option.or_eq_none_iff, List.lookup_eq_none_iff, List.find?_eq_none]
  constructor
  · rintro ⟨other, c⟩ listed
    rw [bne_iff_ne]
    rintro rfl
    exact h c (.inr listed)
  · intro c _ same
    exact h c (.inl (beq_iff_eq.1 same).symm)

namespace Operator

def Nameable : Operator → Prop
  | .builtin _ => True
  | .named name => ∀ c : Comparison, ¬c.SpelledBy name
  | .inline _ => False

theorem parse_name {o : Operator} (h : o.Nameable) : parse o.name = o := by
  cases o with
  | builtin c =>
    have lower : Unicode.toLower (Unicode.trim c.name) = c.name := by cases c <;> decide +kernel
    rw [name, parse, lower, Comparison.ofName?_name]
  | named name => rw [Operator.name, parse, Comparison.ofName?_eq_none h]
  | inline p => exact h.elim

end Operator

namespace FilterItem

/-- An item that can be told from its description. -/
structure Describable (i : FilterItem) : Prop where
  field : i.field.Dottable
  operator : ∀ o, i.operator = some o → o.Nameable

theorem described?_toJson (i : FilterItem) (names : List String) :
    ∃ d, i.toJson.described? names = some d ∧ d "field" = some (.str i.field.toDotted) ∧
      d "operator" = i.operator.map (.str ·.name) ∧ d "value" = some i.value ∧
      d "ignoreCase" = (if i.ignoreCase then some (.bool true) else none) ∧ d "filters" = none := by
  obtain ⟨field, operator, value, ignoreCase⟩ := i
  refine ⟨_, rfl, ?_⟩
  cases operator <;> cases ignoreCase <;>
    simp [KeyMap.get?_ofList, KeyMap.get?]

theorem ofJson?_toJson {i : FilterItem} (h : i.Describable) : ofJson? i.toJson = some i := by
  obtain ⟨d, described, field, operator, value, ignoreCase, -⟩ :=
    i.described?_toJson ["field", "operator", "value", "ignoreCase"]
  have readField : d.required? "field" Json.path? = some i.field := by
    rw [Json.Described.required?, field]
    exact congrArg some (Path.ofDotted_toDotted h.field)
  have readOperator : (d.optional? "operator" fun j => j.str?.map Operator.parse) = some i.operator := by
    rw [Json.Described.optional?, operator]
    cases given : i.operator with
    | none => rfl
    | some o => exact congrArg (some ∘ some) (Operator.parse_name (h.operator o given))
  have readValue : d.withDefault? "value" Json.null some = some i.value := by
    rw [Json.Described.withDefault?, value]
  have readCase : d.withDefault? "ignoreCase" false Json.bool? = some i.ignoreCase := by
    rw [Json.Described.withDefault?, ignoreCase]
    cases i.ignoreCase <;> rfl
  simp only [ofJson?, described, Option.bind_eq_bind, Option.bind_some, readField, readOperator, readValue, readCase]
  rfl

theorem partsOf?_toJson (i : FilterItem) : FilterGroup.partsOf? i.toJson = none := by
  obtain ⟨d, described, -, -, -, -, filters⟩ := i.described?_toJson ["logic", "filters"]
  have absent : d.required? "filters" Json.arr? = none := by rw [Json.Described.required?, filters]; rfl
  simp [FilterGroup.partsOf?, described, absent]

end FilterItem

theorem Json.depth_pos (j : Json) : 0 < j.depth := by
  cases j <;> simp only [depth] <;> omega

theorem FilterGroup.partsOf?_toJson (logic : Logic) (children : List Json) :
    partsOf? (.obj [("filters", .arr children), ("logic", .str logic.name)]) = some (logic, children) := by
  cases logic <;> rfl

namespace FilterNode

mutual

theorem ofJsonWithin?_toJson : (node : FilterNode) → (∀ i ∈ node.items, i.Describable) →
    (bound : Nat) → node.toJson.depth ≤ bound → ofJsonWithin? bound node.toJson = some node
  | .item i, plain, bound, deep => by
    obtain ⟨bound, rfl⟩ : ∃ n, bound = n + 1 :=
      Nat.exists_eq_add_one.2 (Nat.lt_of_lt_of_le (Json.depth_pos _) deep)
    have read := FilterItem.ofJson?_toJson (plain i (by simp [items]))
    simp [toJson, ofJsonWithin?, i.partsOf?_toJson, read]
  | .group logic children, plain, bound, deep => by
    obtain ⟨bound, rfl⟩ : ∃ n, bound = n + 1 :=
      Nat.exists_eq_add_one.2 (Nat.lt_of_lt_of_le (Json.depth_pos _) deep)
    have within : Json.depthOfItems (toJsonAll children) ≤ bound := by
      simp [toJson, Json.depth, Json.depthOfFields] at deep
      omega
    have read := mapM_ofJsonWithin?_toJsonAll children plain bound within
    simp [toJson, ofJsonWithin?, FilterGroup.partsOf?_toJson, read]

theorem mapM_ofJsonWithin?_toJsonAll : (nodes : List FilterNode) → (∀ i ∈ itemsOfAll nodes, i.Describable) →
    (bound : Nat) → Json.depthOfItems (toJsonAll nodes) ≤ bound →
    (toJsonAll nodes).mapM (ofJsonWithin? bound) = some nodes
  | [], _, _, _ => rfl
  | node :: rest, plain, bound, deep => by
    simp only [itemsOfAll, List.mem_append, or_imp, forall_and] at plain
    simp only [toJsonAll, Json.depthOfItems, Nat.max_le] at deep
    have first := ofJsonWithin?_toJson node plain.1 bound deep.1
    have later := mapM_ofJsonWithin?_toJsonAll rest plain.2 bound deep.2
    simp [toJsonAll, first, later]

end

theorem ofJson?_toJson {node : FilterNode} (h : ∀ i ∈ node.items, i.Describable) : ofJson? node.toJson = some node :=
  ofJsonWithin?_toJson node h _ (Nat.le_succ _)

theorem mapM_ofJson?_toJsonAll {nodes : List FilterNode} (h : ∀ i ∈ itemsOfAll nodes, i.Describable) :
    (toJsonAll nodes).mapM ofJson? = some nodes := by
  induction nodes with
  | nil => rfl
  | cons node rest ih =>
    simp only [itemsOfAll, List.mem_append, or_imp, forall_and] at h
    simp [toJsonAll, ofJson?_toJson h.1, ih h.2]

end FilterNode

/-- A filter is read from its description as the group that it was. -/
theorem FilterInput.ofJson_toJson {g : FilterGroup} (h : ∀ i ∈ g.items, i.Describable) :
    ofJson g.toJson = .ok (.group g) := by
  have read : FilterGroup.ofJson? g.toJson = some g := by
    simp [FilterGroup.ofJson?, FilterGroup.toJson, FilterGroup.toNode, FilterNode.toJson, FilterGroup.partsOf?_toJson,
      FilterNode.mapM_ofJson?_toJsonAll h]
  simp only [FilterGroup.toJson, FilterGroup.toNode, FilterNode.toJson] at read ⊢
  simp [ofJson, KeyMap.contains, KeyMap.get?, read]

/-- A group in a group, with an alias as a value, a custom operator, an operator that is left out, and paths of no key
and of an empty one. -/
def nestedSample : FilterGroup :=
  { logic := .or
    filters :=
      [.item { field := ["tags", "", "0"], operator := some (.named "Divisible By"), value := .str "equals",
               ignoreCase := true },
        .group .and [.group .or [], .item (.equality [] .null),
          .item { field := ["filters"], operator := some (.builtin .doesNotMatchPattern),
                  value := .obj [("filters", .arr [])], ignoreCase := false }]] }

theorem FilterInput.ofJson_toJson_nested :
    (∀ i ∈ nestedSample.items, i.Describable) ∧ ofJson nestedSample.toJson = .ok (.group nestedSample) := by
  have plain : ∀ i ∈ nestedSample.items, i.Describable := by
    intro i listed
    simp only [nestedSample, FilterGroup.items, FilterNode.itemsOfAll, FilterNode.items, List.append_nil,
      List.nil_append, List.cons_append, List.mem_cons, List.not_mem_nil, or_false] at listed
    rcases listed with rfl | rfl | rfl
    · exact ⟨⟨by decide, by decide⟩, by rintro _ ⟨⟩; intro c; cases c <;> decide +kernel⟩
    · exact ⟨⟨by decide, by decide⟩, by rintro _ ⟨⟩⟩
    · exact ⟨⟨by decide, by decide⟩, by rintro _ ⟨⟩; trivial⟩
  exact ⟨plain, ofJson_toJson plain⟩

end RecordSync
