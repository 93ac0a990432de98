import RecordSync.Proofs.Query.RoundTrip
import RecordSync.Proofs.Schema.WellFormed

/-!
# Schemas as data and back

A schema is read from its own description as it was, but for the defaults that are `null`: such a default is written,
and read as no default at all. This is so in every part of the schema, and it is all that is lost.
-/

set_option autoImplicit false

namespace RecordSync

namespace KeyMap

variable {α β : Type}

theorem get?_append (m other : KeyMap α) (key : String) :
    get? (m ++ other) key = (get? m key).or (get? other key) := by
  induction m with
  | nil => rfl
  | cons entry rest ih =>
    rw [List.cons_append, get?_cons, get?_cons, ih]
    split <;> rfl

theorem get?_toList_map (value : Option β) (name : String) (write : β → α) (key : String) :
    get? (value.map fun b => (name, write b)).toList key = if name = key then value.map write else none := by
  cases value <;> simp [get?]

theorem get?_unless (absent : Prop) [Decidable absent] (name : String) (value : α) (key : String) :
    get? (if absent then [] else [(name, value)]) key =
      if name = key then if absent then none else some value else none := by
  split <;> simp [get?]

end KeyMap

namespace Json

theorem depth_le_of_get? {fields : Object} {name : String} {j : Json} (found : KeyMap.get? fields name = some j) :
    j.depth ≤ depthOfFields fields := by
  induction fields with
  | nil => cases found
  | cons field rest ih =>
    rw [KeyMap.get?_cons] at found
    rw [depthOfFields]
    split at found
    · cases found
      exact Nat.le_max_left _ _
    · exact Nat.le_trans (ih found) (Nat.le_max_right _ _)

theorem list?_str?_map (texts : List String) : list? str? (.arr (texts.map .str)) = some texts := by
  induction texts with
  | nil => rfl
  | cons text rest ih =>
    rw [list?] at ih
    simp [list?, str?, ih]

namespace Described

variable {α : Type} (d : Described) {name : String} {read : Json → Option α}

/-- A part that is written if it is given, and never as `null`, is read as what each of its values is read as. -/
theorem optional?_of_written {value : Option α} {write : α → Json} {f : α → α} (shown : d name = value.map write)
    (reads : ∀ a, value = some a → write a ≠ .null ∧ read (write a) = some (f a)) :
    d.optional? name read = some (value.map f) := by
  cases value with
  | none =>
    rw [optional?, shown]
    rfl
  | some a =>
    obtain ⟨given, result⟩ := reads a rfl
    unfold optional?
    rw [shown, Option.map_some]
    split
    · next missing => cases missing
    · next null => exact absurd (Option.some.inj null) given
    · next found =>
      cases found
      rw [result, Option.map_some, Option.map_some]

theorem withDefault?_of_written {default value : α} {absent : Prop} [Decidable absent] {written : Json}
    (shown : d name = if absent then none else some written) (left : absent → value = default)
    (reads : ¬absent → read written = some value) : d.withDefault? name default read = some value := by
  rw [withDefault?, shown]
  by_cases h : absent
  · rw [if_pos h, left h]
  · rw [if_neg h]
    exact reads h

end Described

end Json

theorem ValueType.ofJson?_name (t : ValueType) : ofJson? (.str t.name) = some t := ofName?_name t

theorem TypeSet.ofJson?_toJson (types : TypeSet) : ofJson? types.toJson = some types := by
  cases types with
  | one t => simp [ofJson?, toJson, ValueType.ofJson?_name]
  | many ts =>
    have unnamed : ValueType.ofJson? (.arr (ts.map fun t => .str t.name)) = none := rfl
    have each : (ts.map fun t => Json.str t.name).mapM ValueType.ofJson? = some ts := by
      induction ts with
      | nil => rfl
      | cons t ts ih => simp [ValueType.ofJson?_name, ih rfl]
    simp [ofJson?, toJson, unnamed, Json.list?, each]

theorem TypeSet.toJson_ne_null (types : TypeSet) : types.toJson ≠ .null := by
  cases types <;> rintro ⟨⟩

namespace Schema

mutual

def dropNullDefaults : Schema → Schema
  | ⟨declared, properties, required, items, default, readOnly, primaryKey⟩ =>
    ⟨declared, dropNullDefaultsOf properties, required, dropNullDefaultsOfItems items, default.filter (!·.isNull),
      readOnly, primaryKey⟩

def dropNullDefaultsOfItems : Option Schema → Option Schema
  | none => none
  | some s => some (dropNullDefaults s)

def dropNullDefaultsOf : List (String × Schema) → List (String × Schema)
  | [] => []
  | (key, p) :: rest => (key, dropNullDefaults p) :: dropNullDefaultsOf rest

end

inductive DeclaresNull : Schema → Prop where
  | here {s : Schema} (null : s.default = some .null) : DeclaresNull s
  | property {s p : Schema} {key : String} (listed : (key, p) ∈ s.properties) (below : DeclaresNull p) : DeclaresNull s
  | item {s item : Schema} (given : s.items = some item) (below : DeclaresNull item) : DeclaresNull s

theorem declaresNull_iff (s : Schema) : s.DeclaresNull ↔
    s.default = some .null ∨ (∃ entry ∈ s.properties, entry.2.DeclaresNull) ∨
      ∃ item ∈ s.items, item.DeclaresNull := by
  constructor
  · intro declares
    cases declares with
    | here null => exact .inl null
    | property listed below => exact .inr (.inl ⟨_, listed, below⟩)
    | item given below => exact .inr (.inr ⟨_, given, below⟩)
  · rintro (null | ⟨entry, listed, below⟩ | ⟨item, given, below⟩)
    · exact .here null
    · exact .property listed below
    · exact .item given below

theorem filter_not_isNull (value : Option Json) : value.filter (!·.isNull) = value ↔ value ≠ some .null := by
  cases value with
  | none => simp
  | some j => cases j <;> simp [Json.isNull]

mutual

theorem dropNullDefaults_eq_self : (s : Schema) → (s.dropNullDefaults = s ↔ ¬s.DeclaresNull)
  | ⟨declared, properties, required, items, default, readOnly, primaryKey⟩ => by
    rw [declaresNull_iff]
    simp [dropNullDefaults, dropNullDefaultsOf_eq_self properties, dropNullDefaultsOfItems_eq_self items,
      filter_not_isNull]
    tauto

theorem dropNullDefaultsOfItems_eq_self :
    (items : Option Schema) → (dropNullDefaultsOfItems items = items ↔ ∀ item ∈ items, ¬item.DeclaresNull)
  | none => by simp [dropNullDefaultsOfItems]
  | some s => by simp [dropNullDefaultsOfItems, dropNullDefaults_eq_self s]

theorem dropNullDefaultsOf_eq_self : (properties : List (String × Schema)) →
    (dropNullDefaultsOf properties = properties ↔ ∀ entry ∈ properties, ¬entry.2.DeclaresNull)
  | [] => by simp [dropNullDefaultsOf]
  | (key, p) :: rest => by
    simp [dropNullDefaultsOf, dropNullDefaults_eq_self p, dropNullDefaultsOf_eq_self rest]

end

structure DescribedBy (s : Schema) (d : Json.Described) : Prop where
  type : d "type" = s.declared.map TypeSet.toJson
  properties : d "properties" = if s.properties = [] then none else some (.obj (propertiesToJson s.properties))
  required : d "required" = if s.required = [] then none else some (.arr (s.required.map .str))
  items : d "items" = s.items.map toJson
  default : d "default" = s.default
  readOnly : d "readOnly" = some (.bool s.readOnly)
  primaryKey : d "primaryKey" = s.primaryKey.map .str

theorem exists_toJson (s : Schema) : ∃ fields, s.toJson = .obj fields ∧ s.DescribedBy (KeyMap.get? fields) := by
  obtain ⟨declared, properties, required, items, default, readOnly, primaryKey⟩ := s
  have defaultShown (key : String) : KeyMap.get? (default.map fun value => ("default", value)).toList key =
      if "default" = key then default else none := by
    simpa using KeyMap.get?_toList_map default "default" id key
  have itemsShown (key : String) :
      KeyMap.get? (itemsToJson items) key = if "items" = key then items.map toJson else none := by
    cases items <;> simp [itemsToJson, KeyMap.get?]
  refine ⟨_, toJson.eq_1 .., ?_⟩
  constructor <;>
    simp [KeyMap.get?_append, KeyMap.get?_toList_map, KeyMap.get?_unless, KeyMap.get?_cons, defaultShown, itemsShown]

theorem dropNullDefaults_eq (s : Schema) : s.dropNullDefaults =
    { s with properties := dropNullDefaultsOf s.properties, items := s.items.map dropNullDefaults,
             default := s.default.filter (!·.isNull) } := by
  obtain ⟨declared, properties, required, items, default, readOnly, primaryKey⟩ := s
  cases items <;> rfl

theorem toJson_ne_null (s : Schema) : s.toJson ≠ .null := by
  obtain ⟨fields, object, -⟩ := s.exists_toJson
  rw [object]
  rintro ⟨⟩

theorem ofJsonWithin?_of_parts {s : Schema} {j : Json} {d : Json.Described} {depth : Nat}
    (described : j.described? ["type", "properties", "required", "items", "default", "readOnly", "primaryKey"] = some d)
    (shown : s.DescribedBy d)
    (properties : s.properties ≠ [] → (propertiesToJson s.properties).mapM
      (fun (key, p) => (ofJsonWithin? depth p).map (key, ·)) = some (dropNullDefaultsOf s.properties))
    (items : ∀ item, s.items = some item → ofJsonWithin? depth item.toJson = some item.dropNullDefaults) :
    ofJsonWithin? (depth + 1) j = some s.dropNullDefaults := by
  have readType : d.optional? "type" TypeSet.ofJson? = some s.declared := by
    rw [d.optional?_of_written (f := id) shown.type fun types _ => ⟨types.toJson_ne_null, types.ofJson?_toJson⟩,
      Option.map_id, id]
  have readProperties : (d.withDefault? "properties" [] fun j => j.obj?.bind fun fields =>
      fields.mapM fun (key, p) => (ofJsonWithin? depth p).map (key, ·)) = some (dropNullDefaultsOf s.properties) :=
    d.withDefault?_of_written shown.properties (congrArg dropNullDefaultsOf) properties
  have readRequired : d.withDefault? "required" [] (Json.list? Json.str?) = some s.required :=
    d.withDefault?_of_written shown.required id fun _ => Json.list?_str?_map s.required
  have readItems : d.optional? "items" (ofJsonWithin? depth) = some (s.items.map dropNullDefaults) :=
    d.optional?_of_written shown.items fun item given => ⟨item.toJson_ne_null, items item given⟩
  have readDefault : d.optional? "default" some = some (s.default.filter (!·.isNull)) := by
    rw [Json.Described.optional?, shown.default]
    cases s.default with
    | none => rfl
    | some value => cases value <;> rfl
  have readOnly : d.withDefault? "readOnly" false Json.bool? = some s.readOnly := by
    rw [Json.Described.withDefault?, shown.readOnly]
    rfl
  have readKey : d.optional? "primaryKey" Json.str? = some s.primaryKey := by
    rw [d.optional?_of_written (f := id) shown.primaryKey fun key _ => ⟨by rintro ⟨⟩, rfl⟩, Option.map_id, id]
  simp only [ofJsonWithin?, described, Option.bind_eq_bind, Option.bind_some, readType, readProperties, readRequired,
    readItems, readDefault, readOnly, readKey, dropNullDefaults_eq]
  rfl

-- The recursion is the one of `toJson`, through the properties and through the items that may be missing. The bound only
-- has to cover the parts that are written, so it goes down with each of them.
mutual

theorem ofJsonWithin?_toJson : (s : Schema) → (bound : Nat) → s.toJson.depth ≤ bound →
    ofJsonWithin? bound s.toJson = some s.dropNullDefaults
  | ⟨declared, properties, required, items, default, readOnly, primaryKey⟩, bound, deep => by
    obtain ⟨bound, rfl⟩ : ∃ n, bound = n + 1 :=
      Nat.exists_eq_add_one.2 (Nat.lt_of_lt_of_le (Json.depth_pos _) deep)
    obtain ⟨fields, object, shown⟩ :=
      exists_toJson ⟨declared, properties, required, items, default, readOnly, primaryKey⟩
    have within : Json.depthOfFields fields ≤ bound := by
      rw [object, Json.depth] at deep
      omega
    rw [object]
    refine ofJsonWithin?_of_parts rfl shown (fun filled => ?_) fun item given => ?_
    · have below := Json.depth_le_of_get? (shown.properties.trans (if_neg filled))
      rw [Json.depth] at below
      dsimp only at below
      exact mapM_ofJsonWithin?_propertiesToJson properties bound (by omega)
    · have below := Json.depth_le_of_get? (shown.items.trans (congrArg _ given))
      exact ofJsonWithin?_toJson_item items bound item given (by omega)

theorem ofJsonWithin?_toJson_item : (items : Option Schema) → (bound : Nat) → (item : Schema) → items = some item →
    item.toJson.depth ≤ bound → ofJsonWithin? bound item.toJson = some item.dropNullDefaults
  | some s, bound, _, rfl, deep => ofJsonWithin?_toJson s bound deep

theorem mapM_ofJsonWithin?_propertiesToJson : (properties : List (String × Schema)) → (bound : Nat) →
    Json.depthOfFields (propertiesToJson properties) ≤ bound →
    (propertiesToJson properties).mapM (fun (key, p) => (ofJsonWithin? bound p).map (key, ·)) =
      some (dropNullDefaultsOf properties)
  | [], _, _ => rfl
  | (key, p) :: rest, bound, deep => by
    simp only [propertiesToJson, Json.depthOfFields, Nat.max_le] at deep
    have first := ofJsonWithin?_toJson p bound deep.1
    have later := mapM_ofJsonWithin?_propertiesToJson rest bound deep.2
    simp [propertiesToJson, dropNullDefaultsOf, first, later]

end

theorem ofJson?_toJson (s : Schema) : ofJson? s.toJson = some s.dropNullDefaults :=
  ofJsonWithin?_toJson s _ (Nat.le_succ _)

/-- Every schema is described in a way that can be read, and what is read is the schema without the defaults that are
`null`. It is the schema itself if and only if no part of it declares such a default. -/
theorem read_toJson (s : Schema) :
    ofJson? s.toJson = some s.dropNullDefaults ∧ (ofJson? s.toJson = some s ↔ ¬s.DeclaresNull) := by
  refine ⟨s.ofJson?_toJson, ?_⟩
  rw [ofJson?_toJson, Option.some_inj, dropNullDefaults_eq_self]

/-- A schema that has `null` as its default is read as one without a default. -/
theorem not_read_null_default : ¬∀ s : Schema, ofJson? s.toJson = some s := by
  intro kept
  have read : ofJson? ({ empty with default := some .null } : Schema).toJson = some empty := rfl
  have same := congrArg Schema.default (Option.some.inj (read.symm.trans (kept _)))
  cases same

theorem not_declaresNull_of_ofJson? {j : Json} {s : Schema} (hj : j.WellFormed) (read : ofJson? j = some s) :
    ¬s.DeclaresNull := by
  refine read_induct (P := fun s => ¬s.DeclaresNull) (fun s _ default properties items => ?_) hj read
  rintro (null | ⟨listed, below⟩ | ⟨given, below⟩)
  · exact (default _ null).2 rfl
  · exact properties _ listed below
  · exact items _ given below

/-- A schema that was read once is read from its description as it was. -/
theorem ofJson?_toJson_of_ofJson? {j : Json} {s : Schema} (hj : j.WellFormed) (read : ofJson? j = some s) :
    ofJson? s.toJson = some s := by
  rw [ofJson?_toJson, (dropNullDefaults_eq_self s).2 (not_declaresNull_of_ofJson? hj read)]

end Schema

end RecordSync
