import RecordSync.Proofs.Json.WellFormed
import RecordSync.Proofs.SideBySide
import RecordSync.Schema.Basic

/-!
# Well-formed schemas

The properties of a schema stand in key order, and so it is with all of its parts. Whatever schema is read from data is of
this kind, and so is the schema at any path.
-/

set_option autoImplicit false

namespace RecordSync

/-- The members of a well-formed value are well-formed, however the value describes them. -/
theorem Json.WellFormed.described {j member : Json} {names : List String} {d : Described} {name : String}
    (h : j.WellFormed) (described : j.described? names = some d) (found : d name = some member) : member.WellFormed := by
  cases j with
  | obj fields =>
    cases described
    exact wellFormedFields_iff.1 h.2 _ (KeyMap.mem_of_get? found)
  | arr items =>
    unfold Json.described? at described
    dsimp only at described
    split at described
    · cases described
      have listed : KeyMap.get? (names.zip items) name = some member := (KeyMap.get?_eq_lookup _ _).trans found
      exact wellFormedItems_iff.1 h member (List.of_mem_zip (KeyMap.mem_of_get? listed)).2
    · cases described
  | _ => cases described

namespace Json.Described

variable {α : Type} {d : Described} {name : String} {read : Json → Option α}

theorem exists_of_optional? {value : Option α} (h : d.optional? name read = some value) {a : α} (given : value = some a) :
    ∃ member, d name = some member ∧ member ≠ .null ∧ read member = some a := by
  unfold optional? at h
  split at h
  · cases h
    cases given
  · cases h
    cases given
  · next member filled found =>
    obtain ⟨b, result, rfl⟩ := Option.map_eq_some_iff.1 h
    cases given
    exact ⟨member, found, filled, result⟩

theorem cases_of_withDefault? {default value : α} (h : d.withDefault? name default read = some value) :
    value = default ∨ ∃ member, d name = some member ∧ read member = some value := by
  unfold withDefault? at h
  split at h
  · cases h
    exact .inl rfl
  · next member found => exact .inr ⟨member, found, h⟩

end Json.Described

namespace Schema

inductive WellFormed : Schema → Prop where
  | intro {s : Schema} (ordered : KeyMap.Ordered s.properties) (properties : ∀ entry ∈ s.properties, WellFormed entry.2)
      (items : ∀ item, s.items = some item → WellFormed item) : WellFormed s

mutual

def isWellFormed : Schema → Bool
  | ⟨_, properties, _, items, _, _, _⟩ =>
    decide (KeyMap.Ordered properties) && (arePropertiesWellFormed properties && areItemsWellFormed items)

def areItemsWellFormed : Option Schema → Bool
  | none => true
  | some s => isWellFormed s

def arePropertiesWellFormed : List (String × Schema) → Bool
  | [] => true
  | (_, p) :: rest => isWellFormed p && arePropertiesWellFormed rest

end

theorem wellFormed_iff (s : Schema) : s.WellFormed ↔ KeyMap.Ordered s.properties ∧
    (∀ entry ∈ s.properties, entry.2.WellFormed) ∧ ∀ item ∈ s.items, item.WellFormed := by
  constructor
  · rintro ⟨ordered, properties, items⟩
    exact ⟨ordered, properties, items⟩
  · rintro ⟨ordered, properties, items⟩
    exact .intro ordered properties items

mutual

theorem isWellFormed_iff : (s : Schema) → (s.isWellFormed = true ↔ s.WellFormed)
  | ⟨declared, properties, required, items, default, readOnly, primaryKey⟩ => by
    rw [wellFormed_iff]
    simp [isWellFormed, arePropertiesWellFormed_iff properties, areItemsWellFormed_iff items]

theorem areItemsWellFormed_iff :
    (items : Option Schema) → (areItemsWellFormed items = true ↔ ∀ item ∈ items, item.WellFormed)
  | none => by simp [areItemsWellFormed]
  | some s => by simp [areItemsWellFormed, isWellFormed_iff s]

theorem arePropertiesWellFormed_iff : (properties : List (String × Schema)) →
    (arePropertiesWellFormed properties = true ↔ ∀ entry ∈ properties, entry.2.WellFormed)
  | [] => by simp [arePropertiesWellFormed]
  | (key, p) :: rest => by
    simp [arePropertiesWellFormed, isWellFormed_iff p, arePropertiesWellFormed_iff rest]

end

instance (s : Schema) : Decidable s.WellFormed := decidable_of_iff _ s.isWellFormed_iff

theorem map_fst_of_read {depth : Nat} {fields : Object} {properties : List (String × Schema)}
    (read : List.Forall₂ (fun field entry => (ofJsonWithin? depth field.2).map (field.1, ·) = some entry) fields
      properties) : fields.map (·.1) = properties.map (·.1) := by
  rw [← List.forall₂_eq_eq_eq, List.forall₂_map_left_iff, List.forall₂_map_right_iff]
  refine read.imp fun field entry made => ?_
  obtain ⟨part, -, rfl⟩ := Option.map_eq_some_iff.1 made
  rfl

/-- The parts of a schema are read from parts of the value, which are well-formed as it is. A default is not `null`. -/
theorem parts_of_ofJsonWithin? {depth : Nat} {j : Json} {s : Schema} (hj : j.WellFormed)
    (read : ofJsonWithin? (depth + 1) j = some s) :
    KeyMap.Ordered s.properties ∧
      (∀ entry ∈ s.properties, ∃ member : Json, member.WellFormed ∧ ofJsonWithin? depth member = some entry.2) ∧
      (∀ item, s.items = some item → ∃ member : Json, member.WellFormed ∧ ofJsonWithin? depth member = some item) ∧
      ∀ value, s.default = some value → value.WellFormed ∧ value ≠ .null := by
  simp only [ofJsonWithin?, Option.bind_eq_bind, Option.bind_eq_some_iff] at read
  obtain ⟨d, described, declared, -, properties, hp, required, -, items, hi, default, hd, readOnly, -, primary, -,
    made⟩ := read
  cases made
  have listed : properties = [] ∨ ∃ fields : Object, (Json.obj fields).WellFormed ∧ List.Forall₂
      (fun field entry => (ofJsonWithin? depth field.2).map (field.1, ·) = some entry) fields properties := by
    obtain rfl | ⟨member, found, result⟩ := Json.Described.cases_of_withDefault? hp
    · exact .inl rfl
    · obtain ⟨fields, object, each⟩ := Option.bind_eq_some_iff.1 result
      cases member with
      | obj _ =>
        cases object
        exact .inr ⟨_, hj.described described found, forall₂_of_mapM_some each⟩
      | _ => cases object
  refine ⟨?_, ?_, fun item given => ?_, fun value given => ?_⟩
  · obtain rfl | ⟨fields, wellFormed, each⟩ := listed
    · exact .nil
    · have ascending := List.pairwise_map.2 wellFormed.1
      rw [map_fst_of_read each] at ascending
      exact List.pairwise_map.1 ascending
  · obtain rfl | ⟨fields, wellFormed, each⟩ := listed
    · exact List.forall_mem_nil _
    · intro entry member
      obtain ⟨field, shown, made⟩ := forall₂_exists each member
      obtain ⟨part, result, rfl⟩ := Option.map_eq_some_iff.1 made
      exact ⟨field.2, Json.wellFormedFields_iff.1 wellFormed.2 field shown, result⟩
  · obtain ⟨member, found, -, result⟩ := Json.Described.exists_of_optional? hi given
    exact ⟨member, hj.described described found, result⟩
  · obtain ⟨member, found, filled, same⟩ := Json.Described.exists_of_optional? hd given
    cases same
    exact ⟨hj.described described found, filled⟩

/-- What passes from the parts of a schema to the schema holds of every schema that is read from data. -/
theorem read_induct {P : Schema → Prop} (whole : ∀ s, KeyMap.Ordered s.properties →
      (∀ value, s.default = some value → value.WellFormed ∧ value ≠ .null) → (∀ entry ∈ s.properties, P entry.2) →
      (∀ item, s.items = some item → P item) → P s)
    {j : Json} {s : Schema} (hj : j.WellFormed) (read : ofJson? j = some s) : P s := by
  unfold ofJson? at read
  -- the bound is the one of the whole value, while the induction comes to its parts
  generalize j.depth + 1 = depth at read
  induction depth generalizing j s with
  | zero => cases read
  | succ depth ih =>
    obtain ⟨ordered, properties, items, default⟩ := parts_of_ofJsonWithin? hj read
    refine whole s ordered default (fun entry listed => ?_) fun item given => ?_
    · obtain ⟨member, wellFormed, result⟩ := properties entry listed
      exact ih wellFormed result
    · obtain ⟨member, wellFormed, result⟩ := items item given
      exact ih wellFormed result

theorem wellFormed_of_ofJson? {j : Json} {s : Schema} (hj : j.WellFormed) (read : ofJson? j = some s) : s.WellFormed :=
  read_induct (fun _ ordered _ properties items => .intro ordered properties items) hj read

inductive DefaultsWellFormed : Schema → Prop where
  | intro {s : Schema} (default : ∀ value, s.default = some value → value.WellFormed)
      (properties : ∀ entry ∈ s.properties, DefaultsWellFormed entry.2)
      (items : ∀ item, s.items = some item → DefaultsWellFormed item) : DefaultsWellFormed s

theorem defaultsWellFormed_of_ofJson? {j : Json} {s : Schema} (hj : j.WellFormed) (read : ofJson? j = some s) :
    s.DefaultsWellFormed :=
  read_induct (fun _ _ default properties items => .intro (fun value given => (default value given).1) properties items)
    hj read

/-- The schema of a member is the one of a property, or the one of the items. -/
theorem part_of_member? {s t : Schema} {key : String} (found : s.member? key = some t) :
    (key, t) ∈ s.properties ∨ s.items = some t := by
  unfold Schema.member? at found
  split at found
  · next p property =>
    cases found
    exact .inl (KeyMap.mem_of_get? property)
  · split at found
    · exact .inr found
    · cases found

/-- What holds of the schema that accepts everything, and passes on to members, holds along every path. -/
theorem at_induct {P : Schema → Prop} (outside : P empty) (member : ∀ s t key, P s → s.member? key = some t → P t)
    {s : Schema} (h : P s) (path : Path) : P (s.at path) := by
  induction path generalizing s with
  | nil => exact h
  | cons key rest ih =>
    rw [Schema.at]
    split
    · next t found => exact ih (member s t key h found)
    · exact outside

theorem WellFormed.member? {s t : Schema} {key : String} (h : s.WellFormed) (found : s.member? key = some t) :
    t.WellFormed := by
  cases h with
  | intro _ properties items => exact (part_of_member? found).elim (properties _) (items t)

theorem DefaultsWellFormed.member? {s t : Schema} {key : String} (h : s.DefaultsWellFormed)
    (found : s.member? key = some t) : t.DefaultsWellFormed := by
  cases h with
  | intro _ properties items => exact (part_of_member? found).elim (properties _) (items t)

theorem wellFormed_empty : empty.WellFormed := by
  apply WellFormed.intro <;> simp [empty, KeyMap.Ordered]

theorem defaultsWellFormed_empty : empty.DefaultsWellFormed := by
  apply DefaultsWellFormed.intro <;> simp [empty]

/-- The schema at a path is well-formed, as the one is that accepts everything outside. -/
theorem WellFormed.at {s : Schema} (h : s.WellFormed) (path : Path) : (s.at path).WellFormed :=
  at_induct wellFormed_empty (fun _ _ _ h found => h.member? found) h path

theorem DefaultsWellFormed.at {s : Schema} (h : s.DefaultsWellFormed) (path : Path) : (s.at path).DefaultsWellFormed :=
  at_induct defaultsWellFormed_empty (fun _ _ _ h found => h.member? found) h path

end Schema

end RecordSync
