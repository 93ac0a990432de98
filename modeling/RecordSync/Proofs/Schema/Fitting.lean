import RecordSync.Proofs.KeyMap
import RecordSync.Schema.Validate

/-!
# Values that fit a schema

Validation walks through a value with a path, repairs it and collects complaints. To fit is the same judgement without
the walk: a value fits when there would be nothing to complain about. In a steady schema the repaired value fits as
well, so it can be validated again.
-/

set_option autoImplicit false

namespace RecordSync

namespace Json

def isScalar : Json → Bool
  | .arr _ | .obj _ => false
  | _ => true

end Json

namespace Schema

/-- A schema whose verdicts last. A number that has become a text is still welcome when it is read back, no property
stands in the way of the items of an array, and the names of properties are distinct; the same holds for all of its
parts. -/
inductive Steady : Schema → Prop where
  | intro {s : Schema} (distinct : (s.properties.map (·.1)).Nodup)
      (casts : .string ∈ s.types → .integer ∈ s.types → .number ∈ s.types)
      (unindexed : .array ∈ s.types → s.items.isSome → ∀ entry ∈ s.properties, readIndex? entry.1 = none)
      (properties : ∀ entry ∈ s.properties, Steady entry.2)
      (items : ∀ item, s.items = some item → Steady item) : Steady s

theorem Steady.distinct {s : Schema} (h : s.Steady) : (s.properties.map (·.1)).Nodup := by
  cases h with
  | intro distinct => exact distinct

theorem Steady.property {s : Schema} (h : s.Steady) {entry : String × Schema} (listed : entry ∈ s.properties) :
    entry.2.Steady := by
  cases h with
  | intro _ _ _ properties => exact properties entry listed

theorem Steady.item {s item : Schema} (h : s.Steady) (described : s.items = some item) : item.Steady := by
  cases h with
  | intro _ _ _ _ items => exact items item described

theorem steady_ofType (t : ValueType) : (ofType t).Steady := by
  have types : (ofType t).types = [t] := rfl
  apply Steady.intro
  · simp [ofType, empty]
  · rw [types, List.mem_singleton, List.mem_singleton]
    rintro rfl other
    cases other
  · simp [ofType, empty]
  · simp [ofType, empty]
  · simp [ofType, empty]

def castTo (types : List ValueType) (value : Json) : Json := (cast? value types).getD value

def Admits (types : List ValueType) (value : Json) : Prop :=
  types = [] ∨ typeOf (castTo types value) (types.contains .number) ∈ types

/-- The value that validation looks at under a key: the one that is there, or else the default. -/
def offered (fields : Object) (key : String) (s : Schema) : Option Json := (KeyMap.get? fields key).or s.default

/-- There is nothing to be said against a value: neither against its type, nor against its members, missing ones with
their defaults included. -/
inductive Fits : Schema → Json → Prop where
  | scalar {s : Schema} {value : Json} (simple : value.isScalar = true) (type : Admits s.types value) : Fits s value
  | arr {s : Schema} {elements : List Json} (type : Admits s.types (.arr elements))
      (items : .array ∈ s.types → ∀ item, s.items = some item → ∀ element ∈ elements, Fits item element) :
      Fits s (.arr elements)
  | obj {s : Schema} {fields : Object} (type : Admits s.types (.obj fields))
      (complete : .object ∈ s.types → s.missingKeys fields = [])
      (members : .object ∈ s.types → ∀ entry ∈ s.properties, ∀ member,
        offered fields entry.1 entry.2 = some member → Fits entry.2 member) :
      Fits s (.obj fields)

inductive Cast (types : List ValueType) : Json → Json → Prop where
  | kept (value : Json) : Cast types value value
  | read (text : String) (n : Number) : .number ∈ types ∨ .integer ∈ types → Cast types (.str text) (.num n)
  | written (n : Number) : .string ∈ types → Cast types (.num n) (.str n.text)
  | flag (n : Number) (b : Bool) : .boolean ∈ types → Cast types (.num n) (.bool b)

theorem numberOfText?_eq_some {text : String} {value : Json} (h : numberOfText? text = some value) :
    ∃ n, value = .num n := by
  unfold numberOfText? at h
  extract_lets trimmed at h
  split at h
  · cases h
    exact ⟨_, rfl⟩
  · split at h
    · cases h
      exact ⟨_, rfl⟩
    · cases h

theorem cast_castTo (types : List ValueType) (value : Json) : Cast types value (castTo types value) := by
  cases value with
  | str text =>
    simp only [castTo, cast?]
    split
    · next asked =>
      cases found : numberOfText? text with
      | none => exact .kept _
      | some value =>
        obtain ⟨n, rfl⟩ := numberOfText?_eq_some found
        exact .read text n asked
    · exact .kept _
  | num n =>
    simp only [castTo, cast?]
    split
    · next asked => exact .written n asked
    · split
      · next asked => exact .flag n _ asked
      · exact .kept _
  | _ => exact .kept _

theorem Cast.isScalar {types : List ValueType} {value after : Json} (h : Cast types value after) :
    after.isScalar = value.isScalar := by
  cases h <;> rfl

theorem Cast.isNull {types : List ValueType} {value after : Json} (h : Cast types value after) :
    after.isNull = value.isNull := by
  cases h <;> rfl

theorem admits_castTo {types : List ValueType} (casts : .string ∈ types → .integer ∈ types → .number ∈ types)
    {value : Json} (h : Admits types value) : Admits types (castTo types value) := by
  rcases h with none | member
  · exact .inl none
  · right
    have first := cast_castTo types value
    have second := cast_castTo types (castTo types value)
    generalize castTo types (castTo types value) = last at second ⊢
    generalize same : castTo types value = middle at first second member
    cases second with
    | kept => exact member
    | read text n asked =>
      -- A text that came from a number is read back as one, whether integral or not.
      have text : .string ∈ types := by
        cases first with
        | written m asked => exact asked
        | kept => exact member
      have all : .number ∈ types := asked.elim id (casts text)
      simp [typeOf, all]
    | written n asked => exact asked
    | flag n b asked => exact asked

theorem checkType_fst (types : List ValueType) (path : Path) (value : Json) :
    (checkType types path value).1 = castTo types value := by
  unfold checkType castTo
  split
  · next none =>
    rw [List.isEmpty_iff.1 none]
    cases value <;> simp [cast?]
  · dsimp only
    split <;> rfl

theorem checkType_snd (types : List ValueType) (path : Path) (value : Json) :
    (checkType types path value).2 = [] ↔ Admits types value := by
  unfold checkType Admits castTo
  by_cases none : types = []
  · simp [none]
  · rw [if_neg (by simp [none])]
    dsimp only
    split
    · next fine => exact iff_of_true rfl (.inr fine)
    · next wrong => simpa [none] using wrong

theorem validateAt_scalar (s : Schema) (path : Path) {value : Json} (simple : value.isScalar = true) :
    validateAt s path value = checkType s.types path value := by
  obtain ⟨declared, properties, required, items, default, readOnly, primaryKey⟩ := s
  rw [validateAt]
  have cast := checkType_fst
    (types ⟨declared, properties, required, items, default, readOnly, primaryKey⟩) path value
  generalize checkType _ path value = checked at cast ⊢
  obtain ⟨after, errors⟩ := checked
  have still : after.isScalar = true := by
    rw [show after = _ from cast, (cast_castTo _ value).isScalar, simple]
  cases after with
  | arr elements => cases still
  | obj fields => cases still
  | _ => rfl

theorem validateAt_arr (s : Schema) (path : Path) (elements : List Json) :
    validateAt s path (.arr elements) =
      if .array ∈ s.types then
        (.arr (validateItems s.items path 0 elements).1,
          (checkType s.types path (.arr elements)).2 ++ (validateItems s.items path 0 elements).2)
      else (.arr elements, (checkType s.types path (.arr elements)).2) := by
  obtain ⟨declared, properties, required, items, default, readOnly, primaryKey⟩ := s
  rw [validateAt]
  have cast := checkType_fst (types ⟨declared, properties, required, items, default, readOnly, primaryKey⟩) path
    (.arr elements)
  generalize checkType _ path (.arr elements) = checked at cast ⊢
  obtain ⟨after, errors⟩ := checked
  cases cast
  rfl

theorem validateAt_object (s : Schema) (path : Path) (fields : Object) :
    validateAt s path (.obj fields) =
      if .object ∈ s.types then
        (.obj (validateProperties s.properties path fields).1,
          (checkType s.types path (.obj fields)).2 ++ checkRequired s path fields ++
            (validateProperties s.properties path fields).2)
      else (.obj fields, (checkType s.types path (.obj fields)).2) := by
  obtain ⟨declared, properties, required, items, default, readOnly, primaryKey⟩ := s
  rw [validateAt]
  have cast := checkType_fst (types ⟨declared, properties, required, items, default, readOnly, primaryKey⟩) path
    (.obj fields)
  generalize checkType _ path (.obj fields) = checked at cast ⊢
  obtain ⟨after, errors⟩ := checked
  cases cast
  rfl

theorem checkRequired_eq_nil (s : Schema) (path : Path) (fields : Object) :
    checkRequired s path fields = [] ↔ s.missingKeys fields = [] := by
  unfold checkRequired
  split
  · next none => simp [none]
  · next missing some => simpa using some

/-- What validation makes of a value that is not missing is not missing. -/
theorem isNull_validateAt (s : Schema) (path : Path) (value : Json) :
    (validateAt s path value).1.isNull = value.isNull := by
  cases value with
  | arr elements =>
    rw [validateAt_arr]
    split <;> rfl
  | obj fields =>
    rw [validateAt_object]
    split <;> rfl
  | _ =>
    rw [validateAt_scalar s path rfl, checkType_fst]
    exact (cast_castTo _ _).isNull

section Properties

variable {path : Path}

theorem validateProperties_of_not_mem {properties : List (String × Schema)} {key : String}
    (h : key ∉ properties.map (·.1)) (fields : Object) :
    KeyMap.get? (validateProperties properties path fields).1 key = KeyMap.get? fields key := by
  induction properties generalizing fields with
  | nil => rw [validateProperties]
  | cons property rest ih =>
    obtain ⟨name, s⟩ := property
    simp only [List.map_cons, List.mem_cons, not_or] at h
    rw [validateProperties]
    split
    · exact ih h.2 fields
    · exact (ih h.2 _).trans (KeyMap.get?_insert_of_ne fields h.1 _)

theorem get?_validateProperties {properties : List (String × Schema)} (distinct : (properties.map (·.1)).Nodup)
    {key : String} {s : Schema} (listed : (key, s) ∈ properties) (fields : Object) :
    KeyMap.get? (validateProperties properties path fields).1 key =
      (offered fields key s).map fun value => (validateAt s (path ++ [key]) value).1 := by
  induction properties generalizing fields with
  | nil => cases listed
  | cons property rest ih =>
    obtain ⟨name, t⟩ := property
    obtain ⟨fresh, distinct⟩ := List.nodup_cons.1 distinct
    rw [validateProperties]
    rcases List.mem_cons.1 listed with same | later
    · cases same
      split
      · next absent =>
        rw [validateProperties_of_not_mem fresh, offered, absent]
        exact (Option.or_eq_none_iff.1 absent).1
      · next value found =>
        rw [offered, found]
        exact (validateProperties_of_not_mem fresh _).trans (KeyMap.get?_insert_self fields key _)
    · have ne : key ≠ name := by
        rintro rfl
        exact fresh (List.mem_map.2 ⟨_, later, rfl⟩)
      split
      · exact ih distinct later fields
      · have same (value : Json) : offered (KeyMap.insert fields name value) key s = offered fields key s := by
          rw [offered, offered, KeyMap.get?_insert_of_ne fields ne]
        exact (ih distinct later _).trans (by rw [same])

/-- What validation will look at the next time is what it has made of what it looked at. -/
theorem offered_validateProperties {properties : List (String × Schema)} (distinct : (properties.map (·.1)).Nodup)
    {key : String} {s : Schema} (listed : (key, s) ∈ properties) (fields : Object) :
    offered (validateProperties properties path fields).1 key s =
      (offered fields key s).map fun value => (validateAt s (path ++ [key]) value).1 := by
  rw [offered, get?_validateProperties distinct listed]
  cases shown : offered fields key s with
  | none => exact (Option.or_eq_none_iff.1 shown).2
  | some value => rfl

theorem validateProperties_errors {properties : List (String × Schema)} (distinct : (properties.map (·.1)).Nodup)
    (fields : Object) :
    (validateProperties properties path fields).2 = [] ↔
      ∀ entry ∈ properties, ∀ value, offered fields entry.1 entry.2 = some value →
        (validateAt entry.2 (path ++ [entry.1]) value).2 = [] := by
  induction properties generalizing fields with
  | nil => simp [validateProperties]
  | cons property rest ih =>
    obtain ⟨name, t⟩ := property
    obtain ⟨fresh, distinct⟩ := List.nodup_cons.1 distinct
    have same (value : Json) (entry : String × Schema) (later : entry ∈ rest) :
        offered (KeyMap.insert fields name value) entry.1 entry.2 = offered fields entry.1 entry.2 := by
      have ne : entry.1 ≠ name := by
        rintro rfl
        exact fresh (List.mem_map.2 ⟨_, later, rfl⟩)
      rw [offered, offered, KeyMap.get?_insert_of_ne fields ne]
    rw [validateProperties, List.forall_mem_cons]
    split
    · next absent =>
      rw [ih distinct]
      simp [offered, absent]
    · next value found =>
      have rest_iff := ih distinct (KeyMap.insert fields name (validateAt t (path ++ [name]) value).1)
      simp only [List.append_eq_nil_iff, rest_iff]
      refine and_congr ?_ ?_
      · simp [offered, found]
      · refine forall₂_congr fun entry later => ?_
        rw [same _ entry later]

end Properties

theorem length_validateItems (item : Schema) (path : Path) (start : Nat) (elements : List Json) :
    (validateItems (some item) path start elements).1.length = elements.length := by
  simp [validateItems]

theorem getElem?_validateItems (item : Schema) (path : Path) (start : Nat) (elements : List Json) (i : Nat) :
    (validateItems (some item) path start elements).1[i]? =
      elements[i]?.map fun element => (validateAt item (path ++ [toString (start + i)]) element).1 := by
  simp [validateItems, List.getElem?_zipIdx, Function.comp_def]

/-- Nothing is said against the elements when nothing is said against any of them at its index. -/
theorem validateItems_fine (item : Schema) (path : Path) (elements : List Json) :
    (validateItems (some item) path 0 elements).2 = [] ↔
      ∀ (i : Nat) (element : Json), elements[i]? = some element →
        (validateAt item (path ++ [toString i]) element).2 = [] := by
  simp only [validateItems, List.flatMap_map, List.flatMap_eq_nil_iff, List.mem_zipIdx_iff_getElem?]
  exact ⟨fun each i element shown => each (element, i) shown, fun each entry shown => each entry.2 entry.1 shown⟩

theorem forall_mem_zipIdx {elements : List Json} {start : Nat} {P : Json → Prop} :
    (∀ entry ∈ elements.zipIdx start, P entry.1) ↔ ∀ element ∈ elements, P element := by
  have mapped : (∀ element ∈ (elements.zipIdx start).map Prod.fst, P element) ↔ _ := List.forall_mem_map
  rw [List.zipIdx_map_fst] at mapped
  exact mapped.symm

theorem validateItems_errors {s : Schema} (judged : ∀ path value, (validateAt s path value).2 = [] ↔ s.Fits value)
    (path : Path) (start : Nat) (elements : List Json) :
    (validateItems (some s) path start elements).2 = [] ↔ ∀ element ∈ elements, s.Fits element := by
  simp only [validateItems, List.flatMap_map, List.flatMap_eq_nil_iff, judged]
  exact forall_mem_zipIdx

/-- A value fits when validation does not complain, wherever the value stands. -/
theorem validateAt_errors {s : Schema} (steady : s.Steady) (path : Path) (value : Json) :
    (validateAt s path value).2 = [] ↔ s.Fits value := by
  induction steady generalizing path value with
  | @intro s distinct casts unindexed properties items properties_ih items_ih =>
    cases value with
    | arr elements =>
      have nested : (validateItems s.items path 0 elements).2 = [] ↔
          ∀ item, s.items = some item → ∀ element ∈ elements, item.Fits element := by
        cases described : s.items with
        | none => simp [validateItems]
        | some item => simpa using validateItems_errors (items_ih item described) path 0 elements
      rw [validateAt_arr]
      constructor
      · intro fine
        split at fine
        · have parts := List.append_eq_nil_iff.1 fine
          exact .arr ((checkType_snd _ _ _).1 parts.1) fun _ => nested.1 parts.2
        · next other => exact .arr ((checkType_snd _ _ _).1 fine) fun listed => absurd listed other
      · intro fits
        cases fits with
        | scalar simple type => cases simple
        | arr type fit =>
          split
          · next listed => exact List.append_eq_nil_iff.2 ⟨(checkType_snd _ _ _).2 type, nested.2 (fit listed)⟩
          · exact (checkType_snd _ _ _).2 type
    | obj fields =>
      have nested : (validateProperties s.properties path fields).2 = [] ↔
          ∀ entry ∈ s.properties, ∀ member,
            offered fields entry.1 entry.2 = some member → entry.2.Fits member := by
        rw [validateProperties_errors distinct]
        refine forall₂_congr fun entry listed => ?_
        simp only [properties_ih entry listed]
      rw [validateAt_object]
      constructor
      · intro fine
        split at fine
        · have parts := List.append_eq_nil_iff.1 fine
          have checks := List.append_eq_nil_iff.1 parts.1
          exact .obj ((checkType_snd _ _ _).1 checks.1) (fun _ => (checkRequired_eq_nil _ _ _).1 checks.2)
            fun _ => nested.1 parts.2
        · next other =>
          exact .obj ((checkType_snd _ _ _).1 fine) (fun listed => absurd listed other)
            fun listed => absurd listed other
      · intro fits
        cases fits with
        | scalar simple type => cases simple
        | obj type complete members =>
          split
          · next listed =>
            simp only [List.append_eq_nil_iff]
            exact ⟨⟨(checkType_snd _ _ _).2 type, (checkRequired_eq_nil _ _ _).2 (complete listed)⟩,
              nested.2 (members listed)⟩
          · exact (checkType_snd _ _ _).2 type
    | _ =>
      rw [validateAt_scalar s path rfl, checkType_snd]
      constructor
      · exact .scalar rfl
      · intro fits
        cases fits with
        | scalar simple type => exact type

theorem missingKeys_validateProperties {s : Schema} (distinct : (s.properties.map (·.1)).Nodup) (path : Path)
    {fields : Object} (complete : s.missingKeys fields = []) :
    s.missingKeys (validateProperties s.properties path fields).1 = [] := by
  rw [missingKeys, List.filter_eq_nil_iff] at complete ⊢
  intro key required missing
  apply complete key required
  simp only [Bool.and_eq_true] at missing ⊢
  refine ⟨missing.1, ?_⟩
  by_cases listed : key ∈ s.properties.map (·.1)
  · obtain ⟨⟨name, p⟩, member, same⟩ := List.mem_map.1 listed
    cases same
    have after := missing.2
    rw [get?_validateProperties distinct member] at after
    cases found : KeyMap.get? fields name with
    | none => rfl
    | some value => simpa [offered, found, isNull_validateAt] using after
  · rw [validateProperties_of_not_mem listed] at missing
    exact missing.2

/-- What has passed validation once fits, as validation leaves it. -/
theorem fits_validateAt {s : Schema} (steady : s.Steady) (path : Path) {value : Json} (fits : s.Fits value) :
    s.Fits (validateAt s path value).1 := by
  induction steady generalizing path value with
  | @intro s distinct casts unindexed properties items properties_ih items_ih =>
    cases fits with
    | scalar simple type =>
      rw [validateAt_scalar s path simple, checkType_fst]
      exact .scalar ((cast_castTo _ _).isScalar.trans simple) (admits_castTo casts type)
    | @arr _ elements type fit =>
      rw [validateAt_arr]
      split
      · next listed =>
        refine .arr type fun _ item described after member => ?_
        rw [described] at member
        simp only [validateItems, List.map_map, List.mem_map] at member
        obtain ⟨⟨element, index⟩, entry, rfl⟩ := member
        exact items_ih item described _ (fit listed item described element (List.fst_mem_of_mem_zipIdx entry))
      · exact .arr type fit
    | @obj _ fields type complete members =>
      rw [validateAt_object]
      split
      · next listed =>
        refine .obj type (fun _ => missingKeys_validateProperties distinct path (complete listed)) ?_
        intro _ entry property member found
        rw [offered_validateProperties distinct property] at found
        obtain ⟨value, shown, rfl⟩ := Option.map_eq_some_iff.1 found
        exact properties_ih entry property _ (members listed entry property value shown)
      · exact .obj type complete members

end Schema

end RecordSync
