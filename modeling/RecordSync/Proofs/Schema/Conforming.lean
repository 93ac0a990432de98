import RecordSync.Proofs.Numeric.Integral
import RecordSync.Proofs.Schema.Fitting
import RecordSync.Proofs.Schema.WellFormed

/-!
# What validation leaves behind

Validation checks a value and repairs it in one pass. When it does not complain, what it leaves behind conforms to the
schema; and whether it complains or not, it has done nothing but fill in defaults and cast numbers and numeric texts.
-/

set_option autoImplicit false

namespace RecordSync

def Number.IsWhole (n : Number) : Prop := ∃ k : Int, n.exactUnits = k * Binary64.unitsPerOne

def Json.IsOf (j : Json) : ValueType → Prop
  | .string => ∃ s, j = .str s
  | .number => ∃ n, j = .num n
  | .integer => ∃ n : Number, j = .num n ∧ n.IsWhole
  | .boolean => ∃ b, j = .bool b
  | .object => ∃ fields, j = .obj fields
  | .array => ∃ items, j = .arr items
  | .null => j = .null

namespace Schema

theorem isWhole_of_isIntegral {n : Number} (h : isIntegral n = true) : n.IsWhole := by
  cases n with
  | int k => exact ⟨k, rfl⟩
  | double x =>
    obtain ⟨k, whole⟩ := Option.isSome_iff_exists.1 h
    exact ⟨k, Double.signedUnits_of_toInt? whole⟩

theorem isOf_typeOf (value : Json) (allNumbers : Bool) : value.IsOf (typeOf value allNumbers) := by
  cases value with
  | num n =>
    rw [typeOf]
    split
    · exact ⟨n, rfl⟩
    · next integral =>
      simp only [Bool.or_eq_true, Bool.not_eq_true', not_or, Bool.not_eq_false] at integral
      exact ⟨n, rfl, isWhole_of_isIntegral integral.2⟩
  | null => rfl
  | _ => exact ⟨_, rfl⟩

def Types (s : Schema) (value : Json) : Prop := s.types ≠ [] → ∃ t ∈ s.types, value.IsOf t

/-- The values that a schema describes: of a declared type; objects with all required keys and all properties that have
defaults; and so on in the declared properties of objects and in the items of arrays. -/
inductive Conforms : Schema → Json → Prop where
  | scalar {s : Schema} {value : Json} (simple : value.isScalar = true) (typed : s.Types value) : Conforms s value
  | arr {s : Schema} {elements : List Json} (typed : s.Types (.arr elements))
      (items : .array ∈ s.types → ∀ item, s.items = some item → ∀ element ∈ elements, Conforms item element) :
      Conforms s (.arr elements)
  | obj {s : Schema} {fields : Object} (typed : s.Types (.obj fields))
      (required : .object ∈ s.types → ∀ key ∈ s.required, KeyMap.contains fields key = true)
      (filled : .object ∈ s.types → ∀ entry ∈ s.properties, entry.2.default.isSome = true →
        KeyMap.contains fields entry.1 = true)
      (members : .object ∈ s.types → ∀ entry ∈ s.properties, ∀ member,
        KeyMap.get? fields entry.1 = some member → Conforms entry.2 member) :
      Conforms s (.obj fields)

/-- A value whose type is not complained about is of a declared type after its cast. -/
theorem types_castTo {s : Schema} {path : Path} {value : Json} (fine : (checkType s.types path value).2 = []) :
    s.Types (castTo s.types value) := fun declared =>
  ⟨_, ((checkType_snd _ _ _).1 fine).resolve_left declared, isOf_typeOf _ _⟩

theorem types_arr {s : Schema} {path : Path} {elements : List Json}
    (fine : (checkType s.types path (.arr elements)).2 = []) (after : List Json) : s.Types (.arr after) := fun declared =>
  ⟨.array, ((checkType_snd _ _ _).1 fine).resolve_left declared, after, rfl⟩

theorem types_obj {s : Schema} {path : Path} {fields : Object}
    (fine : (checkType s.types path (.obj fields)).2 = []) (after : Object) : s.Types (.obj after) := fun declared =>
  ⟨.object, ((checkType_snd _ _ _).1 fine).resolve_left declared, after, rfl⟩

section Objects

variable {s : Schema} {path : Path} {fields : Object}

/-- Properties with defaults are there after validation, and so are those that were there before. -/
theorem contains_validateProperties (distinct : (s.properties.map (·.1)).Nodup) {entry : String × Schema}
    (listed : entry ∈ s.properties) :
    KeyMap.contains (validateProperties s.properties path fields).1 entry.1 =
      (offered fields entry.1 entry.2).isSome := by
  rw [KeyMap.contains, get?_validateProperties distinct listed, Option.isSome_map]

theorem contains_of_required (distinct : (s.properties.map (·.1)).Nodup) (complete : s.missingKeys fields = [])
    {key : String} (required : key ∈ s.required) :
    KeyMap.contains (validateProperties s.properties path fields).1 key = true := by
  have present := missingKeys_validateProperties distinct path complete
  rw [missingKeys, List.filter_eq_nil_iff] at present
  have kept := present key required
  rw [Bool.and_eq_true, not_and, Bool.not_eq_true'] at kept
  cases truthy : Json.truthy ((KeyMap.get? s.properties key).bind (·.default)) with
  | false =>
    have found := kept truthy
    rw [KeyMap.contains]
    cases shown : KeyMap.get? (validateProperties s.properties path fields).1 key with
    | none => simp [shown, Json.isNull] at found
    | some value => rfl
  | true =>
    cases given : (KeyMap.get? s.properties key).bind (·.default) with
    | none => simp [given, Json.truthy] at truthy
    | some value =>
      obtain ⟨p, property, default⟩ := Option.bind_eq_some_iff.1 given
      have listed : (key, p) ∈ s.properties := KeyMap.mem_of_get? property
      rw [contains_validateProperties distinct listed, offered, default, Option.isSome_or, Option.isSome_some,
        Bool.or_true]

end Objects

/-- Without complaint every element was validated without complaint. -/
theorem exists_of_mem_validateItems {item : Schema} {path : Path} {start : Nat} {elements : List Json}
    (fine : (validateItems (some item) path start elements).2 = []) {after : Json}
    (member : after ∈ (validateItems (some item) path start elements).1) :
    ∃ here element, (validateAt item here element).2 = [] ∧ after = (validateAt item here element).1 := by
  simp only [validateItems, List.flatMap_map, List.flatMap_eq_nil_iff] at fine
  simp only [validateItems, List.map_map, List.mem_map] at member
  obtain ⟨⟨element, index⟩, listed, rfl⟩ := member
  exact ⟨path ++ [toString index], element, fine _ listed, rfl⟩

theorem conforms_validateAt {s : Schema} (wellFormed : s.WellFormed) (path : Path) (value : Json)
    (fine : (validateAt s path value).2 = []) : s.Conforms (validateAt s path value).1 := by
  induction wellFormed generalizing path value with
  | @intro s ordered properties items properties_ih items_ih =>
    have distinct := ordered.nodup_keys
    cases value with
    | arr elements =>
      rw [validateAt_arr] at fine ⊢
      split at fine
      · next listed =>
        obtain ⟨type, nested⟩ := List.append_eq_nil_iff.1 fine
        rw [if_pos listed]
        refine .arr (types_arr type _) fun _ item described after member => ?_
        rw [described] at member nested
        obtain ⟨here, element, valid, rfl⟩ := exists_of_mem_validateItems nested member
        exact items_ih item described here element valid
      · next other =>
        rw [if_neg other]
        exact .arr (types_arr fine _) fun listed => absurd listed other
    | obj fields =>
      rw [validateAt_object] at fine ⊢
      split at fine
      · next listed =>
        rw [if_pos listed]
        obtain ⟨checks, nested⟩ := List.append_eq_nil_iff.1 fine
        obtain ⟨type, complete⟩ := List.append_eq_nil_iff.1 checks
        refine .obj (types_obj type _) (fun _ key required => ?_) (fun _ entry property default => ?_)
          fun _ entry property member found => ?_
        · exact contains_of_required distinct ((checkRequired_eq_nil _ _ _).1 complete) required
        · rw [contains_validateProperties distinct property, offered, Option.isSome_or, default, Bool.or_true]
        · rw [get?_validateProperties distinct property] at found
          obtain ⟨value, shown, rfl⟩ := Option.map_eq_some_iff.1 found
          exact properties_ih entry property _ value ((validateProperties_errors distinct fields).1 nested entry property
            value shown)
      · next other =>
        rw [if_neg other]
        exact .obj (types_obj fine _) (fun listed => absurd listed other) (fun listed => absurd listed other)
          fun listed => absurd listed other
    | _ =>
      rw [validateAt_scalar s path rfl] at fine ⊢
      rw [checkType_fst]
      exact .scalar (cast_castTo _ _).isScalar (types_castTo fine)

/-- The casts: a numeric text becomes the number it denotes, and a number becomes its text or says whether it is zero. -/
inductive Turned (types : List ValueType) : Json → Json → Prop where
  | number {text : String} {n : Number} (asked : .number ∈ types ∨ .integer ∈ types)
      (numeric : numberOfText? text = some (.num n)) : Turned types (.str text) (.num n)
  | text (n : Number) (asked : .string ∈ types) : Turned types (.num n) (.str n.text)
  | flag (n : Number) (asked : .boolean ∈ types) : Turned types (.num n) (.bool (!n.toDouble.isZero))

theorem turned_castTo (types : List ValueType) (value : Json) :
    castTo types value = value ∨ Turned types value (castTo types value) := by
  cases value with
  | str text =>
    simp only [castTo, cast?]
    split
    · next asked =>
      cases found : numberOfText? text with
      | none => exact .inl rfl
      | some value =>
        obtain ⟨n, rfl⟩ := numberOfText?_eq_some found
        exact .inr (.number asked found)
    · exact .inl rfl
  | num n =>
    simp only [castTo, cast?]
    split
    · next asked => exact .inr (.text n asked)
    · split
      · next asked => exact .inr (.flag n asked)
      · exact .inl rfl
  | _ => exact .inl rfl

/-- What may become of a value: nothing; a cast towards a declared type; changes of the same kind to the elements of an
array whose items are described; or changes of the same kind to the declared properties of an object, where missing ones
are added from their defaults. The keys of an object keep their order, and no element or key is dropped. -/
inductive Adjusted : Schema → Json → Json → Prop where
  | same (s : Schema) (value : Json) : Adjusted s value value
  | cast {s : Schema} {before after : Json} (turned : Turned s.types before after) : Adjusted s before after
  | arr {s item : Schema} {elements after : List Json} (array : .array ∈ s.types) (described : s.items = some item)
      (length : after.length = elements.length)
      (items : ∀ (i : Nat) (before now : Json), elements[i]? = some before → after[i]? = some now →
        Adjusted item before now) : Adjusted s (.arr elements) (.arr after)
  | obj {s : Schema} {fields after : Object} (object : .object ∈ s.types)
      (order : (fields.map (·.1)).Sublist (after.map (·.1)))
      (kept : ∀ key, key ∉ s.properties.map (·.1) → KeyMap.get? after key = KeyMap.get? fields key)
      (filled : ∀ entry ∈ s.properties,
        KeyMap.contains after entry.1 = (offered fields entry.1 entry.2).isSome)
      (members : ∀ entry ∈ s.properties, ∀ before now, offered fields entry.1 entry.2 = some before →
        KeyMap.get? after entry.1 = some now → Adjusted entry.2 before now) : Adjusted s (.obj fields) (.obj after)

theorem sublist_validateProperties (properties : List (String × Schema)) (path : Path) (fields : Object) :
    (fields.map (·.1)).Sublist ((validateProperties properties path fields).1.map (·.1)) := by
  induction properties generalizing fields with
  | nil =>
    rw [validateProperties]
  | cons property rest ih =>
    obtain ⟨key, s⟩ := property
    rw [validateProperties]
    split
    · exact ih fields
    · exact (KeyMap.sublist_insert fields key _).trans (ih _)

theorem adjusted_validateAt {s : Schema} (wellFormed : s.WellFormed) (path : Path) (value : Json) :
    s.Adjusted value (validateAt s path value).1 := by
  induction wellFormed generalizing path value with
  | @intro s ordered properties items properties_ih items_ih =>
    have distinct := ordered.nodup_keys
    cases value with
    | arr elements =>
      rw [validateAt_arr]
      split
      · next listed =>
        cases described : s.items with
        | none =>
          rw [validateItems]
          exact .same s _
        | some item =>
          refine .arr listed described (length_validateItems _ _ _ _) fun i before now shown found => ?_
          rw [getElem?_validateItems, shown] at found
          cases found
          exact items_ih item described _ before
      · exact .same s _
    | obj fields =>
      rw [validateAt_object]
      split
      · next listed =>
        refine .obj listed (sublist_validateProperties _ _ _) (fun key other => validateProperties_of_not_mem other _)
          (fun entry property => contains_validateProperties distinct property) fun entry property before now shown found => ?_
        rw [get?_validateProperties distinct property, shown] at found
        cases found
        exact properties_ih entry property _ before
      · exact .same s _
    | _ =>
      rw [validateAt_scalar s path rfl, checkType_fst]
      exact (turned_castTo _ _).elim (fun same => same.symm ▸ .same s _) .cast

/-- Validation is sound and careful: a value that it does not complain about conforms to the schema at the path, as
validation leaves it; and in any case nothing has happened to the value but casts and defaults. -/
theorem validate_conforms {s : Schema} (wellFormed : s.WellFormed) (value : Json) (path : Path) :
    ((s.validate value path).2 = [] → (s.at path).Conforms (s.validate value path).1) ∧
      (s.at path).Adjusted value (s.validate value path).1 :=
  ⟨conforms_validateAt (wellFormed.at path) [] value, adjusted_validateAt (wellFormed.at path) [] value⟩

def contact : Schema :=
  { standard with
    required := ["name"]
    properties :=
      [("home", { standard with properties := [("city", { ofType .string with default := some (.str "x") })] }),
        ("lucky", { ofType .array with items := some (ofType .integer) }),
        ("name", ofType .string),
        ("weight", ofType .number)] }

theorem contact_wellFormed : contact.WellFormed := by decide

def untidy : Json :=
  .obj [("home", .obj []), ("lucky", .arr [.str "7", .num (.int 3)]), ("name", .num (.int 5)), ("weight", .str " 2 ")]

def tidy : Json :=
  .obj [("home", .obj [("city", .str "x")]), ("lucky", .arr [.num (.int 7), .num (.int 3)]), ("name", .str "5"),
    ("weight", .num (.int 2))]

theorem validate_conforms_contact : contact.WellFormed ∧ (contact.validate untidy []).2 = [] ∧
    contact.Conforms tidy ∧ contact.Adjusted untidy tidy := by
  have fine : contact.validate untidy [] = (tidy, []) := rfl
  obtain ⟨sound, careful⟩ := validate_conforms contact_wellFormed untidy []
  rw [fine] at sound careful
  exact ⟨contact_wellFormed, by rw [fine], sound rfl, careful⟩

/-- An empty list of types is not a declaration: nothing is of one of its types, and nothing is complained about. -/
theorem not_types_of_empty_list : ¬∀ (s : Schema) (value : Json), s.WellFormed → (s.validate value []).2 = [] →
    ∀ declared, s.declared = some declared → ∃ t ∈ declared.types, (s.validate value []).1.IsOf t := by
  intro sound
  have wellFormed : Schema.WellFormed { empty with declared := some (.many []) } := by
    apply WellFormed.intro <;> simp [empty, KeyMap.Ordered]
  obtain ⟨t, listed, -⟩ := sound _ (.num (.int 5)) wellFormed rfl _ rfl
  cases listed

end Schema

end RecordSync
