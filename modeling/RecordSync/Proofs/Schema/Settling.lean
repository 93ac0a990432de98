import RecordSync.Proofs.Numeric.Quotient
import RecordSync.Proofs.Numeric.ReadBack
import RecordSync.Proofs.Schema.Fitting
import RecordSync.Proofs.Schema.WellFormed

/-!
# Validating a second time

What has passed validation is validated again whenever it is taken up anew. One pass settles a value unless a type set
welcomes numbers together with texts or booleans: there a cast leads away from a type that is welcome already, and the
next one may lead back, or to a value that is not welcome any more.
-/

set_option autoImplicit false

namespace RecordSync.Schema

section Casts

variable {types : List ValueType}

theorem numberOfText?_of_finite {text : String} {x : FiniteDouble} (trimmed : Unicode.trim text = text)
    (denoted : Decimal.readDouble? text = some (.finite x)) : ∃ m, numberOfText? text = some (.num m) := by
  unfold numberOfText?
  rw [trimmed]
  dsimp only
  rw [denoted]
  split
  · exact ⟨_, rfl⟩
  · exact ⟨_, rfl⟩

/-- The text of a number denotes a number, a large integer its nearest double. -/
theorem exists_numberOfText?_text {n : Number} (data : (Json.num n).WellFormed) :
    ∃ m, numberOfText? n.text = some (.num m) := by
  cases n with
  | int n =>
    have size : n.natAbs ≤ 2 ^ 64 := by
      simp only [Json.WellFormed, fitsSigned64, fitsUnsigned64, Bool.or_eq_true, Bool.and_eq_true,
        decide_eq_true_eq] at data
      omega
    have valid := Decimal.valid_toDigits n.natAbs
    have number : Decimal.Parts.number ⟨Nat.toDigits 10 n.natAbs, [], none⟩ = n.natAbs :=
      Decimal.appendDigits_toDigits _
    obtain ⟨x, finite⟩ := Double.exists_finite_ofDecimal size (decide (n < 0))
    refine numberOfText?_of_finite (x := x) (valid.trim (Decimal.toList_toString n)) ?_
    rw [Number.text, Decimal.readDouble?_parts valid (Decimal.toList_toString n), number]
    exact congrArg some finite
  | double x =>
    obtain ⟨p, chars, valid, made, -⟩ := Decimal.exists_parts_render Decimal.proper_dataLayout data
    exact numberOfText?_of_finite (valid.trim chars) (Decimal.readDouble?_render Decimal.proper_dataLayout data)

theorem castTo_num (n : Number) :
    castTo types (.num n) = if .string ∈ types then .str n.text
      else if .boolean ∈ types then .bool (!n.toDouble.isZero) else .num n := by
  simp only [castTo, cast?]
  split
  · rfl
  · split <;> rfl

theorem castTo_str (text : String) :
    castTo types (.str text) =
      if .number ∈ types ∨ .integer ∈ types then (numberOfText? text).getD (.str text) else .str text := by
  simp only [castTo, cast?]
  split <;> rfl

/-- A number stays what it is where neither texts nor booleans are welcome. -/
theorem castTo_num_eq_self (n : Number) :
    castTo types (.num n) = .num n ↔ ¬(.string ∈ types ∨ .boolean ∈ types) := by
  rw [castTo_num]
  split
  · next text => simp [text]
  · next text =>
    split
    · next flag => simp [flag]
    · next flag => simp [text, flag]

/-- A value that the casts do not leave alone once they have turned it: a numeric text that becomes a number where texts
or booleans are welcome as well, or a number that becomes a text where numbers are welcome as well. -/
inductive Wavers (types : List ValueType) : Json → Prop where
  | text {text : String} {n : Number} (asked : .number ∈ types ∨ .integer ∈ types)
      (numeric : numberOfText? text = some (.num n)) (other : .string ∈ types ∨ .boolean ∈ types) :
      Wavers types (.str text)
  | number (n : Number) (asked : .number ∈ types ∨ .integer ∈ types) (other : .string ∈ types) :
      Wavers types (.num n)

theorem wavers_str {text : String} :
    Wavers types (.str text) ↔ (.number ∈ types ∨ .integer ∈ types) ∧ (∃ n, numberOfText? text = some (.num n)) ∧
      (.string ∈ types ∨ .boolean ∈ types) := by
  constructor
  · intro wavers
    cases wavers with
    | text asked numeric other => exact ⟨asked, ⟨_, numeric⟩, other⟩
  · rintro ⟨asked, ⟨n, numeric⟩, other⟩
    exact .text asked numeric other

theorem wavers_num {n : Number} :
    Wavers types (.num n) ↔ (.number ∈ types ∨ .integer ∈ types) ∧ .string ∈ types := by
  constructor
  · intro wavers
    cases wavers with
    | number _ asked other => exact ⟨asked, other⟩
  · rintro ⟨asked, other⟩
    exact .number n asked other

theorem castTo_again {value : Json} (data : value.WellFormed) :
    castTo types (castTo types value) = castTo types value ↔ ¬Wavers types value := by
  cases value with
  | str text =>
    rw [castTo_str]
    split
    · next asked =>
      cases found : numberOfText? text with
      | none =>
        have kept : castTo types (.str text) = .str text := by rw [castTo_str, if_pos asked, found]; rfl
        exact iff_of_true kept (by simp [wavers_str, found])
      | some value =>
        obtain ⟨n, rfl⟩ := numberOfText?_eq_some found
        rw [Option.getD_some, castTo_num_eq_self, wavers_str]
        exact not_congr ⟨fun other => ⟨asked, ⟨n, found⟩, other⟩, fun wavers => wavers.2.2⟩
    · next unasked =>
      exact iff_of_true (by rw [castTo_str, if_neg unasked]) fun wavers => unasked (wavers_str.1 wavers).1
  | num n =>
    rw [castTo_num]
    split
    · next text =>
      obtain ⟨m, read⟩ := exists_numberOfText?_text data
      rw [castTo_str, read]
      split
      · next asked => exact iff_of_false (by simp) fun settled => settled (.number n asked text)
      · next unasked => exact iff_of_true rfl fun wavers => unasked (wavers_num.1 wavers).1
    · next noText =>
      have settled : ¬Wavers types (.num n) := fun wavers => noText (wavers_num.1 wavers).2
      split
      · exact iff_of_true rfl settled
      · next noFlag => exact iff_of_true ((castTo_num_eq_self n).2 (not_or.2 ⟨noText, noFlag⟩)) settled
  | _ => exact iff_of_true rfl nofun

end Casts

/-- Somewhere inside of a value, among its described parts, a member or its default wavers. -/
inductive Unsettled : Schema → Json → Prop where
  | here {s : Schema} {value : Json} (wavers : Wavers s.types value) : Unsettled s value
  | element {s item : Schema} {elements : List Json} {element : Json} (array : .array ∈ s.types)
      (described : s.items = some item) (listed : element ∈ elements) (below : Unsettled item element) :
      Unsettled s (.arr elements)
  | member {s : Schema} {fields : Object} {entry : String × Schema} {member : Json} (object : .object ∈ s.types)
      (property : entry ∈ s.properties) (shown : offered fields entry.1 entry.2 = some member)
      (below : Unsettled entry.2 member) : Unsettled s (.obj fields)

theorem unsettled_scalar {s : Schema} {value : Json} (simple : value.isScalar = true) :
    s.Unsettled value ↔ Wavers s.types value := by
  constructor
  · intro unsettled
    cases unsettled with
    | here wavers => exact wavers
    | element => cases simple
    | member => cases simple
  · exact .here

theorem unsettled_arr {s : Schema} {elements : List Json} :
    s.Unsettled (.arr elements) ↔
      .array ∈ s.types ∧ ∃ item, s.items = some item ∧ ∃ element ∈ elements, item.Unsettled element := by
  constructor
  · intro unsettled
    cases unsettled with
    | here wavers => cases wavers
    | element array described listed below => exact ⟨array, _, described, _, listed, below⟩
  · rintro ⟨array, item, described, element, listed, below⟩
    exact .element array described listed below

theorem unsettled_obj {s : Schema} {fields : Object} :
    s.Unsettled (.obj fields) ↔
      .object ∈ s.types ∧ ∃ entry ∈ s.properties, ∃ member, offered fields entry.1 entry.2 = some member ∧
        entry.2.Unsettled member := by
  constructor
  · intro unsettled
    cases unsettled with
    | here wavers => cases wavers
    | member object property shown below => exact ⟨object, _, property, _, shown, below⟩
  · rintro ⟨object, entry, property, member, shown, below⟩
    exact .member object property shown below

theorem checkType_arr {types : List ValueType} {path : Path} {elements : List Json}
    (fine : (checkType types path (.arr elements)).2 = []) (after : List Json) :
    (checkType types path (.arr after)).2 = [] := by
  have typed := (checkType_snd _ _ _).1 fine
  exact (checkType_snd _ _ _).2 typed

theorem checkType_object {types : List ValueType} {path : Path} {fields : Object}
    (fine : (checkType types path (.obj fields)).2 = []) (after : Object) :
    (checkType types path (.obj after)).2 = [] := by
  have typed := (checkType_snd _ _ _).1 fine
  exact (checkType_snd _ _ _).2 typed

theorem wellFormed_of_offered {s : Schema} (defaults : s.DefaultsWellFormed) {fields : Object}
    (data : (Json.obj fields).WellFormed) {key : String} {member : Json} (shown : offered fields key s = some member) :
    member.WellFormed := by
  cases defaults with
  | intro default =>
    rcases Option.or_eq_some_iff.1 shown with found | ⟨-, given⟩
    · exact Json.wellFormedFields_iff.1 data.2 _ (KeyMap.mem_of_get? found)
    · exact default member given

theorem validateItems_again {item : Schema} {path : Path} {elements : List Json} :
    (validateItems (some item) path 0 (validateItems (some item) path 0 elements).1).1 =
        (validateItems (some item) path 0 elements).1 ↔
      ∀ (i : Nat) (element : Json), elements[i]? = some element →
        (validateAt item (path ++ [toString i]) (validateAt item (path ++ [toString i]) element).1).1 =
          (validateAt item (path ++ [toString i]) element).1 := by
  constructor
  · intro same i element shown
    have here := congrArg (·[i]?) same
    simpa [getElem?_validateItems, shown] using here
  · intro each
    refine List.ext_getElem? fun i => ?_
    rw [getElem?_validateItems, getElem?_validateItems, Nat.zero_add]
    cases shown : elements[i]? with
    | none => rfl
    | some element => exact congrArg some (each i element shown)

theorem validateProperties_again {properties : List (String × Schema)} (distinct : (properties.map (·.1)).Nodup)
    {path : Path} {fields : Object} (ordered : KeyMap.Ordered fields) :
    (validateProperties properties path (validateProperties properties path fields).1).1 =
        (validateProperties properties path fields).1 ↔
      ∀ entry ∈ properties, ∀ member, offered fields entry.1 entry.2 = some member →
        (validateAt entry.2 (path ++ [entry.1]) (validateAt entry.2 (path ++ [entry.1]) member).1).1 =
          (validateAt entry.2 (path ++ [entry.1]) member).1 := by
  have once := ordered_validateProperties properties path ordered
  constructor
  · intro same entry listed member shown
    have here := congrArg (KeyMap.get? · entry.1) same
    rw [get?_validateProperties distinct listed, offered_validateProperties distinct listed,
      get?_validateProperties distinct listed, shown] at here
    exact Option.some.inj here
  · intro each
    refine (ordered_validateProperties properties path once).ext once fun key => ?_
    by_cases listed : key ∈ properties.map (·.1)
    · obtain ⟨⟨_, p⟩, property, rfl⟩ := List.mem_map.1 listed
      rw [get?_validateProperties distinct property, offered_validateProperties distinct property,
        get?_validateProperties distinct property]
      cases shown : offered fields _ p with
      | none => rfl
      | some member => exact congrArg some (each _ property member shown)
    · exact validateProperties_of_not_mem listed _

section Scalars

variable {s : Schema} (path : Path) {value : Json}

theorem validateAt_castTo (simple : value.isScalar = true) :
    validateAt s path (validateAt s path value).1 = checkType s.types path (castTo s.types value) := by
  have still : (castTo s.types value).isScalar = true := (cast_castTo s.types value).isScalar.trans simple
  rw [validateAt_scalar s path simple, checkType_fst, validateAt_scalar s path still]

theorem validateAt_again_scalar (simple : value.isScalar = true) (data : value.WellFormed) :
    (validateAt s path (validateAt s path value).1).1 = (validateAt s path value).1 ↔ ¬s.Unsettled value := by
  rw [validateAt_castTo path simple, checkType_fst, validateAt_scalar s path simple, checkType_fst, castTo_again data,
    unsettled_scalar simple]

theorem validateAt_again_errors_scalar (simple : value.isScalar = true) (data : value.WellFormed)
    (settled : ¬s.Unsettled value) (fine : (validateAt s path value).2 = []) :
    (validateAt s path (validateAt s path value).1).2 = [] := by
  have same := (castTo_again data).2 fun wavers => settled (.here wavers)
  rw [validateAt_scalar s path simple, checkType_snd] at fine
  rw [validateAt_castTo path simple, checkType_snd, Admits, same]
  exact fine

end Scalars

/-- Validation changes a value a second time exactly if something in it wavers, complaints or not. -/
theorem validateAt_again {s : Schema} (wellFormed : s.WellFormed) (defaults : s.DefaultsWellFormed) (path : Path)
    {value : Json} (data : value.WellFormed) :
    (validateAt s path (validateAt s path value).1).1 = (validateAt s path value).1 ↔ ¬s.Unsettled value := by
  induction wellFormed generalizing path value with
  | @intro s ordered properties items properties_ih items_ih =>
    obtain ⟨-, propertyDefaults, itemDefaults⟩ := defaults
    cases value with
    | arr elements =>
      rw [validateAt_arr]
      split
      · next listed =>
        dsimp only
        rw [validateAt_arr, if_pos listed, Json.arr.injEq]
        rw [unsettled_arr]
        cases described : s.items with
        | none => exact iff_of_true (by simp only [validateItems]) (by simp)
        | some item =>
          have judged (element : Json) (member : element ∈ elements) (here : Path) :=
            items_ih item described (itemDefaults item described) here (Json.wellFormedItems_iff.1 data element member)
          simp only [validateItems_again, Option.some.injEq, exists_eq_left']
          constructor
          · rintro each ⟨-, element, member, below⟩
            obtain ⟨i, shown⟩ := List.getElem?_of_mem member
            exact (judged element member _).1 (each i element shown) below
          · intro settled i element shown
            have member := List.mem_of_getElem? shown
            exact (judged element member _).2 fun below => settled ⟨listed, element, member, below⟩
      · next other =>
        exact iff_of_true (by rw [validateAt_arr, if_neg other]) fun unsettled => other (unsettled_arr.1 unsettled).1
    | obj fields =>
      rw [validateAt_object]
      split
      · next listed =>
        dsimp only
        rw [validateAt_object, if_pos listed, Json.obj.injEq, validateProperties_again ordered.nodup_keys data.1,
          unsettled_obj]
        have judged (entry : String × Schema) (property : entry ∈ s.properties) (member : Json)
            (shown : offered fields entry.1 entry.2 = some member) :=
          properties_ih entry property (propertyDefaults entry property) (path ++ [entry.1])
            (wellFormed_of_offered (propertyDefaults entry property) data shown)
        constructor
        · rintro each ⟨-, entry, property, member, shown, below⟩
          exact (judged entry property member shown).1 (each entry property member shown) below
        · intro settled entry property member shown
          exact (judged entry property member shown).2 fun below =>
            settled ⟨listed, entry, property, member, shown, below⟩
      · next other =>
        exact iff_of_true (by rw [validateAt_object, if_neg other]) fun unsettled => other (unsettled_obj.1 unsettled).1
    | _ => exact validateAt_again_scalar path rfl data

/-- What has passed validation and does not waver passes it a second time. -/
theorem validateAt_again_errors {s : Schema} (wellFormed : s.WellFormed) (defaults : s.DefaultsWellFormed) (path : Path)
    {value : Json} (data : value.WellFormed) (settled : ¬s.Unsettled value) (fine : (validateAt s path value).2 = []) :
    (validateAt s path (validateAt s path value).1).2 = [] := by
  induction wellFormed generalizing path value with
  | @intro s ordered properties items properties_ih items_ih =>
    obtain ⟨-, propertyDefaults, itemDefaults⟩ := defaults
    cases value with
    | arr elements =>
      rw [validateAt_arr] at fine ⊢
      split at fine
      · next listed =>
        obtain ⟨type, nested⟩ := List.append_eq_nil_iff.1 fine
        rw [if_pos listed]
        dsimp only
        rw [validateAt_arr, if_pos listed]
        refine List.append_eq_nil_iff.2 ⟨checkType_arr type _, ?_⟩
        cases described : s.items with
        | none => simp only [validateItems]
        | some item =>
          rw [described, validateItems_fine] at nested
          rw [validateItems_fine]
          intro i after found
          rw [getElem?_validateItems, Nat.zero_add] at found
          obtain ⟨element, shown, rfl⟩ := Option.map_eq_some_iff.1 found
          have member := List.mem_of_getElem? shown
          exact items_ih item described (itemDefaults item described) _ (Json.wellFormedItems_iff.1 data element member)
            (fun below => settled (.element listed described member below)) (nested i element shown)
      · next other =>
        rw [if_neg other]
        dsimp only
        rw [validateAt_arr, if_neg other]
        exact fine
    | obj fields =>
      rw [validateAt_object] at fine ⊢
      split at fine
      · next listed =>
        obtain ⟨checks, nested⟩ := List.append_eq_nil_iff.1 fine
        obtain ⟨type, complete⟩ := List.append_eq_nil_iff.1 checks
        rw [if_pos listed]
        dsimp only
        rw [validateAt_object, if_pos listed]
        refine List.append_eq_nil_iff.2 ⟨List.append_eq_nil_iff.2 ⟨checkType_object type _, ?_⟩, ?_⟩
        · rw [checkRequired_eq_nil] at complete ⊢
          exact missingKeys_validateProperties ordered.nodup_keys path complete
        · rw [validateProperties_errors ordered.nodup_keys] at nested ⊢
          intro entry property after found
          rw [offered_validateProperties ordered.nodup_keys property] at found
          obtain ⟨member, shown, rfl⟩ := Option.map_eq_some_iff.1 found
          exact properties_ih entry property (propertyDefaults entry property) _
            (wellFormed_of_offered (propertyDefaults entry property) data shown)
            (fun below => settled (.member listed property shown below)) (nested entry property member shown)
      · next other =>
        rw [if_neg other]
        dsimp only
        rw [validateAt_object, if_neg other]
        exact fine
    | _ => exact validateAt_again_errors_scalar path rfl data settled fine

/-- Numbers are not welcome beside texts or booleans, in any part of the schema. -/
inductive Apart : Schema → Prop where
  | intro {s : Schema}
      (apart : .number ∈ s.types ∨ .integer ∈ s.types → ¬(.string ∈ s.types ∨ .boolean ∈ s.types))
      (properties : ∀ entry ∈ s.properties, Apart entry.2) (items : ∀ item, s.items = some item → Apart item) :
      Apart s

theorem Apart.settled {s : Schema} (apart : s.Apart) (value : Json) : ¬s.Unsettled value := by
  intro unsettled
  induction unsettled with
  | here wavers =>
    cases apart with
    | intro apart =>
      cases wavers with
      | text asked _ other => exact apart asked other
      | number _ asked other => exact apart asked (.inl other)
  | element _ described _ _ ih =>
    cases apart with
    | intro _ _ items => exact ih (items _ described)
  | member _ property _ _ ih =>
    cases apart with
    | intro _ properties => exact ih (properties _ property)

/-- A value that has passed validation passes it a second time unchanged, unless some part of it wavers between numbers
and texts or booleans; and under a schema that keeps these apart no value does. -/
theorem validate_again {s : Schema} (wellFormed : s.WellFormed) (defaults : s.DefaultsWellFormed) {value : Json}
    (data : value.WellFormed) (path : Path) (fine : (s.validate value path).2 = []) :
    (s.validate (s.validate value path).1 path = ((s.validate value path).1, []) ↔ ¬(s.at path).Unsettled value) ∧
      ((s.at path).Apart → s.validate (s.validate value path).1 path = ((s.validate value path).1, [])) := by
  have unchanged := validateAt_again (wellFormed.at path) (defaults.at path) [] data
  have again (settled : ¬(s.at path).Unsettled value) :
      s.validate (s.validate value path).1 path = ((s.validate value path).1, []) :=
    Prod.ext (unchanged.2 settled)
      (validateAt_again_errors (wellFormed.at path) (defaults.at path) [] data settled fine)
  refine ⟨⟨fun same => unchanged.1 ?_, again⟩, fun apart => again (apart.settled value)⟩
  have first := congrArg Prod.fst same
  exact first

def parcel : Schema :=
  { standard with
    properties :=
      [("code", { empty with declared := some (.many [.string, .integer]) }),
        ("weight", { ofType .number with default := some (.str "2") })] }

def parcelData : Json :=
  .obj [("primaryKey", .str "id"),
    ("properties", .obj [("code", .obj [("type", .arr [.str "string", .str "integer"])]),
      ("weight", .obj [("default", .str "2"), ("type", .str "number")])]), ("type", .str "object")]

def unweighed : Json := .obj [("code", .str "a7")]

def weighed : Json := .obj [("code", .str "a7"), ("weight", .num (.int 2))]

theorem wellFormed_parcelData : parcelData.WellFormed := by
  simp only [parcelData, Json.WellFormed, Json.WellFormedFields, Json.WellFormedItems, KeyMap.Ordered]
  decide

theorem validate_again_parcel : parcel.WellFormed ∧ parcel.DefaultsWellFormed ∧ unweighed.WellFormed ∧
    parcel.validate unweighed [] = (weighed, []) ∧ parcel.validate weighed [] = (weighed, []) ∧
    ¬parcel.Unsettled unweighed := by
  have read : ofJson? parcelData = some parcel := rfl
  have wellFormed := wellFormed_of_ofJson? wellFormed_parcelData read
  have defaults := defaultsWellFormed_of_ofJson? wellFormed_parcelData read
  have data : unweighed.WellFormed := ⟨List.pairwise_singleton _ _, trivial, trivial⟩
  have once : parcel.validate unweighed [] = (weighed, []) := rfl
  have fine : (parcel.validate unweighed []).2 = [] := by rw [once]
  have twice : parcel.validate weighed [] = (weighed, []) := rfl
  have settled := (validate_again wellFormed defaults data [] fine).1
  rw [once] at settled
  exact ⟨wellFormed, defaults, data, once, twice, settled.1 twice⟩

/-- A number that is welcome as a number is turned into a text, and that text into the number. -/
theorem validate_to_and_fro : ¬∀ (s : Schema) (value : Json), s.WellFormed → s.DefaultsWellFormed → value.WellFormed →
    (s.validate value []).2 = [] → s.validate (s.validate value []).1 [] = ((s.validate value []).1, []) := by
  intro idempotent
  have wellFormed : Schema.WellFormed { empty with declared := some (.many [.string, .number]) } := by decide
  have defaults : Schema.DefaultsWellFormed { empty with declared := some (.many [.string, .number]) } := by
    apply DefaultsWellFormed.intro <;> simp [empty]
  have same := idempotent _ (.num (.int 5)) wellFormed defaults rfl rfl
  have once : validate { empty with declared := some (.many [.string, .number]) } (.num (.int 5)) [] =
      (.str "5", []) := rfl
  have back : validate { empty with declared := some (.many [.string, .number]) } (.str "5") [] =
      (.num (.int 5), []) := rfl
  rw [once, back] at same
  cases same

end RecordSync.Schema
