import RecordSync.Proofs.Numeric.Parts
import RecordSync.Proofs.Schema.Editing

/-!
# Complaints about required keys

Validation meets every described part of a value, at its path and under its own schema. At each of these places it
complains once about the required keys that an object lacks, before it fills in the defaults there; a key is excused if
its property has a default that counts as true.
-/

set_option autoImplicit false

namespace RecordSync.Schema

/-- The parts of a value that validation comes to, with their paths and schemas: the value itself, the declared
properties of an object, missing ones with their defaults, and the described items of an array. -/
inductive Meets : Schema → Json → Path → Schema → Json → Prop where
  | here (s : Schema) (value : Json) : Meets s value [] s value
  | property {s p t : Schema} {fields : Object} {key : String} {member found : Json} {rest : Path}
      (object : .object ∈ s.types) (listed : (key, p) ∈ s.properties) (shown : offered fields key p = some member)
      (below : Meets p member rest t found) : Meets s (.obj fields) (key :: rest) t found
  | item {s item t : Schema} {elements : List Json} {i : Nat} {element found : Json} {rest : Path}
      (array : .array ∈ s.types) (described : s.items = some item) (shown : elements[i]? = some element)
      (below : Meets item element rest t found) : Meets s (.arr elements) (toString i :: rest) t found

def Lacks (s : Schema) (fields : Object) (key : String) : Prop :=
  s.Requires key ∧ (KeyMap.get? fields key = none ∨ KeyMap.get? fields key = some .null)

def LacksAt (s : Schema) (value : Json) (path : Path) (key : String) : Prop :=
  ∃ t fields, Meets s value path t (.obj fields) ∧ t.Lacks fields key

theorem mem_missingKeys {s : Schema} (object : .object ∈ s.types) {fields : Object} {key : String} :
    key ∈ s.missingKeys fields ↔ s.Lacks fields key := by
  have null : ((KeyMap.get? fields key).getD .null).isNull = true ↔
      KeyMap.get? fields key = none ∨ KeyMap.get? fields key = some .null := by
    cases KeyMap.get? fields key with
    | none => simp [Json.isNull]
    | some member => cases member <;> simp [Json.isNull]
  simp [missingKeys, Lacks, Requires, object, null, and_assoc]

section Places

variable {s : Schema} {key missing : String} {rest : Path}

theorem lacksAt_here {fields : Object} : s.LacksAt (.obj fields) [] key ↔ s.Lacks fields key := by
  constructor
  · rintro ⟨t, found, ⟨⟩, lacks⟩
    exact lacks
  · exact fun lacks => ⟨s, fields, .here s _, lacks⟩

theorem not_lacksAt_here {value : Json} (other : value.obj? = none) : ¬s.LacksAt value [] key := by
  rintro ⟨t, found, ⟨⟩, lacks⟩
  cases other

theorem lacksAt_property {fields : Object} :
    s.LacksAt (.obj fields) (key :: rest) missing ↔
      .object ∈ s.types ∧ ∃ p, (key, p) ∈ s.properties ∧ ∃ member, offered fields key p = some member ∧
        p.LacksAt member rest missing := by
  constructor
  · rintro ⟨t, found, meets, lacks⟩
    cases meets with
    | property object listed shown below => exact ⟨object, _, listed, _, shown, t, found, below, lacks⟩
  · rintro ⟨object, p, listed, member, shown, t, found, below, lacks⟩
    exact ⟨t, found, .property object listed shown below, lacks⟩

theorem lacksAt_item {elements : List Json} :
    s.LacksAt (.arr elements) (key :: rest) missing ↔
      .array ∈ s.types ∧ ∃ item, s.items = some item ∧ ∃ (i : Nat) (element : Json), key = toString i ∧
        elements[i]? = some element ∧ item.LacksAt element rest missing := by
  constructor
  · rintro ⟨t, found, meets, lacks⟩
    cases meets with
    | item array described shown below => exact ⟨array, _, described, _, _, rfl, shown, t, found, below, lacks⟩
  · rintro ⟨array, item, described, i, element, rfl, shown, t, found, below, lacks⟩
    exact ⟨t, found, .item array described shown below, lacks⟩

/-- Below an object that is not validated as one nothing is lacking. -/
theorem object_of_lacksAt {fields : Object} {path : Path} (lacks : s.LacksAt (.obj fields) path key) :
    .object ∈ s.types := by
  cases path with
  | nil => exact (lacksAt_here.1 lacks).1.1
  | cons => exact (lacksAt_property.1 lacks).1

theorem array_of_lacksAt {elements : List Json} {path : Path} (lacks : s.LacksAt (.arr elements) path key) :
    .array ∈ s.types ∧ s.items.isSome = true ∧ path ≠ [] := by
  cases path with
  | nil => exact absurd lacks (not_lacksAt_here rfl)
  | cons =>
    obtain ⟨array, item, described, -⟩ := lacksAt_item.1 lacks
    exact ⟨array, by rw [described]; rfl, List.cons_ne_nil _ _⟩

theorem not_lacksAt_scalar {value : Json} (simple : value.isScalar = true) {path : Path} :
    ¬s.LacksAt value path key := by
  rintro ⟨t, found, meets, lacks⟩
  cases meets <;> cases simple

end Places

def requiredAt (path : Path) (errors : List ValidationError) : List String :=
  (errors.filter fun e => e.keyword == "required" && e.path == path).map (·.message)

def naming (keys : List String) : List String :=
  if keys = [] then [] else ["(" ++ ", ".intercalate keys ++ ") is required"]

theorem naming_eq_nil {keys : List String} : naming keys = [] ↔ keys = [] := by
  unfold naming
  split
  · next none => simp [none]
  · next some => simp [some]

section Complaints

variable {here path : Path}

theorem requiredAt_append (first second : List ValidationError) :
    requiredAt path (first ++ second) = requiredAt path first ++ requiredAt path second := by
  simp [requiredAt]

theorem requiredAt_of_ne {errors : List ValidationError} (other : ∀ e ∈ errors, e.path ≠ path) :
    requiredAt path errors = [] := by
  rw [requiredAt, List.map_eq_nil_iff, List.filter_eq_nil_iff]
  intro e listed both
  rw [Bool.and_eq_true, beq_iff_eq, beq_iff_eq] at both
  exact other e listed both.2

theorem requiredAt_checkType (types : List ValueType) (value : Json) :
    requiredAt path (checkType types here value).2 = [] := by
  unfold checkType
  split
  · rfl
  · dsimp only
    split <;> rfl

theorem requiredAt_checkRequired (s : Schema) (fields : Object) :
    requiredAt here (checkRequired s here fields) = naming (s.missingKeys fields) := by
  unfold checkRequired
  split
  · next none => rw [none]; rfl
  · next missing some =>
    rw [naming, if_neg (by simpa using some)]
    simp [requiredAt]

theorem path_checkType {types : List ValueType} {value : Json} {e : ValidationError}
    (listed : e ∈ (checkType types here value).2) : e.path = here := by
  unfold checkType at listed
  split at listed
  · cases listed
  · dsimp only at listed
    split at listed
    · cases listed
    · rw [List.mem_singleton.1 listed]

theorem path_checkRequired {s : Schema} {fields : Object} {e : ValidationError}
    (listed : e ∈ checkRequired s here fields) : e.path = here := by
  unfold checkRequired at listed
  split at listed
  · cases listed
  · rw [List.mem_singleton.1 listed]

def Inside (s : Schema) : Prop := ∀ here value, ∀ e ∈ (validateAt s here value).2, here <+: e.path

theorem path_validateProperties {properties : List (String × Schema)} (inside : ∀ entry ∈ properties, entry.2.Inside)
    {fields : Object} {e : ValidationError} (listed : e ∈ (validateProperties properties here fields).2) :
    ∃ key ∈ properties.map (·.1), here ++ [key] <+: e.path := by
  induction properties generalizing fields with
  | nil => simp only [validateProperties, List.not_mem_nil] at listed
  | cons property rest ih =>
    obtain ⟨name, p⟩ := property
    have later {fields : Object} (listed : e ∈ (validateProperties rest here fields).2) :
        ∃ key ∈ ((name, p) :: rest).map (·.1), here ++ [key] <+: e.path := by
      obtain ⟨key, member, below⟩ := ih (fun entry listed => inside entry (.tail _ listed)) listed
      exact ⟨key, .tail _ member, below⟩
    rw [validateProperties] at listed
    split at listed
    · exact later listed
    · rcases List.mem_append.1 listed with first | others
      · exact ⟨name, .head _, inside (name, p) (.head _) _ _ e first⟩
      · exact later others

theorem path_validateItems {item : Schema} (inside : item.Inside) {start : Nat} {elements : List Json}
    {e : ValidationError} (listed : e ∈ (validateItems (some item) here start elements).2) :
    ∃ i < elements.length, here ++ [toString (start + i)] <+: e.path := by
  simp only [validateItems, List.flatMap_map, List.mem_flatMap] at listed
  obtain ⟨⟨element, i⟩, member, complaint⟩ := listed
  obtain ⟨least, most, -⟩ := List.mem_zipIdx member
  refine ⟨i - start, by omega, ?_⟩
  rw [Nat.add_sub_cancel' least]
  exact inside _ _ e complaint

theorem inside_of_wellFormed {s : Schema} (wellFormed : s.WellFormed) : s.Inside := by
  induction wellFormed with
  | @intro s ordered properties items properties_ih items_ih =>
    intro here value e listed
    have standing (same : e.path = here) : here <+: e.path := same ▸ List.prefix_rfl
    cases value with
    | arr elements =>
      rw [validateAt_arr] at listed
      split at listed
      · rcases List.mem_append.1 listed with type | nested
        · exact standing (path_checkType type)
        · cases described : s.items with
          | none => simp [described, validateItems] at nested
          | some item =>
            rw [described] at nested
            obtain ⟨i, -, below⟩ := path_validateItems (items_ih item described) nested
            exact (List.prefix_append here _).trans below
      · exact standing (path_checkType listed)
    | obj fields =>
      rw [validateAt_object] at listed
      split at listed
      · rcases List.mem_append.1 listed with checks | nested
        · rcases List.mem_append.1 checks with type | required
          · exact standing (path_checkType type)
          · exact standing (path_checkRequired required)
        · obtain ⟨key, -, below⟩ := path_validateProperties properties_ih nested
          exact (List.prefix_append here _).trans below
      · exact standing (path_checkType listed)
    | _ =>
      rw [validateAt_scalar s here rfl] at listed
      exact standing (path_checkType listed)

theorem prefix_key {key other : String} {rest : Path} : here ++ [key] <+: here ++ other :: rest ↔ key = other := by
  rw [List.prefix_append_right_inj, List.cons_prefix_cons]
  simp

/-- What stands below one key does not stand at a path through another one. -/
theorem requiredAt_of_outside {errors : List ValidationError} {key : String} {rest : Path}
    (below : ∀ e ∈ errors, ∃ other ≠ key, here ++ [other] <+: e.path) :
    requiredAt (here ++ key :: rest) errors = [] := by
  refine requiredAt_of_ne fun e listed same => ?_
  obtain ⟨other, different, under⟩ := below e listed
  rw [same, prefix_key] at under
  exact different under

theorem requiredAt_of_below {errors : List ValidationError}
    (below : ∀ e ∈ errors, ∃ key, here ++ [key] <+: e.path) : requiredAt here errors = [] := by
  refine requiredAt_of_ne fun e listed same => ?_
  obtain ⟨key, under⟩ := below e listed
  have shorter := under.length_le
  rw [same, List.length_append, List.length_singleton] at shorter
  omega

/-- At a path through a key there is what is said of the property of this name. -/
theorem requiredAt_validateProperties {properties : List (String × Schema)} (distinct : (properties.map (·.1)).Nodup)
    (inside : ∀ entry ∈ properties, entry.2.Inside) (fields : Object) (key : String) (rest : Path) :
    requiredAt (here ++ key :: rest) (validateProperties properties here fields).2 =
      match (KeyMap.get? properties key).bind fun p => (offered fields key p).map (p, ·) with
      | some (p, member) => requiredAt (here ++ key :: rest) (validateAt p (here ++ [key]) member).2
      | none => [] := by
  induction properties generalizing fields with
  | nil => simp [validateProperties, requiredAt]
  | cons property others ih =>
    obtain ⟨name, p⟩ := property
    obtain ⟨fresh, distinct⟩ := List.nodup_cons.1 distinct
    have later := ih distinct fun entry listed => inside entry (.tail _ listed)
    rw [validateProperties, KeyMap.get?_cons]
    by_cases same : name = key
    · subst same
      have elsewhere (fields : Object) :
          requiredAt (here ++ name :: rest) (validateProperties others here fields).2 = [] := by
        refine requiredAt_of_outside fun e listed => ?_
        obtain ⟨other, member, below⟩ :=
          path_validateProperties (fun entry listed => inside entry (.tail _ listed)) listed
        exact ⟨other, fun same => fresh (same ▸ member), below⟩
      rw [if_pos rfl, Option.bind_some, offered]
      split
      · next absent => rw [absent, elsewhere]; rfl
      · next value found =>
        rw [found, requiredAt_append, elsewhere, List.append_nil]
        rfl
    · rw [if_neg same]
      split
      · exact later fields
      · next value found =>
        have first : requiredAt (here ++ key :: rest) (validateAt p (here ++ [name]) value).2 = [] :=
          requiredAt_of_outside fun e listed => ⟨name, same, inside (name, p) (.head _) _ _ e listed⟩
        rw [requiredAt_append, first, List.nil_append, later]
        have kept (q : Schema) (value : Json) :
            offered (KeyMap.insert fields name value) key q = offered fields key q := by
          rw [offered, offered, KeyMap.get?_insert_of_ne fields (Ne.symm same)]
        simp only [kept]

theorem validateItems_cons (item : Schema) (start : Nat) (element : Json) (elements : List Json) :
    (validateItems (some item) here start (element :: elements)).2 =
      (validateAt item (here ++ [toString start]) element).2 ++
        (validateItems (some item) here (start + 1) elements).2 := by
  simp [validateItems]

theorem requiredAt_validateItems_of_absent {item : Schema} (inside : item.Inside) (start : Nat) {elements : List Json}
    {key : String} (absent : ∀ i < elements.length, key ≠ toString (start + i)) (rest : Path) :
    requiredAt (here ++ key :: rest) (validateItems (some item) here start elements).2 = [] := by
  refine requiredAt_of_outside fun e listed => ?_
  obtain ⟨i, within, below⟩ := path_validateItems inside listed
  exact ⟨toString (start + i), (absent i within).symm, below⟩

/-- At a path through an index there is what is said of the element there. -/
theorem requiredAt_validateItems {item : Schema} (inside : item.Inside) (start : Nat) {i : Nat} {elements : List Json}
    {element : Json} (shown : elements[i]? = some element) (rest : Path) :
    requiredAt (here ++ toString (start + i) :: rest) (validateItems (some item) here start elements).2 =
      requiredAt (here ++ toString (start + i) :: rest) (validateAt item (here ++ [toString (start + i)]) element).2 := by
  have apart {m n : Nat} (different : m ≠ n) : toString m ≠ toString n := fun same =>
    different (Decimal.natText_injective same)
  induction elements generalizing start i with
  | nil => cases shown
  | cons first others ih =>
    rw [validateItems_cons, requiredAt_append]
    cases i with
    | zero =>
      cases shown
      rw [Nat.add_zero, requiredAt_validateItems_of_absent inside _ fun i _ => apart (by omega), List.append_nil]
    | succ i =>
      have elsewhere : requiredAt (here ++ toString (start + (i + 1)) :: rest)
          (validateAt item (here ++ [toString start]) first).2 = [] :=
        requiredAt_of_outside fun e listed => ⟨toString start, apart (by omega), inside _ _ e listed⟩
      rw [elsewhere, List.nil_append]
      have found : others[i]? = some element := shown
      have next := ih (start + 1) found
      rwa [Nat.add_assoc, Nat.add_comm 1 i] at next

theorem requiredAt_of_here {errors : List ValidationError} (standing : ∀ e ∈ errors, e.path = here) (key : String)
    (rest : Path) : requiredAt (here ++ key :: rest) errors = [] := by
  refine requiredAt_of_ne fun e listed same => ?_
  have lengths := congrArg List.length ((standing e listed).symm.trans same)
  rw [List.length_append, List.length_cons] at lengths
  omega

/-- Are the complaints at a path about required keys one complaint that names all keys that the object there lacks? -/
def NamesLacking (s : Schema) (value : Json) (path : Path) (said : List String) : Prop :=
  ∃ names, (∀ key, key ∈ names ↔ s.LacksAt value path key) ∧ said = naming names

theorem namesLacking_nothing {s : Schema} {value : Json} (none : ∀ key, ¬s.LacksAt value path key) :
    s.NamesLacking value path [] :=
  ⟨[], fun key => iff_of_false List.not_mem_nil (none key), rfl⟩

theorem namesLacking_here {s : Schema} (inside : ∀ entry ∈ s.properties, entry.2.Inside) (object : .object ∈ s.types)
    (fields : Object) : s.NamesLacking (.obj fields) [] (requiredAt here (validateAt s here (.obj fields)).2) := by
  have nested : requiredAt here (validateProperties s.properties here fields).2 = [] := by
    refine requiredAt_of_below fun e listed => ?_
    obtain ⟨key, -, below⟩ := path_validateProperties inside listed
    exact ⟨key, below⟩
  refine ⟨s.missingKeys fields, fun key => (mem_missingKeys object).trans lacksAt_here.symm, ?_⟩
  rw [validateAt_object, if_pos object, requiredAt_append, requiredAt_append, requiredAt_checkType,
    requiredAt_checkRequired, nested, List.nil_append, List.append_nil]

theorem namesLacking_property {s : Schema} (distinct : (s.properties.map (·.1)).Nodup)
    (inside : ∀ entry ∈ s.properties, entry.2.Inside) (object : .object ∈ s.types) (fields : Object) (key : String)
    (rest : Path)
    (below : ∀ p, (key, p) ∈ s.properties → ∀ member, offered fields key p = some member →
      p.NamesLacking member rest (requiredAt (here ++ [key] ++ rest) (validateAt p (here ++ [key]) member).2)) :
    s.NamesLacking (.obj fields) (key :: rest)
      (requiredAt (here ++ key :: rest) (validateAt s here (.obj fields)).2) := by
  have checks : requiredAt (here ++ key :: rest)
      ((checkType s.types here (.obj fields)).2 ++ checkRequired s here fields) = [] :=
    requiredAt_of_here (fun e listed => (List.mem_append.1 listed).elim path_checkType path_checkRequired) key rest
  rw [validateAt_object, if_pos object, requiredAt_append, checks, List.nil_append,
    requiredAt_validateProperties distinct inside]
  split
  · next p member found =>
    obtain ⟨_, property, shown⟩ := Option.bind_eq_some_iff.1 found
    obtain ⟨_, shown, same⟩ := Option.map_eq_some_iff.1 shown
    cases same
    have listed := KeyMap.mem_of_get? property
    obtain ⟨names, named, said⟩ := below p listed member shown
    rw [List.append_assoc] at said
    refine ⟨names, fun missing => (named missing).trans ?_, said⟩
    rw [lacksAt_property]
    constructor
    · exact fun lacks => ⟨object, p, listed, member, shown, lacks⟩
    · rintro ⟨-, q, other, _, offered, lacks⟩
      cases property.symm.trans (KeyMap.get?_of_mem distinct other)
      cases shown.symm.trans offered
      exact lacks
  · next nothing =>
    refine namesLacking_nothing fun missing lacks => ?_
    obtain ⟨-, p, listed, member, shown, -⟩ := lacksAt_property.1 lacks
    rw [KeyMap.get?_of_mem distinct listed, Option.bind_some, shown] at nothing
    cases nothing

theorem requiredAt_arr {s : Schema} (inside : ∀ item, s.items = some item → item.Inside) (elements : List Json) :
    requiredAt here (validateAt s here (.arr elements)).2 = [] := by
  rw [validateAt_arr]
  split
  · rw [requiredAt_append, requiredAt_checkType, List.nil_append]
    cases described : s.items with
    | none => simp only [validateItems, requiredAt, List.filter_nil, List.map_nil]
    | some item =>
      refine requiredAt_of_below fun e listed => ?_
      obtain ⟨i, -, below⟩ := path_validateItems (inside item described) listed
      exact ⟨_, below⟩
  · exact requiredAt_checkType _ _

theorem namesLacking_item {s item : Schema} (inside : item.Inside) (array : .array ∈ s.types)
    (described : s.items = some item) (elements : List Json) (key : String) (rest : Path)
    (below : ∀ element ∈ elements,
      item.NamesLacking element rest (requiredAt (here ++ [key] ++ rest) (validateAt item (here ++ [key]) element).2)) :
    s.NamesLacking (.arr elements) (key :: rest)
      (requiredAt (here ++ key :: rest) (validateAt s here (.arr elements)).2) := by
  have type : requiredAt (here ++ key :: rest) (checkType s.types here (.arr elements)).2 = [] := requiredAt_checkType _ _
  rw [validateAt_arr, if_pos array, described, requiredAt_append, type, List.nil_append]
  by_cases index : ∃ i < elements.length, key = toString i
  · obtain ⟨i, within, rfl⟩ := index
    have shown := List.getElem?_eq_getElem within
    obtain ⟨names, named, said⟩ := below elements[i] (List.getElem_mem within)
    have there : requiredAt (here ++ toString (0 + i) :: rest) (validateItems (some item) here 0 elements).2 = _ :=
      requiredAt_validateItems inside 0 shown rest
    rw [Nat.zero_add] at there
    rw [List.append_assoc] at said
    refine ⟨names, fun missing => (named missing).trans ?_, there.trans said⟩
    rw [lacksAt_item]
    constructor
    · exact fun lacks => ⟨array, item, described, i, _, rfl, shown, lacks⟩
    · rintro ⟨-, _, other, j, element, same, found, lacks⟩
      cases described.symm.trans other
      cases Decimal.natText_injective same
      cases shown.symm.trans found
      exact lacks
  · rw [requiredAt_validateItems_of_absent inside 0
      fun i within same => index ⟨i, within, by rwa [Nat.zero_add] at same⟩]
    refine namesLacking_nothing fun missing lacks => ?_
    obtain ⟨-, _, -, i, element, same, shown, -⟩ := lacksAt_item.1 lacks
    obtain ⟨within, -⟩ := List.getElem?_eq_some_iff.1 shown
    exact index ⟨i, within, same⟩

end Complaints

theorem requiredAt_validateAt {s : Schema} (wellFormed : s.WellFormed) (here path : Path) (value : Json) :
    s.NamesLacking value path (requiredAt (here ++ path) (validateAt s here value).2) := by
  induction wellFormed generalizing here path value with
  | @intro s ordered properties items properties_ih items_ih =>
    have inside (entry : String × Schema) (listed : entry ∈ s.properties) :=
      inside_of_wellFormed (properties entry listed)
    have untyped : requiredAt (here ++ path) (checkType s.types here value).2 = [] := requiredAt_checkType _ _
    cases value with
    | arr elements =>
      by_cases array : .array ∈ s.types
      · cases path with
        | nil =>
          rw [List.append_nil, requiredAt_arr fun item described => inside_of_wellFormed (items item described)]
          exact namesLacking_nothing fun key => not_lacksAt_here rfl
        | cons key rest =>
          cases described : s.items with
          | none =>
            rw [validateAt_arr, if_pos array, described, validateItems, List.append_nil, untyped]
            exact namesLacking_nothing fun key lacks => by simpa [described] using (array_of_lacksAt lacks).2.1
          | some item =>
            refine namesLacking_item (inside_of_wellFormed (items item described)) array described elements key rest ?_
            exact fun element _ => items_ih item described (here ++ [key]) rest element
      · rw [validateAt_arr, if_neg array, untyped]
        exact namesLacking_nothing fun key lacks => array (array_of_lacksAt lacks).1
    | obj fields =>
      by_cases object : .object ∈ s.types
      · cases path with
        | nil =>
          rw [List.append_nil]
          exact namesLacking_here inside object fields
        | cons key rest =>
          refine namesLacking_property ordered.nodup_keys inside object fields key rest fun p listed member shown => ?_
          exact properties_ih (key, p) listed (here ++ [key]) rest member
      · rw [validateAt_object, if_neg object, untyped]
        exact namesLacking_nothing fun key lacks => object (object_of_lacksAt lacks)
    | _ =>
      rw [validateAt_scalar s here rfl, untyped]
      exact namesLacking_nothing fun key => not_lacksAt_scalar rfl

/-- Wherever an object lacks required keys, one complaint at its path names exactly these keys, and at no other path is
there a complaint about required keys. A key is lacking if it is required there, is absent or `null` before the defaults
there are filled in, and has no default that counts as true. -/
theorem required_reported {s : Schema} (wellFormed : s.WellFormed) (value : Json) (place path : Path) :
    ∃ names, (∀ key, key ∈ names ↔ (s.at place).LacksAt value path key) ∧
      requiredAt path (s.validate value place).2 = naming names :=
  requiredAt_validateAt (wellFormed.at place) [] path value

def order : Schema :=
  { standard with
    required := ["note", "to"]
    properties :=
      [("note", { ofType .string with default := some (.str "-") }),
        ("to", { standard with
          required := ["city"]
          properties := [("city", ofType .string)]
          default := some (.obj []) })] }

theorem order_wellFormed : order.WellFormed := by decide

theorem required_reported_order : order.WellFormed ∧
    requiredAt ["to"] (order.validate (.obj []) []).2 = ["(city) is required"] ∧ order.LacksAt (.obj []) ["to"] "city" ∧
    requiredAt [] (order.validate (.obj []) []).2 = [] ∧ ∀ key, ¬order.LacksAt (.obj []) [] key := by
  have below : order.LacksAt (.obj []) ["to"] "city" := by
    have lacks : Lacks { standard with
        required := ["city"], properties := [("city", ofType .string)], default := some (.obj []) } [] "city" :=
      ⟨⟨.head _, .head _, rfl⟩, .inl rfl⟩
    exact lacksAt_property.2 ⟨.head _, _, .tail _ (.head _), .obj [], rfl, lacksAt_here.2 lacks⟩
  have excused : ∀ key, ¬order.LacksAt (.obj []) [] key := by
    obtain ⟨names, named, said⟩ := required_reported order_wellFormed (.obj []) [] []
    have silent : naming names = [] := said.symm
    rw [naming_eq_nil] at silent
    exact fun key lacks => by simpa [silent] using (named key).2 lacks
  exact ⟨order_wellFormed, rfl, below, rfl, excused⟩

def lamp : Schema :=
  { standard with
    required := ["on"]
    properties := [("on", { ofType .boolean with default := some (.bool false) })] }

/-- A default that counts as false does not excuse a key, although the key is filled in a moment later. -/
theorem required_despite_default : ¬∀ (s : Schema) (fields : Object), s.WellFormed → .object ∈ s.types →
    ∃ names : List String,
      (∀ key, key ∈ names ↔ key ∈ s.required ∧ (KeyMap.get? s.properties key).bind (·.default) = none ∧
        (KeyMap.get? fields key = none ∨ KeyMap.get? fields key = some .null)) ∧
      requiredAt [] (s.validate (.obj fields) []).2 = naming names := by
  intro exempt
  obtain ⟨names, named, said⟩ := exempt lamp [] (by decide) (.head _)
  have silent : names = [] := by
    refine List.eq_nil_iff_forall_not_mem.2 fun key member => ?_
    obtain ⟨required, undefaulted, -⟩ := (named key).1 member
    rw [List.mem_singleton.1 required] at undefaulted
    cases undefaulted
  have reported : requiredAt [] (lamp.validate (.obj []) []).2 = ["(on) is required"] := rfl
  rw [silent, reported] at said
  cases said

end RecordSync.Schema
