import RecordSync.Proofs.Document.Frame
import RecordSync.Proofs.Schema.Fitting
import RecordSync.Proofs.Schema.WellFormed

/-!
# Changes of fitting values

A change of one container somewhere in a value that fits. The value still fits when the new member fits the schema at
its own path, as long as nothing is deleted, no required member becomes `null`, and elements that are spliced in fit
the items of their array.
-/

set_option autoImplicit false

namespace RecordSync

namespace Schema

theorem at_of_member? {s t : Schema} {key : String} (h : s.member? key = some t) (rest : Path) :
    s.at (key :: rest) = t.at rest := by
  rw [Schema.at, h]

theorem member?_of_property {s : Schema} (steady : s.Steady) {key : String} {t : Schema}
    (listed : (key, t) ∈ s.properties) : s.member? key = some t := by
  rw [member?, KeyMap.get?_of_mem steady.distinct listed]

theorem member?_of_index {s : Schema} (steady : s.Steady) (array : .array ∈ s.types) {item : Schema}
    (described : s.items = some item) {key : String} {index : Nat} (read : readIndex? key = some index) :
    s.member? key = some item := by
  cases steady with
  | intro distinct casts unindexed =>
    have none : KeyMap.get? s.properties key = none := by
      apply KeyMap.get?_eq_none
      intro entry listed same
      have unread := unindexed array (by simp [described]) entry listed
      simp [same, read] at unread
    simp [member?, none, read, described]

theorem empty_steady : empty.Steady := by
  apply Steady.intro <;> simp [empty, types]

theorem Steady.member? {s t : Schema} {key : String} (steady : s.Steady) (h : s.member? key = some t) :
    t.Steady :=
  (part_of_member? h).elim steady.property steady.item

theorem Steady.at {s : Schema} (steady : s.Steady) (path : Path) : (s.at path).Steady :=
  at_induct empty_steady (fun _ _ _ steady found => steady.member? found) steady path

def Requires (s : Schema) (key : String) : Prop :=
  .object ∈ s.types ∧ key ∈ s.required ∧ Json.truthy ((KeyMap.get? s.properties key).bind (·.default)) = false

theorem missingKeys_insert {s : Schema} {fields : Object} {key : String} {new : Json} (object : .object ∈ s.types)
    (complete : s.missingKeys fields = []) (present : new.isNull = true → ¬s.Requires key) :
    s.missingKeys (KeyMap.insert fields key new) = [] := by
  rw [missingKeys, List.filter_eq_nil_iff] at complete ⊢
  intro other required missing
  by_cases same : other = key
  · subst same
    rw [KeyMap.get?_insert_self, Bool.and_eq_true, Bool.not_eq_true'] at missing
    exact present missing.2 ⟨object, required, missing.1⟩
  · rw [KeyMap.get?_insert_of_ne fields same] at missing
    exact complete other required missing

theorem fits_insert {s : Schema} {fields : Object} {key : String} {new : Json} (h : s.Fits (.obj fields))
    (member : .object ∈ s.types → ∀ t, (key, t) ∈ s.properties → t.Fits new)
    (present : new.isNull = true → ¬s.Requires key) : s.Fits (.obj (KeyMap.insert fields key new)) := by
  cases h with
  | scalar simple => cases simple
  | obj type complete members =>
    have typed : Admits s.types (.obj (KeyMap.insert fields key new)) := type
    apply Fits.obj typed
    · exact fun object => missingKeys_insert object (complete object) present
    · intro object entry listed value found
      by_cases same : entry.1 = key
      · subst same
        rw [offered, KeyMap.get?_insert_self, Option.some_or, Option.some.injEq] at found
        exact found ▸ member object entry.2 listed
      · rw [offered, KeyMap.get?_insert_of_ne fields same] at found
        exact members object entry listed value found

theorem fits_elements {s : Schema} {elements after : List Json} (h : s.Fits (.arr elements))
    (fit : .array ∈ s.types → ∀ item, s.items = some item →
      ∀ element ∈ after, element ∈ elements ∨ item.Fits element) :
    s.Fits (.arr after) := by
  cases h with
  | scalar simple => cases simple
  | arr type items =>
    have typed : Admits s.types (.arr after) := type
    apply Fits.arr typed
    intro array item described element listed
    rcases fit array item described element listed with old | new
    · exact items array item described element old
    · exact new

theorem fits_set {s : Schema} {elements : List Json} (h : s.Fits (.arr elements)) (index : Nat) {new : Json}
    (element : .array ∈ s.types → ∀ item, s.items = some item → item.Fits new) :
    s.Fits (.arr (elements.set index new)) := by
  apply fits_elements h
  intro array item described other listed
  rcases List.mem_or_eq_of_mem_set listed with old | rfl
  · exact .inl old
  · exact .inr (element array item described)

def Bears (s : Schema) : Change → Prop
  | .add name new | .update name _ new => new.isNull = true → ¬s.Requires name
  | .remove .. => False
  | .splice _ _ added => .array ∈ s.types → ∀ item, s.items = some item →
      ∀ element ∈ added, (item.validate element []).2 = []

theorem fits_change {s : Schema} (steady : s.Steady) {change : Change} {j after : Json} (h : s.Fits j)
    (bears : s.Bears change)
    (value : ∀ name new, change.name? = some name → change.new? = some new →
      ∀ t, s.member? name = some t → t.Fits new)
    (applied : change.applyTo? j = some after) : s.Fits after := by
  cases change with
  | add name new =>
    cases j with
    | obj fields =>
      cases applied
      exact fits_insert h (fun _ t listed => value name new rfl rfl t (member?_of_property steady listed)) bears
    | _ => cases applied
  | update name old new =>
    cases j with
    | obj fields =>
      cases applied
      exact fits_insert h (fun _ t listed => value name new rfl rfl t (member?_of_property steady listed)) bears
    | arr elements =>
      simp only [Change.applyTo?] at applied
      split at applied
      · next index read =>
        split at applied
        · cases applied
          apply fits_set h
          intro array item described
          exact value name new rfl rfl item (member?_of_index steady array described read)
        · cases applied
      · cases applied
    | _ => cases applied
  | remove name old => cases bears
  | splice index removed added =>
    cases j with
    | arr elements =>
      cases applied
      apply fits_elements h
      intro array item described element listed
      simp only [List.mem_append] at listed
      rcases listed with (kept | new) | kept
      · exact .inl (List.mem_of_mem_take kept)
      · have fine := bears array item described element new
        exact .inr ((validateAt_errors (steady.item described) [] element).1 fine)
      · exact .inl (List.mem_of_mem_drop kept)
    | _ => cases applied

/-- A member that is judged at all fits, and after its replacement by one that fits the whole still does. -/
theorem fits_withChild {s : Schema} (steady : s.Steady) {j old new : Json} {key : String} (h : s.Fits j)
    (found : j.child? key = some old) (member : ∀ t, s.member? key = some t → t.Fits old → t.Fits new)
    (present : new.isNull = false) : s.Fits (j.withChild key new) := by
  cases j with
  | obj fields =>
    apply fits_insert h
    · intro object t listed
      apply member t (member?_of_property steady listed)
      have shown : offered fields key t = some old := by
        rw [offered, show KeyMap.get? fields key = some old from found, Option.some_or]
      cases h with
      | scalar simple => cases simple
      | obj type complete members => exact members object (key, t) listed old shown
    · intro null
      simp [null] at present
  | arr elements =>
    simp only [Json.child?, Option.bind_eq_some_iff] at found
    obtain ⟨index, read, shown⟩ := found
    simp only [Json.withChild, read]
    apply fits_set h
    intro array item described
    apply member item (member?_of_index steady array described read)
    cases h with
    | scalar simple => cases simple
    | arr type items => exact items array item described old (List.mem_of_getElem? shown)
  | _ => cases found

theorem fits_applyTo? {s : Schema} (steady : s.Steady) {change : Change} {path : Path} {j after : Json} (h : s.Fits j)
    (bears : (s.at path).Bears change)
    (value : ∀ new, change.new? = some new → (s.at (path ++ change.name?.toList)).Fits new)
    (applied : (ChangeEvent.mk change path).applyTo? j = some after) : s.Fits after := by
  induction path generalizing s j after with
  | nil =>
    rw [ChangeEvent.applyTo?_nil] at applied
    apply fits_change steady h bears _ applied
    intro name new named written t described
    have fits := value new written
    rwa [named, Option.toList_some, List.nil_append, at_of_member? described] at fits
  | cons key rest ih =>
    simp only [ChangeEvent.applyTo?_cons, Option.bind_eq_some_iff, Option.map_eq_some_iff] at applied
    obtain ⟨member, found, changed, below, rfl⟩ := applied
    apply fits_withChild steady h found _ (ChangeEvent.isNull_of_applyTo? below)
    intro t described fits
    rw [at_of_member? described] at bears
    rw [List.cons_append, at_of_member? described] at value
    exact ih (steady.member? described) fits bears value below

end Schema

end RecordSync
