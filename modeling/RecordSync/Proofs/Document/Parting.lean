import RecordSync.Proofs.Document.Frame

/-!
# Changes that spare a path

Two documents agree along a path when it leads through the same kinds of containers in both, under the same keys, to
one value. A change spares the path when its own path parts from it, or when it only moves elements of an array that
the path does not go through. What spares a path leaves the agreement along it alone.
-/

set_option autoImplicit false

namespace RecordSync

/-- Do two keys lead to the same member? The index of an element can be spelled in several ways. -/
def Json.SameSlot : Json → String → String → Prop
  | .arr _, a, b => readIndex? a = readIndex? b
  | _, a, b => a = b

namespace Change

def SparesKey (container : Json) (key : String) : Change → Prop
  | .add name _ | .update name _ _ | .remove name _ => ¬container.SameSlot name key
  | .splice start removed added =>
    ∃ index, readIndex? key = some index ∧
      (index < start ∨ start + removed.length ≤ index ∧ added.length = removed.length)

def SparesBelow (change : Change) : Path → Json → Path → Prop
  | _, _, [] => False
  | [], j, key :: _ => change.SparesKey j key
  | step :: steps, j, key :: rest =>
    ¬j.SameSlot step key ∨ ∃ member, j.child? key = some member ∧ change.SparesBelow steps member rest

end Change

/-- Does an event leave the value at a path of a document in its place? -/
def ChangeEvent.Spares (event : ChangeEvent) (root : Json) (path : Path) : Prop :=
  event.change.SparesBelow event.path root path

namespace Json

inductive AgreeAlong : Path → Json → Json → Prop where
  | here (j : Json) : AgreeAlong [] j j
  | field {key : String} {rest : Path} {old new : Object} {a b : Json} (before : KeyMap.get? old key = some a)
      (after : KeyMap.get? new key = some b) (below : AgreeAlong rest a b) :
      AgreeAlong (key :: rest) (.obj old) (.obj new)
  | element {key : String} {index : Nat} {rest : Path} {old new : List Json} {a b : Json}
      (read : readIndex? key = some index) (before : old[index]? = some a) (after : new[index]? = some b)
      (below : AgreeAlong rest a b) : AgreeAlong (key :: rest) (.arr old) (.arr new)

theorem agreeAlong_self {j value : Json} {path : Path} (h : j.get? path = some value) : AgreeAlong path j j := by
  induction path generalizing j with
  | nil => exact .here j
  | cons key rest ih =>
    rw [get?_cons, Option.bind_eq_some_iff] at h
    obtain ⟨member, found, below⟩ := h
    cases j with
    | obj fields => exact .field found found (ih below)
    | arr items =>
      simp only [child?, Option.bind_eq_some_iff] at found
      obtain ⟨index, read, shown⟩ := found
      exact .element read shown shown (ih below)
    | _ => cases found

theorem AgreeAlong.get?_eq {path : Path} {old new : Json} (h : AgreeAlong path old new) :
    new.get? path = old.get? path := by
  induction h with
  | here => rfl
  | field before after below ih => simp [get?_cons, child?, before, after, ih]
  | element read before after below ih => simp [get?_cons, child?, read, before, after, ih]

/-- Elements in front of an exchange stay where they are, and so do those behind an exchange of as many. -/
theorem getElem?_exchange {items added : List Json} {start count index : Nat} (bound : index < items.length)
    (clear : index < start ∨ start + count ≤ index ∧ added.length = count) :
    (items.take start ++ added ++ items.drop (start + count))[index]? = items[index]? := by
  rcases clear with front | ⟨behind, even⟩
  · have short : index < (items.take start).length := by simp; omega
    rw [List.append_assoc, List.getElem?_append_left short, List.getElem?_take_of_lt front]
  · have long : (items.take start ++ added).length = start + count := by simp; omega
    rw [List.getElem?_append_right (by omega), List.getElem?_drop, long]
    congr 1
    omega

theorem AgreeAlong.change {change : Change} {key : String} {rest : Path} {old new after : Json}
    (h : AgreeAlong (key :: rest) old new) (spares : change.SparesKey old key)
    (applied : change.applyTo? new = some after) : AgreeAlong (key :: rest) old after := by
  cases h with
  | field before shown below =>
    cases change with
    | add name value | update name old value =>
      cases applied
      exact .field before ((KeyMap.get?_insert_of_ne _ (Ne.symm spares) _).trans shown) below
    | remove name old =>
      cases applied
      exact .field before ((KeyMap.get?_erase_of_ne _ (Ne.symm spares)).trans shown) below
    | splice start removed added => cases applied
  | @element _ index _ _ items _ _ read before shown below =>
    cases change with
    | add name value => cases applied
    | update name old value =>
      simp only [Change.applyTo?] at applied
      split at applied
      · next other hit =>
        split at applied
        · cases applied
          have ne : other ≠ index := by
            rintro rfl
            exact spares (hit.trans read.symm)
          exact .element read before ((List.getElem?_set_ne ne).trans shown) below
        · cases applied
      · cases applied
    | remove name old => cases applied
    | splice start removed added =>
      cases applied
      obtain ⟨other, hit, clear⟩ := spares
      have same : other = index := Option.some.inj (hit.symm.trans read)
      subst same
      have bound : other < items.length := (List.getElem?_eq_some_iff.1 shown).1
      exact .element read before ((getElem?_exchange bound clear).trans shown) below

theorem AgreeAlong.applyTo? {change : Change} {place path : Path} {old new after : Json}
    (h : AgreeAlong path old new) (spares : change.SparesBelow place old path)
    (applied : (ChangeEvent.mk change place).applyTo? new = some after) : AgreeAlong path old after := by
  induction h generalizing place after with
  | here => cases place <;> cases spares
  | @field key rest old new a b before shown below ih =>
    cases place with
    | nil =>
      rw [ChangeEvent.applyTo?_nil] at applied
      exact (AgreeAlong.field before shown below).change spares applied
    | cons step steps =>
      simp only [ChangeEvent.applyTo?_cons, Option.bind_eq_some_iff, Option.map_eq_some_iff] at applied
      obtain ⟨member, found, changed, deeper, rfl⟩ := applied
      by_cases same : step = key
      · subst same
        have here : b = member := Option.some.inj (shown.symm.trans found)
        rcases spares with apart | ⟨other, there, below⟩
        · exact absurd rfl apart
        · have same : a = other := Option.some.inj (before.symm.trans there)
          subst here same
          exact .field before (KeyMap.get?_insert_self _ _ _) (ih below deeper)
      · exact .field before ((KeyMap.get?_insert_of_ne _ (Ne.symm same) _).trans shown) below
  | @element key index rest old new a b read before shown below ih =>
    cases place with
    | nil =>
      rw [ChangeEvent.applyTo?_nil] at applied
      exact (AgreeAlong.element read before shown below).change spares applied
    | cons step steps =>
      simp only [ChangeEvent.applyTo?_cons, Option.bind_eq_some_iff, Option.map_eq_some_iff] at applied
      obtain ⟨member, found, changed, deeper, rfl⟩ := applied
      simp only [child?, Option.bind_eq_some_iff] at found
      obtain ⟨number, hit, found⟩ := found
      simp only [withChild, hit]
      by_cases same : number = index
      · subst same
        have here : b = member := Option.some.inj (shown.symm.trans found)
        rcases spares with apart | ⟨other, there, below⟩
        · exact absurd (hit.trans read.symm) apart
        · simp only [child?, read, Option.bind_some] at there
          have same : a = other := Option.some.inj (before.symm.trans there)
          subst here same
          have bound : number < new.length := (List.getElem?_eq_some_iff.1 shown).1
          exact .element read before (List.getElem?_set_self bound) (ih below deeper)
      · exact .element read before ((List.getElem?_set_ne same).trans shown) below

end Json

end RecordSync
