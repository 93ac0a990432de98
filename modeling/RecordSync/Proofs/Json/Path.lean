import RecordSync.Json.Path
import RecordSync.Proofs.KeyMap

/-!
# Reading and overwriting at a path

What is overwritten at a path is read there, and of two values the second one counts. In a value whose objects have
their fields in key order, as all values have that are read or built, a slot that receives what it holds already leaves
the value as it was.
-/

set_option autoImplicit false

namespace RecordSync.Json

/-- All objects of a value, however deep, have their fields in key order. -/
inductive Canonical : Json → Prop where
  | null : Canonical .null
  | bool (b : Bool) : Canonical (.bool b)
  | num (n : Number) : Canonical (.num n)
  | str (s : String) : Canonical (.str s)
  | arr {items : List Json} (all : ∀ item ∈ items, Canonical item) : Canonical (.arr items)
  | obj {fields : Object} (ordered : KeyMap.Ordered fields) (all : ∀ field ∈ fields, Canonical field.2) :
      Canonical (.obj fields)

namespace Canonical

theorem ordered {fields : Object} (h : Canonical (.obj fields)) : KeyMap.Ordered fields := by
  cases h with
  | obj ordered all => exact ordered

theorem field {fields : Object} (h : Canonical (.obj fields)) {field : String × Json} (listed : field ∈ fields) :
    Canonical field.2 := by
  cases h with
  | obj ordered all => exact all field listed

theorem item {items : List Json} (h : Canonical (.arr items)) {item : Json} (listed : item ∈ items) :
    Canonical item := by
  cases h with
  | arr all => exact all item listed

theorem insert {fields : Object} (h : Canonical (.obj fields)) (key : String) {value : Json}
    (canonical : Canonical value) : Canonical (.obj (KeyMap.insert fields key value)) := by
  refine .obj (h.ordered.insert key value) fun field listed => ?_
  rcases KeyMap.mem_insert listed with rfl | kept
  · exact canonical
  · exact h.field kept

theorem erase {fields : Object} (h : Canonical (.obj fields)) (key : String) :
    Canonical (.obj (KeyMap.erase fields key)) :=
  .obj (h.ordered.erase key) fun _ listed => h.field (KeyMap.mem_of_mem_erase listed)

theorem set {items : List Json} (h : Canonical (.arr items)) (index : Nat) {value : Json}
    (canonical : Canonical value) : Canonical (.arr (items.set index value)) := by
  refine .arr fun item listed => ?_
  rcases List.mem_or_eq_of_mem_set listed with kept | rfl
  · exact h.item kept
  · exact canonical

theorem child? {j member : Json} {key : String} (h : Canonical j) (found : j.child? key = some member) :
    Canonical member := by
  cases j with
  | obj fields => exact h.field (KeyMap.mem_of_get? found)
  | arr items =>
    obtain ⟨index, -, shown⟩ := Option.bind_eq_some_iff.1 found
    exact h.item (List.mem_of_getElem? shown)
  | _ => cases found

theorem get? {j value : Json} {path : Path} (h : Canonical j) (found : j.get? path = some value) : Canonical value := by
  induction path generalizing j with
  | nil =>
    cases found
    exact h
  | cons key rest ih =>
    obtain ⟨member, here, below⟩ := Option.bind_eq_some_iff.1 found
    exact ih (h.child? here) below

theorem withChild {j new : Json} (h : Canonical j) (key : String) (canonical : Canonical new) :
    Canonical (j.withChild key new) := by
  cases j with
  | obj fields => exact h.insert key canonical
  | arr items =>
    cases read : readIndex? key with
    | none => simpa [Json.withChild, read] using h
    | some index => simpa [Json.withChild, read] using h.set index canonical
  | _ => exact h

end Canonical

theorem child?_withChild {j old : Json} {key : String} (found : j.child? key = some old) (new : Json) :
    (j.withChild key new).child? key = some new := by
  cases j with
  | obj fields => exact KeyMap.get?_insert_self fields key new
  | arr items =>
    obtain ⟨index, read, shown⟩ := Option.bind_eq_some_iff.1 found
    have bound : index < items.length := (List.getElem?_eq_some_iff.1 shown).1
    simp [withChild, child?, read, bound]
  | _ => cases found

theorem withChild_withChild (j : Json) (key : String) (first second : Json) :
    (j.withChild key first).withChild key second = j.withChild key second := by
  cases j with
  | obj fields => simp [withChild, KeyMap.insert_insert_self]
  | arr items => cases read : readIndex? key <;> simp [withChild, read]
  | _ => rfl

theorem withChild_self {j old : Json} {key : String} (canonical : Canonical j) (found : j.child? key = some old) :
    j.withChild key old = j := by
  cases j with
  | obj fields => simp [withChild, canonical.ordered.insert_of_get? found]
  | arr items =>
    obtain ⟨index, read, shown⟩ := Option.bind_eq_some_iff.1 found
    obtain ⟨bound, rfl⟩ := List.getElem?_eq_some_iff.1 shown
    simp [withChild, read]
  | _ => rfl

theorem replace?_cons_eq (j : Json) (key : String) (rest : Path) (new : Json) :
    j.replace? (key :: rest) new =
      (j.child? key).bind fun member => (member.replace? rest new).map (j.withChild key) := rfl

/-- What is done to the slot at a path is done to the value that is read there. -/
theorem modify?_eq_bind (f : Json → Json) (j : Json) (path : Path) :
    modify? f j path = (j.get? path).bind fun value => j.replace? path (f value) := by
  induction path generalizing j with
  | nil => rfl
  | cons key rest ih =>
    rw [modify?, get?_cons]
    cases found : j.child? key with
    | none => rfl
    | some member =>
      rw [Option.bind_some, Option.bind_some, ih]
      cases member.get? rest <;> simp [replace?_cons_eq, found]

theorem get?_replace? {j after new : Json} {path : Path} (replaced : j.replace? path new = some after) :
    after.get? path = some new := by
  induction path generalizing j after with
  | nil =>
    cases replaced
    rfl
  | cons key rest ih =>
    obtain ⟨member, found, inner⟩ := Option.bind_eq_some_iff.1 replaced
    obtain ⟨changed, deeper, rfl⟩ := Option.map_eq_some_iff.1 inner
    rw [get?_cons, child?_withChild found, Option.bind_some]
    exact ih deeper

theorem replace?_replace? {j after first : Json} {path : Path} (replaced : j.replace? path first = some after)
    (second : Json) : after.replace? path second = j.replace? path second := by
  induction path generalizing j after with
  | nil => rfl
  | cons key rest ih =>
    obtain ⟨member, found, inner⟩ := Option.bind_eq_some_iff.1 replaced
    obtain ⟨changed, deeper, rfl⟩ := Option.map_eq_some_iff.1 inner
    have again : (j.withChild key changed).withChild key = j.withChild key :=
      funext (withChild_withChild j key changed)
    rw [replace?_cons_eq, replace?_cons_eq, child?_withChild found, found, Option.bind_some, Option.bind_some,
      ih deeper, again]

theorem replace?_self {j value : Json} {path : Path} (canonical : Canonical j) (found : j.get? path = some value) :
    j.replace? path value = some j := by
  induction path generalizing j with
  | nil =>
    cases found
    rfl
  | cons key rest ih =>
    obtain ⟨member, here, below⟩ := Option.bind_eq_some_iff.1 found
    rw [replace?_cons_eq, here, Option.bind_some, ih (canonical.child? here) below, Option.map_some,
      withChild_self canonical here]

theorem Canonical.replace? {j after new : Json} {path : Path} (h : Canonical j) (canonical : Canonical new)
    (replaced : j.replace? path new = some after) : Canonical after := by
  induction path generalizing j after with
  | nil =>
    cases replaced
    exact canonical
  | cons key rest ih =>
    obtain ⟨member, found, inner⟩ := Option.bind_eq_some_iff.1 replaced
    obtain ⟨changed, deeper, rfl⟩ := Option.map_eq_some_iff.1 inner
    exact h.withChild key (ih (h.child? found) deeper)

end RecordSync.Json
