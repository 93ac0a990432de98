import RecordSync.Document.Edit
import RecordSync.Proofs.KeyMap

/-!
# What an edit leaves alone

A document whose root is an object keeps an object as its root, and an applied change touches the one top-level field
that it names, however deep it goes. All other fields are shown as before.
-/

set_option autoImplicit false

namespace RecordSync

def Edit.path : Edit → Path
  | .set path _ | .remove path | .splice path _ _ _ | .push path _ => path

structure AgreeExcept (name : String) (old new : Object) : Prop where
  get?_eq : ∀ other, other ≠ name → KeyMap.get? new other = KeyMap.get? old other
  ordered : KeyMap.Ordered old → KeyMap.Ordered new

theorem agreeExcept_insert (fields : Object) (name : String) (value : Json) :
    AgreeExcept name fields (KeyMap.insert fields name value) where
  get?_eq := fun _ h => KeyMap.get?_insert_of_ne fields h value
  ordered := fun h => h.insert name value

theorem agreeExcept_erase (fields : Object) (name : String) :
    AgreeExcept name fields (KeyMap.erase fields name) where
  get?_eq := fun _ h => KeyMap.get?_erase_of_ne fields h
  ordered := fun h => h.erase name

theorem Change.applyTo?_obj {change : Change} {fields : Object} {new : Json}
    (h : change.applyTo? (.obj fields) = some new) :
    ∃ name after, change.name? = some name ∧ new = .obj after ∧ AgreeExcept name fields after := by
  cases change with
  | add name value =>
    cases h
    exact ⟨name, _, rfl, rfl, agreeExcept_insert fields name value⟩
  | update name old value =>
    cases h
    exact ⟨name, _, rfl, rfl, agreeExcept_insert fields name value⟩
  | remove name old =>
    cases h
    exact ⟨name, _, rfl, rfl, agreeExcept_erase fields name⟩
  | splice index removed added => cases h

theorem Json.replace?_cons {fields : Object} {key : String} {rest : Path} {value new : Json}
    (h : Json.replace? (.obj fields) (key :: rest) value = some new) :
    ∃ after, new = .obj after ∧ AgreeExcept key fields after := by
  simp only [Json.replace?, Json.modify?, Option.bind_eq_some_iff, Option.map_eq_some_iff] at h
  obtain ⟨member, -, inner, -, rfl⟩ := h
  exact ⟨_, rfl, agreeExcept_insert fields key inner⟩

theorem ChangeEvent.applyTo?_obj {event : ChangeEvent} {fields : Object} {new : Json}
    (h : event.applyTo? (.obj fields) = some new) :
    ∃ name after, event.rootName? = some name ∧ new = .obj after ∧ AgreeExcept name fields after := by
  obtain ⟨change, path⟩ := event
  cases path with
  | nil =>
    have applied : change.applyTo? (.obj fields) = some new := by
      simp only [ChangeEvent.applyTo?, Json.get?, Option.bind_eq_bind, Option.bind_some,
        Option.bind_eq_some_iff] at h
      obtain ⟨changed, hc, replaced⟩ := h
      cases replaced
      exact hc
    obtain ⟨name, after, named, rfl, agree⟩ := Change.applyTo?_obj applied
    exact ⟨name, after, named, rfl, agree⟩
  | cons key rest =>
    simp only [ChangeEvent.applyTo?, Option.bind_eq_bind, Option.bind_eq_some_iff] at h
    obtain ⟨container, -, changed, -, replaced⟩ := h
    obtain ⟨after, rfl, agree⟩ := Json.replace?_cons replaced
    exact ⟨key, after, rfl, rfl, agree⟩

namespace ChangeEvent

theorem applyTo?_nil (change : Change) (j : Json) : (mk change []).applyTo? j = change.applyTo? j := by
  simp [applyTo?, Json.get?, Json.replace?, Json.modify?]

theorem applyTo?_cons (change : Change) (key : String) (rest : Path) (j : Json) :
    (mk change (key :: rest)).applyTo? j =
      (j.child? key).bind fun member => ((mk change rest).applyTo? member).map (j.withChild key) := by
  cases found : j.child? key with
  | none => simp [applyTo?, Json.get?, found]
  | some member =>
    cases inner : member.get? rest with
    | none => simp [applyTo?, Json.get?, found, inner]
    | some container =>
      cases changed : change.applyTo? container <;>
        simp [applyTo?, Json.get?, Json.replace?, Json.modify?, found, inner, changed]

/-- The document is still a container, whatever was changed in it. -/
theorem isNull_of_applyTo? {event : ChangeEvent} {j after : Json} (h : event.applyTo? j = some after) :
    after.isNull = false := by
  obtain ⟨change, path⟩ := event
  cases path with
  | nil =>
    rw [applyTo?_nil] at h
    unfold Change.applyTo? at h
    grind [Json.isNull]
  | cons key rest =>
    simp only [applyTo?_cons, Option.bind_eq_some_iff, Option.map_eq_some_iff] at h
    obtain ⟨member, found, changed, -, rfl⟩ := h
    cases j with
    | obj fields => rfl
    | arr items =>
      simp only [Json.withChild]
      split <;> rfl
    | _ => cases found

end ChangeEvent

theorem Json.get?_concat (j : Json) (path : Path) (key : String) :
    j.get? (path ++ [key]) = (j.get? path).bind (·.child? key) := by
  induction path generalizing j with
  | nil => cases found : j.child? key <;> simp [get?, found]
  | cons first rest ih =>
    cases found : j.child? first with
    | none => simp [get?, found]
    | some member => simp [get?, found, ih]

namespace Edit

theorem parent?_eq_some {root container : Json} {path parent : Path} {name : String}
    (h : parent? root path = some (container, parent, name)) :
    path.getLast? = some name ∧ parent = path.dropLast ∧ root.get? path.dropLast = some container := by
  simp only [parent?, Option.bind_eq_bind, Option.bind_eq_some_iff, Option.pure_def, Option.some.injEq,
    Prod.mk.injEq] at h
  obtain ⟨last, hlast, found, hfound, rfl, rfl, rfl⟩ := h
  exact ⟨hlast, rfl, hfound⟩

theorem get?_of_proposeSet {container : Json} {parent : Path} {name : String} {value new : Json} {key : String}
    {path : Path} (h : proposeSet container parent name value = .change ⟨.add key new, path⟩) :
    path = parent ∧ key = name ∧ container.child? name = none := by
  unfold proposeSet at h
  split at h
  · split at h
    · split at h <;> cases h
    · next absent =>
      cases h
      exact ⟨rfl, rfl, absent⟩
  · split at h
    · cases h
    · split at h
      · split at h <;> cases h
      · split at h <;> cases h
  · cases h

theorem new?_of_proposeRemove {container : Json} {parent : Path} {name : String} {event : ChangeEvent}
    (h : proposeRemove container parent name = .change event) : event.change.new? = none := by
  unfold proposeRemove at h
  split at h
  · split at h <;> cases h
    rfl
  · split at h <;> cases h
    rfl
  · cases h

theorem new?_of_proposeSplice {container : Json} {place : Path} {index count : Nat} {items : List Json}
    {event : ChangeEvent} (h : proposeSplice container place index count items = .change event) :
    event.change.new? = none := by
  unfold proposeSplice at h
  split at h
  · dsimp only at h
    split at h <;> cases h
    rfl
  · cases h

theorem get?_of_add {edit : Edit} {root new : Json} {key : String} {path : Path}
    (h : edit.propose root = .change ⟨.add key new, path⟩) : root.get? (path ++ [key]) = none := by
  cases edit with
  | set target value =>
    simp only [propose] at h
    split at h
    · next located =>
      obtain ⟨-, rfl, found⟩ := parent?_eq_some located
      obtain ⟨rfl, rfl, absent⟩ := get?_of_proposeSet h
      rw [Json.get?_concat, found]
      exact absent
    · cases h
  | remove target =>
    simp only [propose] at h
    split at h
    · cases new?_of_proposeRemove h
    · cases h
  | splice target index count items =>
    simp only [propose] at h
    split at h
    · cases new?_of_proposeSplice h
    · cases h
  | push target value =>
    simp only [propose] at h
    split at h
    · cases new?_of_proposeSplice h
    · cases h

/-- A change of the key at the end of a path falls under the first key of the path. -/
theorem rootName?_of_name? {path : Path} {name : String} {change : Change} (hlast : path.getLast? = some name)
    (named : change.name? = some name) :
    (ChangeEvent.mk change path.dropLast).rootName? = path.head? := by
  rw [ChangeEvent.rootName?, named]
  match path with
  | [] => cases hlast
  | [key] => cases hlast; rfl
  | key :: next :: rest => rfl

/-- So does any change of an array above the end of a path, since the root is no array. -/
theorem rootName?_of_array {fields : Object} {path : Path} {items : List Json} (change : Change)
    (found : (Json.obj fields).get? path.dropLast = some (.arr items)) :
    (ChangeEvent.mk change path.dropLast).rootName? = path.head? := by
  match path with
  | [] => cases found
  | [key] => cases found
  | key :: next :: rest => rfl

theorem rootName?_of_proposeSet {fields : Object} {path : Path} {container value : Json} {name : String}
    {event : ChangeEvent} (hlast : path.getLast? = some name)
    (found : (Json.obj fields).get? path.dropLast = some container)
    (h : proposeSet container path.dropLast name value = .change event) : event.rootName? = path.head? := by
  unfold proposeSet at h
  split at h
  · split at h
    · split at h
      · cases h
      · cases h; exact rootName?_of_name? hlast rfl
    · cases h; exact rootName?_of_name? hlast rfl
  · split at h
    · cases h
    · split at h
      · split at h
        · cases h
        · cases h; exact rootName?_of_name? hlast rfl
      · split at h
        · cases h; exact rootName?_of_array _ found
        · cases h
  · cases h

theorem rootName?_of_proposeRemove {fields : Object} {path : Path} {container : Json} {name : String}
    {event : ChangeEvent} (hlast : path.getLast? = some name)
    (found : (Json.obj fields).get? path.dropLast = some container)
    (h : proposeRemove container path.dropLast name = .change event) : event.rootName? = path.head? := by
  unfold proposeRemove at h
  split at h
  · split at h
    · cases h; exact rootName?_of_name? hlast rfl
    · cases h
  · split at h
    · cases h; exact rootName?_of_array _ found
    · cases h
  · cases h

theorem rootName?_of_proposeSplice {fields : Object} {path : Path} {container : Json} {index count : Nat}
    {items : List Json} {event : ChangeEvent} (found : (Json.obj fields).get? path = some container)
    (h : proposeSplice container path index count items = .change event) : event.rootName? = path.head? := by
  unfold proposeSplice at h
  split at h
  · dsimp only at h
    split at h
    · cases h
    · cases h
      cases path with
      | nil => cases found
      | cons key rest => rfl
  · cases h

theorem rootName?_of_propose {fields : Object} {edit : Edit} {event : ChangeEvent}
    (h : edit.propose (.obj fields) = .change event) : event.rootName? = edit.path.head? := by
  cases edit with
  | set path value =>
    simp only [propose] at h
    split at h
    · next located =>
      obtain ⟨hlast, rfl, found⟩ := parent?_eq_some located
      exact rootName?_of_proposeSet hlast found h
    · cases h
  | remove path =>
    simp only [propose] at h
    split at h
    · next located =>
      obtain ⟨hlast, rfl, found⟩ := parent?_eq_some located
      exact rootName?_of_proposeRemove hlast found h
    · cases h
  | splice path index count items =>
    simp only [propose] at h
    split at h
    · next found => exact rootName?_of_proposeSplice found h
    · cases h
  | push path value =>
    simp only [propose] at h
    split at h
    · next found => exact rootName?_of_proposeSplice found h
    · cases h

theorem run_of_event?_eq_none {edit : Edit} {allow : ChangeEvent → Option Change} {root : Json}
    (h : (edit.run allow root).1.event? = none) : (edit.run allow root).2 = root := by
  unfold run commitChange at h ⊢
  split at h
  · rfl
  · rfl
  · split at h
    · rfl
    · split at h
      · cases h
      · rfl

/-- An edit is applied, as a change of the field it is addressed to, or it leaves the document as it is. -/
theorem run_cases (edit : Edit) (allow : ChangeEvent → Option Change) (fields : Object)
    (renames : ∀ event change, allow event = some change → change.name? = event.change.name?) :
    (∃ event root, edit.run allow (.obj fields) = (.applied event, root) ∧
        event.applyTo? (.obj fields) = some root ∧ event.rootName? = edit.path.head?) ∨
      ((edit.run allow (.obj fields)).1.event? = none ∧ (edit.run allow (.obj fields)).2 = .obj fields) := by
  unfold run
  split
  · exact .inr ⟨rfl, rfl⟩
  · exact .inr ⟨rfl, rfl⟩
  · next event proposed =>
    split
    · exact .inr ⟨rfl, rfl⟩
    · next change admitted =>
      unfold commitChange
      split
      · next root applied =>
        refine .inl ⟨_, _, rfl, applied, ?_⟩
        rw [← rootName?_of_propose proposed, ChangeEvent.rootName?, ChangeEvent.rootName?,
          renames event change admitted]
      · exact .inr ⟨rfl, rfl⟩

end Edit

end RecordSync
