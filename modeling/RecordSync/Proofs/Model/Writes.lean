import RecordSync.Model.Command
import RecordSync.Proofs.Document.Frame
import RecordSync.Proofs.Json.Equality

/-!
# Writes to a model

What every write to a model leaves alone, and what becomes of a run of commands. Setters of virtual fields are code
from outside; they are taken to write by the commands of the model itself, so that a run with virtual fields is a
longer run without them.
-/

set_option autoImplicit false

namespace RecordSync

namespace Model

theorem build_eq {uuid : String} {schema : EntityRules} {entity : Entity} {m : Model}
    (h : build uuid schema entity = .ok m) :
    ∃ fields, (schema.validate (.obj entity) []).1 = .obj fields ∧
      m = { uuid, schema, root := .obj fields, committed := fields, dirty := [], observers := [],
            nextObserver := 0 } := by
  unfold build at h
  split at h
  · next value validated =>
    split at h
    · next fields =>
      cases h
      exact ⟨fields, by rw [validated], rfl⟩
    · cases h
  · cases h

structure Keeps (old new : Model) : Prop where
  uuid : new.uuid = old.uuid
  schema : new.schema = old.schema
  observers : new.observers = old.observers
  nextObserver : new.nextObserver = old.nextObserver

theorem Keeps.refl (m : Model) : m.Keeps m := ⟨rfl, rfl, rfl, rfl⟩

theorem Keeps.trans {a b c : Model} (h : a.Keeps b) (k : b.Keeps c) : a.Keeps c :=
  ⟨k.uuid.trans h.uuid, k.schema.trans h.schema, k.observers.trans h.observers,
    k.nextObserver.trans h.nextObserver⟩

theorem Keeps.symm {a b : Model} (h : a.Keeps b) : b.Keeps a :=
  ⟨h.uuid.symm, h.schema.symm, h.observers.symm, h.nextObserver.symm⟩

def KeepsIn (m : Model) (signals : List ModelSignal) : Prop :=
  ∀ event shown, ModelSignal.changed event shown ∈ signals → m.Keeps shown

theorem KeepsIn.append {m : Model} {first second : List ModelSignal} (h : m.KeepsIn first)
    (k : m.KeepsIn second) : m.KeepsIn (first ++ second) := by
  intro event shown hs
  rcases List.mem_append.1 hs with hs | hs
  · exact h event shown hs
  · exact k event shown hs

theorem KeepsIn.of_keeps {a b : Model} {signals : List ModelSignal} (h : a.Keeps b)
    (k : b.KeepsIn signals) : a.KeepsIn signals :=
  fun event shown hs => h.trans (k event shown hs)

theorem KeepsIn.tail {m shown : Model} {event : ChangeEvent} {rest : List ModelSignal}
    (h : m.KeepsIn (.changed event shown :: rest)) : m.Keeps shown ∧ shown.KeepsIn rest := by
  have first := h event shown (.head _)
  exact ⟨first, .of_keeps first.symm fun event other listed => h event other (.tail _ listed)⟩

theorem keepsIn_nil (m : Model) : m.KeepsIn [] := by
  intro event shown hs
  cases hs

def OnlyWarns (signals : List ModelSignal) : Prop := ∀ signal ∈ signals, ∃ text, signal = .warning text

theorem OnlyWarns.keepsIn {signals : List ModelSignal} (h : OnlyWarns signals) (m : Model) :
    m.KeepsIn signals := by
  intro event shown hs
  obtain ⟨text, ht⟩ := h _ hs
  cases ht

theorem onlyWarns_nil : OnlyWarns [] := by
  intro signal hs
  cases hs

theorem OnlyWarns.append {first second : List ModelSignal} (h : OnlyWarns first) (k : OnlyWarns second) :
    OnlyWarns (first ++ second) := by
  intro signal hs
  rcases List.mem_append.1 hs with hs | hs
  · exact h signal hs
  · exact k signal hs

theorem keepsIn_announce {m shown : Model} (h : m.Keeps shown) (events : List ChangeEvent) :
    m.KeepsIn (shown.announce events) := by
  intro event other hs
  obtain ⟨e, -, he⟩ := List.mem_map.1 hs
  cases he
  exact h

/-- To keep account of an event is a matter of the dirty fields alone. -/
theorem track_frame (m : Model) (event : ChangeEvent) : m.track event = { m with dirty := (m.track event).dirty } := by
  unfold track
  split
  · rfl
  · dsimp only
    split
    · split <;> rfl
    · rfl

theorem track_keeps (m : Model) (event : ChangeEvent) : m.Keeps (m.track event) := by
  rw [track_frame]
  exact ⟨rfl, rfl, rfl, rfl⟩

theorem track_root (m : Model) (event : ChangeEvent) : (m.track event).root = m.root := by
  rw [track_frame]

theorem track_committed (m : Model) (event : ChangeEvent) : (m.track event).committed = m.committed := by
  rw [track_frame]

theorem name?_of_allow {schema : EntityRules} {event : ChangeEvent} {change : Change}
    (h : allow schema event = .ok change) : change.name? = event.change.name? := by
  have same : ∀ new : Json, (event.change.withNew new).name? = event.change.name? := by
    intro new
    cases event.change <;> rfl
  unfold allow at h
  extract_lets full addsKey at h
  split at h
  · cases h; rfl
  · split at h
    · cases h
    · split at h
      · cases h; rfl
      · split at h
        · cases h; exact same _
        · cases h

theorem write_onlyWarns (m : Model) (edit : Edit) (bypass : Bool) : OnlyWarns (m.write edit bypass).signals := by
  unfold write
  dsimp only
  split
  · exact onlyWarns_nil
  · intro signal hs
    dsimp only at hs
    split at hs
    · split at hs
      · exact ⟨_, List.mem_singleton.1 hs⟩
      · cases hs
    · cases hs
  · exact onlyWarns_nil

theorem write_keeps (m : Model) (edit : Edit) (bypass : Bool) : m.Keeps (m.write edit bypass).model := by
  unfold write
  dsimp only
  split
  · refine Keeps.trans ?_ (track_keeps _ _)
    exact ⟨rfl, rfl, rfl, rfl⟩
  · exact .refl m
  · exact .refl m

theorem write_committed (m : Model) (edit : Edit) (bypass : Bool) :
    (m.write edit bypass).model.committed = m.committed := by
  unfold write
  dsimp only
  split
  · exact track_committed _ _
  · rfl
  · rfl

/-- A write either changes the field it is addressed to, which is then accounted for, or nothing. -/
theorem write_cases (m : Model) (edit : Edit) (bypass : Bool) {fields : Object} (root : m.root = .obj fields) :
    (∃ event name after, edit.path.head? = some name ∧ event.rootName? = some name ∧
        AgreeExcept name fields after ∧
        m.write edit bypass = ⟨.applied event, { m with root := .obj after }.track event, []⟩) ∨
      ((m.write edit bypass).model = m ∧ (m.write edit bypass).result.event? = none) := by
  -- Neither the schema nor a bypass turns a change into one of another key.
  have renames : ∀ event change,
      (if bypass then some event.change else (allow m.schema event).toOption) = some change →
        change.name? = event.change.name? := by
    intro event change h
    split at h
    · cases h; rfl
    · cases allowed : allow m.schema event with
      | error text => rw [allowed] at h; cases h
      | ok other =>
        rw [allowed] at h
        cases h
        exact name?_of_allow allowed
  rcases Edit.run_cases edit _ fields renames with ⟨event, new, ran, applied, head⟩ | ⟨none, same⟩
  · obtain ⟨name, after, named, rfl, agree⟩ := ChangeEvent.applyTo?_obj applied
    refine .inl ⟨event, name, after, head ▸ named, named, agree, ?_⟩
    simp only [write, root, ran]
  · right
    simp only [write, root]
    revert none same
    generalize edit.run _ _ = outcome
    intro none same
    obtain ⟨mutation, new⟩ := outcome
    cases mutation with
    | applied event => cases none
    | unchanged | unresolved | rejected => exact ⟨rfl, rfl⟩

theorem writeAll_onlyWarns (m : Model) (bypass : Bool) (values : List (String × Json)) :
    OnlyWarns (m.writeAll bypass values).signals := by
  induction values generalizing m with
  | nil => exact onlyWarns_nil
  | cons entry rest ih => exact (write_onlyWarns m _ bypass).append (ih _)

theorem revertField_onlyWarns (m : Model) (name : String) : OnlyWarns (m.revertField name).signals :=
  write_onlyWarns m _ true

theorem revertFields_onlyWarns (m : Model) (names : List String) : OnlyWarns (m.revertFields names).signals := by
  induction names generalizing m with
  | nil => exact onlyWarns_nil
  | cons name rest ih => exact (revertField_onlyWarns m name).append (ih _)

/-- A write below a missing place is addressed to the same top-level field. -/
theorem head?_of_vivify {root value folded : Json} {path target : Path}
    (h : vivify root path value = (target, folded)) : target.head? = path.head? := by
  cases path with
  | nil => simp only [vivify, List.take_nil, Prod.mk.injEq] at h; rw [← h.1]
  | cons key rest =>
    unfold vivify at h
    extract_lets isVacant depth at h
    have positive : 0 < depth := by
      simp only [depth]
      cases found : (List.range' 1 ((key :: rest).length - 1)).find? isVacant with
      | none => simp
      | some n =>
        have listed := List.mem_of_find?_eq_some found
        rw [Option.getD_some]
        rw [List.mem_range'_1] at listed
        omega
    obtain ⟨n, hn⟩ := Nat.exists_eq_succ_of_ne_zero (Nat.pos_iff_ne_zero.1 positive)
    rw [hn] at h
    cases h
    rfl

structure Preserved (allowed : String → Prop) (P : Model → Prop) : Prop where
  write : ∀ (m : Model) (edit : Edit) (bypass : Bool),
    (∀ name, edit.path.head? = some name → allowed name) → P m → P (m.write edit bypass).model
  revert : ∀ (m : Model) (name : String), allowed name → P m → P (m.revertField name).model

namespace Preserved

variable {allowed : String → Prop} {P : Model → Prop} (h : Preserved allowed P)
include h

theorem edit {m : Model} {e : Edit} (ha : ∀ name, e.path.head? = some name → allowed name) (hp : P m) :
    P (m.edit e).model :=
  h.write m e false ha hp

theorem writeAll {m : Model} (bypass : Bool) {values : List (String × Json)}
    (ha : ∀ entry ∈ values, allowed entry.1) (hp : P m) : P (m.writeAll bypass values).model := by
  induction values generalizing m with
  | nil => exact hp
  | cons entry rest ih =>
    refine ih (fun e he => ha e (.tail _ he)) (h.write m _ bypass ?_ hp)
    intro name hn
    cases hn
    exact ha entry (.head _)

theorem revertFields {m : Model} {names : List String} (ha : ∀ name ∈ names, allowed name) (hp : P m) :
    P (m.revertFields names).model := by
  induction names generalizing m with
  | nil => exact hp
  | cons name rest ih =>
    exact ih (fun n hn => ha n (.tail _ hn)) (h.revert m name (ha name (.head _)) hp)

theorem setAt {m : Model} {path : Path} (value : Json) (ha : ∀ name, path.head? = some name → allowed name)
    (hp : P m) : P (m.setAt path value).model := by
  unfold Model.setAt
  split
  · exact hp
  · next nonempty =>
    cases path with
    | nil => exact absurd rfl nonempty
    | cons key rest =>
      split
      next target folded located =>
      split
      · exact hp
      · refine h.edit ?_ hp
        intro name hn
        have head := head?_of_vivify located
        exact ha name (head ▸ hn)

end Preserved

end Model

end RecordSync
