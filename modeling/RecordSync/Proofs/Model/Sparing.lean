import RecordSync.Proofs.Model.Dirty

/-!
# Edits that spare a field

Edits that are not addressed to a field leave it as it is, and leave the committed copy alone. Observers are told of
them when everything is in place, and only when something has changed.
-/

set_option autoImplicit false

namespace RecordSync

/-- The edits of a model that are not addressed to a top-level field. To put dirty fields back spares those that are
clean. -/
def ModelCommand.Spares (name : String) : ModelCommand → Prop
  | .set property _ => (Path.ofDotted property).head? ≠ some name
  | .setAt path _ | .push path _ | .splice path _ _ _ | .remove path => path.head? ≠ some name
  | .setMany values => ∀ entry ∈ values, entry.1 ≠ name
  | .reset | .resetProperty _ => True
  | .submit | .rebase _ => False

theorem ModelCommand.Spares.isOvert {name : String} {command : ModelCommand} (h : command.Spares name) :
    command.isOvert = true := by
  cases command with
  | submit | rebase values => cases h
  | _ => rfl

namespace Model

/-- A model that agrees with an older state of it in the committed copy and in one field. -/
structure Spared (name : String) (old new : Model) : Prop where
  accounted : new.Accounted
  committed : new.committed = old.committed
  field : new.field? name = old.field? name

theorem Spared.refl {m : Model} (h : m.Accounted) (name : String) : Spared name m m := ⟨h, rfl, rfl⟩

theorem Spared.mem_dirty {name : String} {old new : Model} (h : Spared name old new) (accounted : old.Accounted) :
    name ∈ new.dirty ↔ name ∈ old.dirty := by
  rw [h.accounted.mem_dirty, accounted.mem_dirty, Differs, Differs, h.field, h.committed]

theorem write_spared {name : String} {old m : Model} {edit : Edit} (bypass : Bool)
    (spares : edit.path.head? ≠ some name) (h : Spared name old m) :
    Spared name old (m.write edit bypass).model where
  accounted := write_accounted h.accounted edit bypass
  committed := (write_committed m edit bypass).trans h.committed
  field := by
    obtain ⟨fields, root, -⟩ := h.accounted.isObject
    rw [← h.field]
    rcases write_cases m edit bypass root with ⟨event, other, after, head, -, agree, result⟩ | ⟨same, -⟩
    · have ne : name ≠ other := by
        rintro rfl
        exact spares head
      rw [result, field?, track_root, field?_of_root root]
      exact agree.get?_eq name ne
    · rw [same]

theorem head?_revertEdit (m : Model) (name : String) : (m.revertEdit name).path.head? = some name := by
  unfold revertEdit
  split <;> rfl

theorem spared_preserved (name : String) (m : Model) : Preserved (· ≠ name) (Spared name m) where
  write := fun other edit bypass allowed h => write_spared bypass (fun head => allowed name head rfl) h
  revert := fun other property ne h => by
    rw [revertField_model h.accounted]
    refine write_spared true ?_ h
    rw [head?_revertEdit]
    exact fun same => ne (Option.some.inj same)

theorem perform_spared {m : Model} {name : String} {command : ModelCommand} (h : m.Accounted)
    (clean : name ∉ m.dirty) (spares : command.Spares name) : Spared name m (m.perform [] command).model := by
  have free := spared_preserved name m
  have here := Spared.refl h name
  have away {path : Path} (ne : path.head? ≠ some name) : ∀ other, path.head? = some other → other ≠ name := by
    rintro other head rfl
    exact ne head
  cases command with
  | set property value => exact free.setAt value (away spares) here
  | setAt path value => exact free.setAt value (away spares) here
  | setMany values =>
    simp only [perform, Written.verdict, setFields_nil]
    exact free.writeAll false spares here
  | push path value => exact free.edit (away spares) here
  | splice path index count items => exact free.edit (away spares) here
  | remove path => exact free.edit (away spares) here
  | submit => cases spares
  | reset =>
    -- Only dirty fields are put back, and this one is clean.
    refine free.revertFields ?_ here
    rintro other dirty rfl
    exact clean dirty
  | resetProperty property =>
    simp only [perform, Written.silent, resetProperty]
    split
    · next dirty =>
      refine free.revertFields ?_ here
      intro other listed same
      rw [List.mem_singleton.1 listed] at same
      exact clean (same ▸ List.contains_iff_mem.1 dirty)
    · exact here
  | rebase values => cases spares

/-- A field that is put back is clean, and other fields stay as clean as they are. -/
theorem mem_dirty_revertField {m : Model} (h : m.Accounted) {name other : String}
    (dirty : other ∈ (m.revertField name).model.dirty) : other ∈ m.dirty ∧ other ≠ name := by
  have ne : other ≠ name := by
    rintro rfl
    rw [revertField_model h, (write_accounted h _ true).mem_dirty] at dirty
    exact not_differs_revertEdit h other dirty
  have spared := (spared_preserved other m).revert m name (Ne.symm ne) (.refl h other)
  exact ⟨(spared.mem_dirty h).1 dirty, ne⟩

theorem mem_dirty_revertFields {m : Model} (h : m.Accounted) {names : List String} {other : String}
    (dirty : other ∈ (m.revertFields names).model.dirty) : other ∈ m.dirty ∧ other ∉ names := by
  induction names generalizing m with
  | nil => exact ⟨dirty, List.not_mem_nil⟩
  | cons name rest ih =>
    have accounted := accounted_preserved.revert m name trivial h
    obtain ⟨before, unlisted⟩ := ih accounted dirty
    obtain ⟨first, ne⟩ := mem_dirty_revertField h before
    exact ⟨first, List.not_mem_cons_of_ne_of_not_mem ne unlisted⟩

theorem reset_clean {m : Model} (h : m.Accounted) : m.reset.model.isDirty = false := by
  have none : m.reset.model.dirty = [] := List.eq_nil_iff_forall_not_mem.2 fun name dirty => by
    obtain ⟨first, unlisted⟩ := mem_dirty_revertFields h dirty
    exact unlisted first
  rw [isDirty, none]
  rfl

structure Announces {α : Type} (m : Model) (w : Written α) : Prop where
  shown : ∀ event shown, ModelSignal.changed event shown ∈ w.signals → shown = w.model
  told : w.model = m ∨ ∃ event, ModelSignal.changed event w.model ∈ w.signals

theorem announces_of_events {α : Type} {m new : Model} {result : α} {warnings : List ModelSignal}
    {events : List ChangeEvent} (warns : OnlyWarns warnings) (told : events = [] → new = m) :
    m.Announces ⟨result, new, warnings ++ new.announce events⟩ where
  shown := by
    intro event shown hs
    rcases List.mem_append.1 hs with hs | hs
    · obtain ⟨text, ht⟩ := warns _ hs
      cases ht
    · obtain ⟨e, -, he⟩ := List.mem_map.1 hs
      cases he
      rfl
  told := by
    cases events with
    | nil => exact .inl (told rfl)
    | cons event rest => exact .inr ⟨event, List.mem_append_right _ (.head _)⟩

theorem announces_silent (m : Model) {α : Type} (result : α) {signals : List ModelSignal}
    (warns : OnlyWarns signals) : m.Announces ⟨result, m, signals⟩ where
  shown := by
    intro event shown hs
    obtain ⟨text, ht⟩ := warns _ hs
    cases ht
  told := .inl rfl

theorem write_of_event?_eq_none {m : Model} {edit : Edit} {bypass : Bool}
    (h : (m.write edit bypass).result.event? = none) : (m.write edit bypass).model = m := by
  simp only [write] at h ⊢
  generalize edit.run _ m.root = outcome at h ⊢
  obtain ⟨mutation, root⟩ := outcome
  cases mutation with
  | applied event => cases h
  | unchanged | unresolved | rejected => rfl

theorem writeAll_of_none {m : Model} {bypass : Bool} {values : List (String × Json)}
    (h : (m.writeAll bypass values).result.2 = []) : (m.writeAll bypass values).model = m := by
  induction values generalizing m with
  | nil => rfl
  | cons entry rest ih =>
    obtain ⟨first, later⟩ := List.append_eq_nil_iff.1 h
    have same := write_of_event?_eq_none (Option.toList_eq_nil_iff.1 first)
    exact (ih later).trans same

theorem revertFields_of_none {m : Model} (accounted : m.Accounted) {names : List String}
    (h : (m.revertFields names).result = []) : (m.revertFields names).model = m := by
  induction names generalizing m with
  | nil => rfl
  | cons name rest ih =>
    obtain ⟨first, later⟩ := List.append_eq_nil_iff.1 h
    have same : (m.revertField name).model = m := by
      rw [revertField_model accounted]
      exact write_of_event?_eq_none (Option.toList_eq_nil_iff.1 first)
    refine (ih ?_ later).trans same
    rwa [same]

theorem edit_announces (m : Model) (e : Edit) : m.Announces (m.edit e) :=
  announces_of_events (write_onlyWarns m e false) fun none =>
    write_of_event?_eq_none (Option.toList_eq_nil_iff.1 none)

theorem setAt_announces (m : Model) (path : Path) (value : Json) : m.Announces (m.setAt path value) := by
  unfold setAt
  split
  · exact m.announces_silent false onlyWarns_nil
  · split
    split
    · exact m.announces_silent false fun signal hs => ⟨_, List.mem_singleton.1 hs⟩
    · exact edit_announces m _

theorem revert_announces {m : Model} (accounted : m.Accounted) (names : List String) :
    m.Announces (m.revert names) :=
  announces_of_events (revertFields_onlyWarns m names) (revertFields_of_none accounted)

theorem Announces.verdict {m : Model} {w : Written Bool} (h : m.Announces w) : m.Announces w.verdict :=
  ⟨h.shown, h.told⟩

theorem Announces.silent {α : Type} {m : Model} {w : Written α} (h : m.Announces w) : m.Announces w.silent :=
  ⟨h.shown, h.told⟩

theorem perform_announces {m : Model} {command : ModelCommand} (h : m.Accounted) (overt : command.isOvert = true) :
    m.Announces (m.perform [] command) := by
  cases command with
  | set property value => exact (setAt_announces m _ value).verdict
  | setAt path value => exact (setAt_announces m path value).verdict
  | setMany values =>
    have told : m.Announces (m.setMany values) :=
      announces_of_events (writeAll_onlyWarns m false values) writeAll_of_none
    obtain ⟨model, signals⟩ := setFields_nil m values
    constructor
    · intro event shown hs
      exact (told.shown event shown (signals ▸ hs)).trans model.symm
    · simp only [perform, Written.verdict, model, signals]
      exact told.told
  | push path value => exact (edit_announces m _).verdict
  | splice path index count items => exact (edit_announces m _).verdict
  | remove path => exact (edit_announces m _).verdict
  | reset => exact (revert_announces h _).silent
  | resetProperty property =>
    simp only [perform, resetProperty]
    split
    · exact (revert_announces h _).silent
    · exact (m.announces_silent () onlyWarns_nil).silent
  | submit | rebase values => cases overt

end Model

end RecordSync
