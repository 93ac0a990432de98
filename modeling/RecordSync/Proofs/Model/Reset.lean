import RecordSync.Proofs.Model.Reachable

/-!
# Putting a model back

To reset a model puts the dirty fields back one after the other. Since the account of them is complete, the working
copy is then the committed one again, however it was edited. Copies are compared by the equality of values, for which
the two zeros are one.
-/

set_option autoImplicit false

namespace RecordSync.Model

theorem revertFields_committed (m : Model) (names : List String) :
    (m.revertFields names).model.committed = m.committed := by
  induction names generalizing m with
  | nil => rfl
  | cons name rest ih => exact (ih _).trans (write_committed m (m.revertEdit name) true)

theorem reset_founded {m : Model} (h : m.Founded) : m.reset.model.Founded :=
  founded_preserved.revertFields (fun _ _ => trivial) h

theorem reset_dirty {m : Model} (h : m.Accounted) : m.reset.model.dirty = [] := by
  have clean := reset_clean h
  simpa [isDirty] using clean

/-- A single field is put back and is clean; nothing else is touched. -/
structure PutBack (name : String) (old new : Model) : Prop where
  committed : new.committed = old.committed
  field : (new.field? name == KeyMap.get? old.committed name) = true
  clean : name ∉ new.dirty
  others : ∀ other, other ≠ name → new.field? other = old.field? other
  dirty : ∀ other, other ≠ name → (other ∈ new.dirty ↔ other ∈ old.dirty)

theorem putBack_of_clean {m : Model} (h : m.Accounted) {name : String} (clean : name ∉ m.dirty) :
    PutBack name m m where
  committed := rfl
  field := beq_of_not_differs (by rwa [← h.mem_dirty])
  clean := clean
  others := fun _ _ => rfl
  dirty := fun _ _ => .rfl

theorem putBack_revertField {m : Model} (h : m.Accounted) (name : String) :
    PutBack name m (m.revertField name).model := by
  have spared {other : String} (ne : other ≠ name) : Spared other m (m.revertField name).model :=
    (spared_preserved other m).revert m name (Ne.symm ne) (.refl h other)
  have same := write_committed m (m.revertEdit name) true
  refine ⟨same, ?_, ?_, fun other ne => (spared ne).field, fun other ne => (spared ne).mem_dirty h⟩
  · have back := beq_of_not_differs (not_differs_revertEdit h name)
    rw [revertField_model h]
    rwa [same] at back
  · exact fun dirty => (mem_dirty_revertField h dirty).2 rfl

theorem putBack_resetProperty {m : Model} (h : m.Accounted) (name : String) :
    PutBack name m (m.resetProperty name).model := by
  unfold resetProperty
  split
  · exact putBack_revertField h name
  · next clean =>
    rw [isPropertyDirty, List.contains_iff_mem] at clean
    exact putBack_of_clean h clean

theorem performAll_committed {fields : VirtualFields} (setters : fields.Overt) (m : Model)
    {edits : List ModelCommand} (overt : ∀ edit ∈ edits, edit.isOvert = true) :
    (m.performAll fields edits).committed = m.committed := by
  induction edits generalizing m with
  | nil => rfl
  | cons edit rest ih =>
    have first := (perform_overtRun setters m (overt edit (.head _))).committed
    exact (ih _ fun later listed => overt later (.tail _ listed)).trans first

/-- However a model is edited, accepted or not, to reset it makes the working copy the committed one again, without a
dirty field, and to reset one property puts that one back and no other. The committed copy is the one from before the
edits, as long as no setter exchanges it. -/
theorem reset_undoes {fields : VirtualFields} (composed : fields.Composed) {m : Model} (reachable : m.Reachable)
    (edits : List ModelCommand) (overt : ∀ edit ∈ edits, edit.isOvert = true) :
    ((m.performAll fields edits).reset.model.root == .obj (m.performAll fields edits).committed) = true ∧
      (m.performAll fields edits).reset.model.committed = (m.performAll fields edits).committed ∧
      (m.performAll fields edits).reset.model.dirty = [] ∧
      (∀ name, PutBack name (m.performAll fields edits) ((m.performAll fields edits).resetProperty name).model) ∧
      (fields.Overt → (m.performAll fields edits).committed = m.committed) := by
  have founded := (reachable.performAll composed edits).founded
  have dirty := reset_dirty founded.toAccounted
  have committed := revertFields_committed (m.performAll fields edits) (m.performAll fields edits).dirty
  refine ⟨?_, committed, dirty, putBack_resetProperty founded.toAccounted, fun setters => ?_⟩
  · have equal := (reset_founded founded).beq_of_clean dirty
    rwa [show (m.performAll fields edits).reset.model.committed = _ from committed] at equal
  · exact performAll_committed setters m overt

theorem aliased_overt : aliased.Overt := by
  intro name setter h m value
  simp only [VirtualFields.setter?, aliased, KeyMap.get?] at h
  split at h
  · cases h
    have overt : (ModelCommand.setAt ["name"] value).isOvert = true := rfl
    exact OvertRun.single m overt
  · cases h

/-- Four fields are dirty before the reset. -/
theorem reset_undoes_alias :
    ∃ m, build "u" bounded [("age", .num (.int 1)), ("name", .str "a"), ("size", .null)] = .ok m ∧
      (m.performAll aliased variedEdits).dirty = ["name", "age", "size", "home"] ∧
      ((m.performAll aliased variedEdits).reset.model.root ==
        .obj [("age", .num (.int 1)), ("name", .str "a"), ("size", .null)]) = true := by
  have ordered : KeyMap.Ordered [("age", Json.num (.int 1)), ("name", .str "a"), ("size", .null)] := by decide
  refine ⟨_, rfl, by rfl, ?_⟩
  have built : build "u" bounded [("age", .num (.int 1)), ("name", .str "a"), ("size", .null)] = .ok _ := rfl
  obtain ⟨equal, -, -, -, baseline⟩ := reset_undoes aliased_composed (.build ordered built) variedEdits (by decide)
  rwa [baseline aliased_overt] at equal

end RecordSync.Model
