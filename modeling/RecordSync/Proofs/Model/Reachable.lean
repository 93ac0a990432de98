import RecordSync.Proofs.Model.Reports

/-!
# Reachable models

The models that there are: they are built from an entity that passes validation, and from then on written to and
followed. Setters of virtual fields lead to no others. Both copies of a reachable model have their fields in key order.
-/

set_option autoImplicit false

namespace RecordSync.Model

inductive Reachable : Model → Prop where
  | build {uuid : String} {schema : EntityRules} {entity : Entity} {m : Model} (ordered : KeyMap.Ordered entity)
      (built : Model.build uuid schema entity = .ok m) : Reachable m
  | perform {m : Model} (command : ModelCommand) (h : Reachable m) : Reachable (m.perform [] command).model
  | observe {m : Model} (h : Reachable m) : Reachable m.observe.2
  | dispose {m : Model} (id : Nat) (h : Reachable m) : Reachable (m.dispose id)

theorem Reachable.run {m last : Model} {signals : List ModelSignal} (h : m.Reachable) (run : Run m signals last) :
    last.Reachable := by
  induction run with
  | done => exact h
  | next command _ ih => exact ih (h.perform command)

theorem Reachable.performAll {m : Model} (h : m.Reachable) {fields : VirtualFields} (composed : fields.Composed)
    (commands : List ModelCommand) : (m.performAll fields commands).Reachable := by
  induction commands generalizing m with
  | nil => exact h
  | cons command rest ih => exact ih (h.run (perform_run composed m command))

theorem Reachable.observers {m : Model} (h : m.Reachable) : m.observers.Nodup := by
  have numbered : m.observers.Nodup ∧ ∀ id ∈ m.observers, id < m.nextObserver := by
    induction h with
    | build ordered built =>
      obtain ⟨fields, -, rfl⟩ := build_eq built
      exact ⟨List.nodup_nil, by simp⟩
    | @perform m command _ ih =>
      have kept := perform_keeps m command
      rwa [kept.observers, kept.nextObserver]
    | @observe m _ ih =>
      obtain ⟨distinct, below⟩ := ih
      have fresh : m.nextObserver ∉ m.observers := fun listed => Nat.lt_irrefl _ (below _ listed)
      refine ⟨List.nodup_append.2 ⟨distinct, by simp, ?_⟩, fun id listed => ?_⟩
      · rintro id listed _ last rfl
        exact fresh (List.mem_singleton.1 last ▸ listed)
      · rcases List.mem_append.1 listed with old | new
        · exact Nat.lt_succ_of_lt (below id old)
        · exact List.mem_singleton.1 new ▸ Nat.lt_succ_self _
    | dispose id _ ih =>
      exact ⟨ih.1.filter _, fun other listed => ih.2 other ((List.mem_filter.1 listed).1)⟩
  exact numbered.1

/-- An account of the dirty fields, with a committed copy in key order. -/
structure Founded (m : Model) : Prop extends Accounted m where
  committed : KeyMap.Ordered m.committed

theorem founded_of_build {uuid : String} {schema : EntityRules} {entity : Entity} {m : Model}
    (ordered : KeyMap.Ordered entity) (built : build uuid schema entity = .ok m) : m.Founded := by
  have accounted := accounted_of_build ordered built
  obtain ⟨fields, -, rfl⟩ := build_eq built
  obtain ⟨after, root, kept⟩ := accounted.isObject
  exact ⟨accounted, Json.obj.inj root ▸ kept⟩

theorem founded_preserved : Preserved (fun _ => True) Founded where
  write := fun m edit bypass _ h =>
    ⟨write_accounted h.toAccounted edit bypass, (write_committed m edit bypass).symm ▸ h.committed⟩
  revert := fun m name _ h =>
    ⟨accounted_preserved.revert m name trivial h.toAccounted,
      (write_committed m (m.revertEdit name) true).symm ▸ h.committed⟩

theorem submit_founded {m : Model} (h : m.Founded) : m.submit.Founded := by
  obtain ⟨fields, root, ordered⟩ := h.isObject
  refine ⟨submit_accounted h.toAccounted, ?_⟩
  show KeyMap.Ordered m.toEntity
  rwa [toEntity_of_root root]

theorem Reachable.founded {m : Model} (h : m.Reachable) : m.Founded := by
  induction h with
  | build ordered built => exact founded_of_build ordered built
  | perform command _ ih => exact founded_preserved.perform (fun _ => submit_founded) command ih
  | observe _ ih => exact ⟨⟨ih.isObject, ih.nodup, ih.mem_dirty⟩, ih.committed⟩
  | dispose id _ ih => exact ⟨⟨ih.isObject, ih.nodup, ih.mem_dirty⟩, ih.committed⟩

/-- A working copy without dirty fields equals the committed one. -/
theorem Founded.beq_of_clean {m : Model} (h : m.Founded) (clean : m.dirty = []) :
    (m.root == .obj m.committed) = true := by
  obtain ⟨fields, root, ordered⟩ := h.isObject
  rw [root]
  refine Json.equalFields_of_get? ordered h.committed fun name => ?_
  rw [← field?_of_root root]
  apply beq_of_not_differs
  rw [← h.mem_dirty, clean]
  exact List.not_mem_nil

end RecordSync.Model
