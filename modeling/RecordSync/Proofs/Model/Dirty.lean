import RecordSync.Proofs.Model.Run

/-!
# Dirty fields

A field is dirty exactly when its two copies differ. The account is kept event by event and looks at one field at a
time; it stays right because an applied change touches the one field it falls under.
-/

set_option autoImplicit false

namespace RecordSync.Model

/-- The two copies of a field differ; a field may be missing in either. -/
def Differs (m : Model) (name : String) : Prop := (m.field? name != KeyMap.get? m.committed name) = true

structure Accounted (m : Model) : Prop where
  isObject : ∃ fields, m.root = .obj fields ∧ KeyMap.Ordered fields
  nodup : m.dirty.Nodup
  mem_dirty : ∀ name, name ∈ m.dirty ↔ m.Differs name

theorem field?_of_root {m : Model} {fields : Object} (h : m.root = .obj fields) (name : String) :
    m.field? name = KeyMap.get? fields name := by
  rw [field?, h]
  rfl

theorem toEntity_of_root {m : Model} {fields : Object} (h : m.root = .obj fields) : m.toEntity = fields := by
  rw [toEntity, h]
  rfl

theorem not_differs_of_beq {m : Model} {name : String}
    (h : (m.field? name == KeyMap.get? m.committed name) = true) : ¬ m.Differs name := by
  simp [Differs, bne, h]

theorem beq_of_not_differs {m : Model} {name : String} (h : ¬ m.Differs name) :
    (m.field? name == KeyMap.get? m.committed name) = true := by
  simpa [Differs, bne] using h

/-- A model whose working copy is the committed one has no dirty fields. -/
theorem accounted_of_same {m : Model} {fields : Object} (root : m.root = .obj fields)
    (ordered : KeyMap.Ordered fields) (committed : m.committed = fields) (dirty : m.dirty = []) :
    m.Accounted where
  isObject := ⟨fields, root, ordered⟩
  nodup := by rw [dirty]; exact List.nodup_nil
  mem_dirty := by
    intro name
    have same : ¬ m.Differs name := by
      apply not_differs_of_beq
      rw [field?_of_root root, committed]
      exact BEq.rfl
    simp [dirty, same]

theorem accounted_of_build {uuid : String} {schema : EntityRules} {entity : Entity} {m : Model}
    (ordered : KeyMap.Ordered entity) (h : build uuid schema entity = .ok m) : m.Accounted := by
  obtain ⟨fields, validated, rfl⟩ := build_eq h
  exact accounted_of_same rfl (schema.ordered validated ordered) rfl rfl

theorem track_of_rootName? {m : Model} {event : ChangeEvent} {name : String} (h : event.rootName? = some name) :
    m.track event =
      if m.field? name != KeyMap.get? m.committed name then
        if m.dirty.contains name then m else { m with dirty := m.dirty ++ [name] }
      else { m with dirty := m.dirty.erase name } := by
  rw [track, h]

theorem nodup_track {m : Model} (nodup : m.dirty.Nodup) (event : ChangeEvent) : (m.track event).dirty.Nodup := by
  cases named : event.rootName? with
  | none => rw [track, named]; exact nodup
  | some name =>
    rw [track_of_rootName? named]
    split
    · split
      · exact nodup
      · next fresh =>
        rw [List.contains_iff_mem] at fresh
        exact List.nodup_append.2 ⟨nodup, by simp, by simp; rintro a ha rfl; exact fresh ha⟩
    · exact nodup.erase name

/-- The named field is looked at anew, and all others stay as they were. -/
theorem mem_track {m : Model} (nodup : m.dirty.Nodup) {event : ChangeEvent} {name : String}
    (named : event.rootName? = some name) (other : String) :
    other ∈ (m.track event).dirty ↔ if other = name then m.Differs name else other ∈ m.dirty := by
  rw [track_of_rootName? named]
  by_cases differs : (m.field? name != KeyMap.get? m.committed name) = true
  · rw [if_pos differs]
    have hd : m.Differs name := differs
    by_cases known : m.dirty.contains name = true
    · rw [if_pos known]
      rw [List.contains_iff_mem] at known
      split
      · next h => simp [h, known, hd]
      · rfl
    · rw [if_neg known]
      split
      · next h => simp [h, hd]
      · next h => simp [h]
  · rw [if_neg differs]
    have hd : ¬ m.Differs name := differs
    split
    · next h => simp [h, hd, nodup.mem_erase_iff]
    · next h => simp [nodup.mem_erase_iff, h]

theorem differs_track {m : Model} (event : ChangeEvent) (name : String) :
    (m.track event).Differs name ↔ m.Differs name := by
  simp only [Differs, field?, track_root, track_committed]

/-- It is enough that the account was right for all fields but the named one. -/
theorem accounted_track {m : Model} {event : ChangeEvent} {name : String} (named : event.rootName? = some name)
    (isObject : ∃ fields, m.root = .obj fields ∧ KeyMap.Ordered fields) (nodup : m.dirty.Nodup)
    (others : ∀ other, other ≠ name → (other ∈ m.dirty ↔ m.Differs other)) : (m.track event).Accounted where
  isObject := by rw [track_root]; exact isObject
  nodup := nodup_track nodup event
  mem_dirty := by
    intro other
    rw [mem_track nodup named, differs_track]
    split
    · next same => rw [same]
    · next ne => exact others other ne

theorem write_accounted {m : Model} (h : m.Accounted) (edit : Edit) (bypass : Bool) :
    (m.write edit bypass).model.Accounted := by
  obtain ⟨fields, root, ordered⟩ := h.isObject
  rcases write_cases m edit bypass root with ⟨event, name, after, -, named, agree, result⟩ | ⟨same, -⟩
  · rw [result]
    -- The event has been written already, so the account is right but for the field it falls under.
    refine accounted_track named ⟨after, rfl, agree.ordered ordered⟩ h.nodup fun other ne => ?_
    have unchanged : ({ m with root := .obj after } : Model).Differs other ↔ m.Differs other := by
      rw [Differs, Differs, field?_of_root rfl, field?_of_root root, agree.get?_eq other ne]
    rw [unchanged]
    exact h.mem_dirty other
  · rw [same]
    exact h

theorem write_root (m : Model) (edit : Edit) :
    (m.write edit true).model.root = (edit.run (fun event => some event.change) m.root).2 := by
  have admitted : (fun event : ChangeEvent =>
      if true then some event.change else (allow m.schema event).toOption) = fun event => some event.change := rfl
  have still := @Edit.run_of_event?_eq_none edit (fun event => some event.change) m.root
  unfold write
  dsimp only
  rw [admitted]
  generalize edit.run _ m.root = outcome at still ⊢
  obtain ⟨mutation, root⟩ := outcome
  cases mutation with
  | applied event => exact track_root _ _
  | unchanged | unresolved | rejected => exact (still rfl).symm

/-- A write from outside of the schema puts the value in place, or leaves an equal one there. -/
theorem field?_write_set {m : Model} {fields : Object} (root : m.root = .obj fields) (name : String)
    (value : Json) : (m.write (.set [name] value) true).model.field? name =
      if (m.field? name == some value) = true then m.field? name else some value := by
  have proposed : (Edit.set [name] value).propose (.obj fields) =
      Edit.proposeSet (.obj fields) [] name value := rfl
  rw [field?_of_root root, field?, write_root, root, Edit.run, proposed, Edit.proposeSet]
  cases shown : KeyMap.get? fields name with
  | none => exact KeyMap.get?_insert_self fields name value
  | some old =>
    dsimp only
    by_cases same : (old == value) = true
    · have equal : (some old == some value) = true := same
      rw [if_pos same, if_pos equal]
      exact shown
    · have unequal : ¬ (some old == some value) = true := same
      rw [if_neg same, if_neg unequal]
      exact KeyMap.get?_insert_self fields name value

theorem field?_write_remove {m : Model} {fields : Object} (root : m.root = .obj fields)
    (ordered : KeyMap.Ordered fields) (name : String) :
    (m.write (.remove [name]) true).model.field? name = none := by
  have proposed : (Edit.remove [name]).propose (.obj fields) = Edit.proposeRemove (.obj fields) [] name := rfl
  rw [field?, write_root, root, Edit.run, proposed, Edit.proposeRemove]
  cases shown : KeyMap.get? fields name with
  | none => exact shown
  | some old => exact ordered.get?_erase_self name

theorem not_differs_revertEdit {m : Model} (h : m.Accounted) (name : String) :
    ¬ (m.write (m.revertEdit name) true).model.Differs name := by
  obtain ⟨fields, root, ordered⟩ := h.isObject
  apply not_differs_of_beq
  rw [write_committed, revertEdit]
  cases KeyMap.get? m.committed name with
  | none => rw [field?_write_remove root ordered]; rfl
  | some value =>
    dsimp only
    rw [field?_write_set root name value]
    split
    · next equal => exact equal
    · exact BEq.rfl

/-- The field is no longer dirty by the account itself, so that taking it off the list changes nothing. -/
theorem revertField_model {m : Model} (h : m.Accounted) (name : String) :
    (m.revertField name).model = (m.write (m.revertEdit name) true).model := by
  have clean : name ∉ (m.write (m.revertEdit name) true).model.dirty := by
    rw [(write_accounted h _ true).mem_dirty]
    exact not_differs_revertEdit h name
  have unfiltered : (m.write (m.revertEdit name) true).model.dirty.filter (· != name) =
      (m.write (m.revertEdit name) true).model.dirty := by
    refine List.filter_eq_self.2 fun other hm => ?_
    rw [bne_iff_ne]
    rintro rfl
    exact clean hm
  have cut : (m.revertField name).model = { (m.write (m.revertEdit name) true).model with
      dirty := (m.write (m.revertEdit name) true).model.dirty.filter (· != name) } := rfl
  rw [cut, unfiltered]

theorem accounted_preserved : Preserved (fun _ => True) Accounted where
  write := fun _ edit bypass _ h => write_accounted h edit bypass
  revert := fun m name _ h => by rw [revertField_model h]; exact write_accounted h _ true

theorem submit_accounted {m : Model} (h : m.Accounted) : m.submit.Accounted := by
  obtain ⟨fields, root, ordered⟩ := h.isObject
  exact accounted_of_same root ordered (toEntity_of_root root) rfl

theorem perform_accounted {m : Model} (h : m.Accounted) (command : ModelCommand) :
    (m.perform [] command).model.Accounted :=
  accounted_preserved.perform (fun _ => submit_accounted) command h

theorem Run.accounted {m last : Model} {signals : List ModelSignal} (run : Run m signals last)
    (h : m.Accounted) : last.Accounted := by
  induction run with
  | done => exact h
  | next command _ ih => exact ih (perform_accounted h command)

def performAll (m : Model) (fields : VirtualFields) (commands : List ModelCommand) : Model :=
  commands.foldl (fun m command => (m.perform fields command).model) m

theorem performAll_accounted {m : Model} (h : m.Accounted) {fields : VirtualFields} (composed : fields.Composed)
    (commands : List ModelCommand) : (m.performAll fields commands).Accounted := by
  induction commands generalizing m with
  | nil => exact h
  | cons command rest ih => exact ih ((perform_run composed m command).accounted h)

/-- After any history of a model the dirty fields are listed once each, and they are the fields in which the working
copy and the committed copy differ. -/
theorem dirty_iff_differs {uuid : String} {schema : EntityRules} {entity : Entity} {m : Model} {fields : VirtualFields}
    (ordered : KeyMap.Ordered entity) (built : build uuid schema entity = .ok m) (composed : fields.Composed)
    (commands : List ModelCommand) :
    (m.performAll fields commands).dirty.Nodup ∧
      ∀ name, name ∈ (m.performAll fields commands).dirty ↔
        ((m.performAll fields commands).field? name !=
          KeyMap.get? (m.performAll fields commands).committed name) = true :=
  have accounted := performAll_accounted (accounted_of_build ordered built) composed commands
  ⟨accounted.nodup, accounted.mem_dirty⟩

def aliased : VirtualFields := [("alias", ⟨none, some fun m value => m.setAt ["name"] value⟩)]

theorem aliased_composed : aliased.Composed := by
  intro name setter h m value
  simp only [VirtualFields.setter?, aliased, KeyMap.get?] at h
  split at h
  · cases h
    exact Run.single m (.setAt ["name"] value)
  · cases h

def bounded : EntityRules where
  primary := "id"
  isReadOnly path := path == ["origin"]
  validate value path := match value with
    | .num (.int n) =>
      if n < 0 then (value, [⟨"below nought", path, value, "minimum"⟩]) else (.num (.int (min n 9)), [])
    | _ => (value, [])
  ordered := by
    intro fields after path shown ordered
    cases shown
    exact ordered

/-- A write through a virtual field, a number that is brought down, one that is refused, a deletion, a write below a
missing field, and an array that does not exist. -/
def variedEdits : List ModelCommand :=
  [.set "alias" (.str "b"), .set "age" (.num (.int 12)), .set "rank" (.num (.int (-1))), .remove ["size"],
    .setAt ["home", "city"] (.str "c"), .push ["tags"] .null]

/-- The age is brought down to what it was. -/
theorem dirty_iff_differs_alias :
    ∃ m, build "u" bounded [("age", .num (.int 9)), ("name", .str "a"), ("size", .null)] = .ok m ∧
      (m.performAll aliased variedEdits).dirty = ["name", "size", "home"] ∧
      ∀ name, name ∈ ["name", "size", "home"] ↔
        ((m.performAll aliased variedEdits).field? name !=
          KeyMap.get? [("age", .num (.int 9)), ("name", .str "a"), ("size", .null)] name) = true := by
  have ordered : KeyMap.Ordered [("age", Json.num (.int 9)), ("name", .str "a"), ("size", .null)] := by decide
  refine ⟨_, rfl, by rfl, ?_⟩
  exact (@dirty_iff_differs "u" bounded _ _ aliased ordered rfl aliased_composed variedEdits).2

end RecordSync.Model
