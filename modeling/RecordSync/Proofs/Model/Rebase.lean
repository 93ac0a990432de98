import RecordSync.Proofs.Model.Sparing

/-!
# Rows behind models

A model mirrors a row when its committed copy equals the row and its key is that of the row. Edits that spare the key
do not disturb this, and neither does the exchange with a provider: only dirty fields are sent, they are merged into
the row, and the merged row is written back over the working copy.
-/

set_option autoImplicit false

namespace RecordSync.Model

def overwrite (old : Option Json) : Option Json → Option Json
  | none => old
  | some value => if (old == some value) = true then old else some value

theorem overwrite_self (value : Option Json) : overwrite value value = value := by
  cases value with
  | none => rfl
  | some value => exact if_pos BEq.rfl

/-- A field that is overwritten by a row is as in the row, unless the row lacks it. -/
theorem beq_overwrite {old new : Option Json} (covered : new = none → old = none) :
    (new == overwrite old new) = true := by
  cases new with
  | none => rw [covered rfl]; rfl
  | some value =>
    rw [overwrite]
    by_cases same : (old == some value) = true
    · rw [if_pos same]
      exact BEq.symm same
    · rw [if_neg same]
      exact BEq.rfl

theorem writeAll_accounted {m : Model} (h : m.Accounted) (bypass : Bool) (values : Entity) :
    (m.writeAll bypass values).model.Accounted :=
  accounted_preserved.writeAll bypass (fun _ _ => trivial) h

theorem writeAll_field? {m : Model} (h : m.Accounted) {values : Entity} (ordered : KeyMap.Ordered values)
    (name : String) :
    (m.writeAll true values).model.field? name = overwrite (m.field? name) (KeyMap.get? values name) := by
  induction values generalizing m with
  | nil => rfl
  | cons entry rest ih =>
    obtain ⟨key, value⟩ := entry
    obtain ⟨fields, root, -⟩ := h.isObject
    show ((m.write (.set [key] value) true).model.writeAll true rest).model.field? name = _
    rw [ih (write_accounted h _ true) ordered.tail, KeyMap.get?_cons]
    by_cases same : key = name
    · subst same
      rw [if_pos rfl, ordered.get?_tail]
      exact field?_write_set root key value
    · have spares : (Edit.set [key] value).path.head? ≠ some name := fun head => same (Option.some.inj head)
      rw [if_neg same, (write_spared true spares (.refl h name)).field]

theorem rebase_accounted {m : Model} (h : m.Accounted) (values : Entity) : (m.rebase values).model.Accounted :=
  perform_accounted h (.rebase values)

theorem rebase_field? {m : Model} (h : m.Accounted) {values : Entity} (ordered : KeyMap.Ordered values)
    (name : String) :
    (m.rebase values).model.field? name = overwrite (m.field? name) (KeyMap.get? values name) :=
  writeAll_field? h ordered name

theorem committed_of_submit {m : Model} (h : m.Accounted) (name : String) :
    KeyMap.get? m.submit.committed name = m.field? name := by
  obtain ⟨fields, root, -⟩ := h.isObject
  rw [field?_of_root root, submit, toEntity_of_root root]

theorem get?_dirtyFields {m : Model} (h : m.Accounted) (name : String) :
    KeyMap.get? m.dirtyFields name = if name ∈ m.dirty then m.field? name else none := by
  have distinct := (KeyMap.map_fst_filterMap m.field? m.dirty).nodup h.nodup
  rw [dirtyFields, KeyMap.get?_ofList _ distinct]
  exact KeyMap.get?_filterMap m.field? m.dirty name

theorem get?_union_dirtyFields {m : Model} (h : m.Accounted) (row : Entity) (name : String) :
    KeyMap.get? (KeyMap.union row m.dirtyFields) name =
      (if name ∈ m.dirty then m.field? name else none).or (KeyMap.get? row name) := by
  have ordered : KeyMap.Ordered m.dirtyFields := KeyMap.ordered_ofList _
  rw [KeyMap.get?_union row ordered, get?_dirtyFields h]

theorem beq_committed {m : Model} (h : m.Accounted) {name : String} (clean : name ∉ m.dirty) :
    (m.field? name == KeyMap.get? m.committed name) = true := by
  rw [h.mem_dirty] at clean
  exact beq_of_not_differs clean

/-- A row that a model knows as its committed copy, with its key. -/
structure Mirrors (row : Entity) (m : Model) : Prop where
  ordered : KeyMap.Ordered row
  committed : (Json.obj row == .obj m.committed) = true
  key : KeyMap.get? row m.primary = m.key?

namespace Mirrors

variable {row : Entity} {m : Model}

theorem get?_beq (h : Mirrors row m) (name : String) :
    (KeyMap.get? row name == KeyMap.get? m.committed name) = true :=
  Json.get?_of_equalFields h.committed name

theorem of_spared (h : Mirrors row m) {new : Model} (schema : new.schema = m.schema)
    (spared : Spared m.primary m new) : Mirrors row new where
  ordered := h.ordered
  committed := spared.committed ▸ h.committed
  key := by
    have same : new.primary = m.primary := by rw [primary, schema]; rfl
    rw [key?, same, spared.field]
    exact h.key

theorem beq_toEntity (h : Mirrors row m) (accounted : m.Accounted) (clean : m.isDirty = false) :
    (Json.obj row == .obj m.toEntity) = true := by
  obtain ⟨fields, root, ordered⟩ := accounted.isObject
  have none : m.dirty = [] := by simpa [isDirty] using clean
  rw [toEntity_of_root root]
  refine Json.equalFields_of_get? h.ordered ordered fun name => ?_
  have unchanged : name ∉ m.dirty := by simp [none]
  have same := beq_committed accounted unchanged
  rw [field?_of_root root] at same
  exact BEq.trans (h.get?_beq name) (BEq.symm same)

/-- A row that has every field of a model and its key is mirrored once it has been written into the model. -/
theorem rebase (accounted : m.Accounted) (ordered : KeyMap.Ordered row)
    (covered : ∀ name, KeyMap.get? row name = none → m.field? name = none)
    (key : overwrite m.key? (KeyMap.get? row m.primary) = KeyMap.get? row m.primary) :
    Mirrors row (m.rebase row).model := by
  have accounted' := writeAll_accounted accounted true row
  obtain ⟨fields, root, orderedFields⟩ := accounted'.isObject
  have schema := (m.rebase_keeps row).schema
  refine ⟨ordered, Json.equalFields_of_get? ordered ?_ fun name => ?_, ?_⟩
  · show KeyMap.Ordered (m.writeAll true row).model.toEntity
    rwa [toEntity_of_root root]
  · show (KeyMap.get? row name == KeyMap.get? (m.writeAll true row).model.submit.committed name) = true
    rw [committed_of_submit accounted', writeAll_field? accounted ordered]
    exact beq_overwrite (covered name)
  · have same : (m.rebase row).model.primary = m.primary := by rw [primary, schema]; rfl
    rw [key?, same, rebase_field? accounted ordered]
    exact key.symm

/-- An update is merged into the row and written back. Fields that were deleted come back with it. -/
theorem update (h : Mirrors row m) (accounted : m.Accounted) (clean : m.primary ∉ m.dirty) :
    Mirrors (KeyMap.union row m.dirtyFields) (m.rebase (KeyMap.union row m.dirtyFields)).model ∧
      KeyMap.get? (KeyMap.union row m.dirtyFields) m.primary = KeyMap.get? row m.primary := by
  have merged := get?_union_dirtyFields accounted row
  have key : KeyMap.get? (KeyMap.union row m.dirtyFields) m.primary = KeyMap.get? row m.primary := by
    rw [merged, if_neg clean]
    rfl
  refine ⟨rebase accounted (h.ordered.union _) (fun name missing => ?_) ?_, key⟩
  · rw [merged, Option.or_eq_none_iff] at missing
    by_cases dirty : name ∈ m.dirty
    · rw [if_pos dirty] at missing
      exact missing.1
    · -- A clean field is in the row if it is in the model, through the committed copy.
      have same := BEq.trans (beq_committed accounted dirty) (BEq.symm (h.get?_beq name))
      rw [missing.2] at same
      cases shown : m.field? name with
      | none => rfl
      | some value => rw [shown] at same; cases same
  · rw [key, h.key]
    exact overwrite_self _

theorem ne_of_falsy {value : Option Json} {text : String} (falsy : Json.truthy value = false)
    (nonempty : text ≠ "") : ¬ (value == some (Json.str text)) = true := by
  intro same
  cases value with
  | none => cases same
  | some value =>
    cases value with
    | str other =>
      have equal : (other == text) = true := same
      rw [beq_iff_eq] at equal
      simp [Json.truthy, equal, nonempty] at falsy
    | _ => cases same

theorem create (accounted : m.Accounted) (isNew : m.isNew = true) {text : String} (nonempty : text ≠ "") :
    Mirrors (KeyMap.insert m.toEntity m.primary (.str text))
      (m.rebase (KeyMap.insert m.toEntity m.primary (.str text))).model := by
  obtain ⟨fields, root, ordered⟩ := accounted.isObject
  rw [toEntity_of_root root]
  refine rebase accounted (ordered.insert _ _) (fun name missing => ?_) ?_
  · rw [KeyMap.get?_insert] at missing
    split at missing
    · cases missing
    · rwa [field?_of_root root]
  · have falsy : Json.truthy m.key? = false := by simpa [Model.isNew] using isNew
    rw [KeyMap.get?_insert_self]
    exact if_neg (ne_of_falsy falsy nonempty)

end Mirrors

end RecordSync.Model
