import RecordSync.Proofs.Model.Enforced
import RecordSync.Proofs.Schema.Editing

/-!
# Valid models

A model is built from a value that has passed validation, and every value that is written under a key by an enforced
write has passed it as well, at its own path. This keeps the whole working copy valid as long as the schema is asked
about everything that changes. It is not asked about the identity of a new model, about elements that are spliced
into an array, and about what an object requires.
-/

set_option autoImplicit false

namespace RecordSync

def ChangeEvent.Conforms (schema : Schema) (event : ChangeEvent) : Prop :=
  event.addsKey schema = false ∧ (schema.at event.path).Bears event.change

namespace Model

/-- The working copy fits the schema. -/
def Valid (schema : Schema) (m : Model) : Prop := m.schema = schema ∧ schema.Fits m.root

variable {schema : Schema}

theorem valid_of_build (steady : schema.Steady) {uuid : String} {entity : Entity} {m : Model}
    (h : build uuid schema entity = .ok m) : m.Valid schema := by
  unfold build at h
  split at h
  · next value validated =>
    have fine : (schema.validateAt [] (.obj entity)).2 = [] := congrArg Prod.snd validated
    have fits := Schema.fits_validateAt steady [] ((Schema.validateAt_errors steady [] _).1 fine)
    rw [show schema.validateAt [] (.obj entity) = (value, []) from validated] at fits
    split at h
    · cases h
      exact ⟨rfl, fits⟩
    · cases h
  · cases h

/-- A value that the schema lets pass fits where it is written, in the form in which it is written. -/
theorem fits_of_passes (steady : schema.Steady) {event : ChangeEvent} {change : Change}
    (passes : Passes schema event change) (key : ({ event with change } : ChangeEvent).addsKey schema = false)
    {new : Json} (written : change.new? = some new) :
    (schema.at ({ event with change } : ChangeEvent).fullPath).Fits new := by
  rw [passes.fullPath]
  cases passes with
  | key adds =>
    rw [adds] at key
    cases key
  | plain writable none => simp [none] at written
  | @value writable old some fine =>
    rw [Change.new?_withNew some, Option.some.injEq] at written
    subst written
    apply Schema.fits_validateAt (steady.at event.fullPath)
    exact (Schema.validateAt_errors (steady.at event.fullPath) [] old).1 fine

/-- The one step: an applied change about which the schema is asked leaves a valid model valid. -/
theorem valid_lasting (steady : schema.Steady) : Lasting (·.Conforms schema) (Valid schema) where
  write := by
    intro m edit conforms valid
    obtain ⟨same, fits⟩ := valid
    refine ⟨(write_keeps m edit false).schema.trans same, ?_⟩
    cases write_guarded m edit with
    | idle silent still =>
      rw [still]
      exact fits
    | @applied event change root proposed passes applied told moved =>
      obtain ⟨key, bears⟩ := conforms _ told
      rw [moved]
      apply Schema.fits_applyTo? steady fits bears _ applied
      intro new written
      exact fits_of_passes steady (same ▸ passes) key written

/-- After any history of enforced writes that only reports changes about which the schema is asked, the working copy
passes validation as a whole. -/
theorem valid_performAll (steady : schema.Steady) {uuid : String} {entity : Entity} {m : Model}
    (built : build uuid schema entity = .ok m) {fields : VirtualFields} (guarded : fields.Enforced)
    {commands : List ModelCommand} (enforced : ∀ command ∈ commands, command.isEnforced = true)
    (conforms : Confined (·.Conforms schema) (m.reports fields commands)) :
    (schema.validate (m.performAll fields commands).root []).2 = [] := by
  have valid := (valid_lasting steady).performAll guarded enforced conforms (valid_of_build steady built)
  exact (Schema.validateAt_errors steady [] _).2 valid.2

def note : Schema :=
  { Schema.ofType .object with
    properties := [("tags", { Schema.ofType .array with items := some (.ofType .string) }), ("title", .ofType .string)]
    required := ["title"] }

theorem note_steady : note.Steady := by
  have text := Schema.steady_ofType .string
  have tags : ({ Schema.ofType .array with items := some (.ofType .string) } : Schema).Steady := by
    apply Schema.Steady.intro
    · simp [Schema.ofType, Schema.empty]
    · simp [Schema.types, Schema.ofType, Schema.empty, TypeSet.types]
    · simp [Schema.ofType, Schema.empty]
    · simp [Schema.ofType, Schema.empty]
    · rintro item ⟨⟩
      exact text
  apply Schema.Steady.intro
  · simp [note]
  · simp [note, Schema.types, Schema.ofType, TypeSet.types]
  · simp [note, Schema.types, Schema.ofType, TypeSet.types]
  · simp [note, text, tags]
  · simp [note, Schema.ofType, Schema.empty]

def firstNote : Model :=
  { uuid := "u", schema := note, root := .obj [("tags", .arr []), ("title", .str "a")],
    committed := [("tags", .arr []), ("title", .str "a")], dirty := [], observers := [], nextObserver := 0 }

def noteEdits : List ModelCommand :=
  [.push ["tags"] (.str "b"), .set "title" (.arr []), .setAt ["tags", "0"] (.str "c"),
    .setAt ["place", "city"] (.str "d")]

theorem note_conforms : Confined (·.Conforms note) (firstNote.reports [] noteEdits) := by
  have told : ∃ first warned second third, firstNote.reports [] noteEdits = [
      .changed ⟨.splice 0 [] [.str "b"], ["tags"]⟩ first, .warning warned,
      .changed ⟨.update "0" (.str "b") (.str "c"), ["tags"]⟩ second,
      .changed ⟨.add "place" (.obj [("city", .str "d")]), []⟩ third] := ⟨_, _, _, _, rfl⟩
  obtain ⟨first, warned, second, third, told⟩ := told
  rw [told]
  intro event shown reported
  simp only [List.mem_cons, List.not_mem_nil, or_false, ModelSignal.changed.injEq, reduceCtorEq, false_or] at reported
  rcases reported with ⟨rfl, -⟩ | ⟨rfl, -⟩ | ⟨rfl, -⟩
  · refine ⟨rfl, ?_⟩
    rintro array item ⟨⟩ element listed
    rw [List.mem_singleton.1 listed]
    rfl
  · refine ⟨rfl, ?_⟩
    rintro ⟨⟩
  · refine ⟨rfl, ?_⟩
    rintro ⟨⟩

theorem valid_performAll_note :
    build "u" note [("tags", .arr []), ("title", .str "a")] = .ok firstNote ∧
      (note.validate (firstNote.performAll [] noteEdits).root []).2 = [] := by
  refine ⟨rfl, ?_⟩
  apply @valid_performAll note note_steady "u" [("tags", .arr []), ("title", .str "a")] firstNote rfl []
  · exact VirtualFields.enforced_nil
  · decide
  · exact note_conforms

/-- The schema is not asked about a tag that is pushed, and here it is no text. -/
theorem push_unchecked :
    (firstNote.push ["tags"] .null).result = true ∧
      (note.validate (firstNote.push ["tags"] .null).model.root []).2.length = 1 :=
  ⟨rfl, rfl⟩

end Model

end RecordSync
