import RecordSync.Proofs.Document.Parting
import RecordSync.Proofs.Model.Enforced

/-!
# Read-only parts

A read-only path is shut against writes to that very path. Nothing is inherited: what lies above or below may be
written, and with it the value at the path. As long as all other changes spare the path, the value stays.
-/

set_option autoImplicit false

namespace RecordSync

namespace Model

def SparesOrMeets (root : Json) (path : Path) (event : ChangeEvent) : Prop :=
  event.fullPath = path ∨ event.Spares root path

variable {schema : EntityRules} {root : Json} {path : Path}

/-- The schema never lets a change pass that is addressed to a read-only path at which there is something. -/
theorem fullPath_ne_of_passes {m : Model} {edit : Edit} {event : ChangeEvent} {change : Change}
    (proposed : edit.propose m.root = .change event) (passes : Passes m.schema event change)
    (shut : m.schema.isReadOnly path = true) (there : (m.root.get? path).isSome) : event.fullPath ≠ path := by
  rintro rfl
  cases passes with
  | key adds =>
    obtain ⟨change, place⟩ := event
    cases change with
    | add name new =>
      have absent := Edit.get?_of_add proposed
      rw [ChangeEvent.fullPath, show (Change.add name new).name?.toList = [name] from rfl, absent] at there
      cases there
    | _ => cases adds
  | plain writable none => simp [writable] at shut
  | value writable some fine => simp [writable] at shut

theorem agreeAlong_lasting (shut : schema.isReadOnly path = true) {value : Json} (found : root.get? path = some value) :
    Lasting (SparesOrMeets root path) fun m => m.schema = schema ∧ Json.AgreeAlong path root m.root where
  write := by
    intro m edit kind ⟨same, agree⟩
    refine ⟨(write_keeps m edit false).schema.trans same, ?_⟩
    cases write_guarded m edit with
    | idle silent still =>
      rw [still]
      exact agree
    | @applied event change after proposed passes applied told moved =>
      rw [moved]
      rcases kind _ told with meets | spares
      · have there : (m.root.get? path).isSome := by rw [agree.get?_eq, found]; rfl
        rw [passes.fullPath] at meets
        exact absurd meets (fullPath_ne_of_passes proposed passes (same ▸ shut) there)
      · exact agree.applyTo? spares applied

/-- A value at a read-only path stays through every history of enforced writes that only reports changes addressed to
the path itself or sparing it. -/
theorem getAt_readOnly {m : Model} (shut : m.schema.isReadOnly path = true) {value : Json}
    (found : m.getAt path = some value) {fields : VirtualFields} (guarded : fields.Enforced)
    {commands : List ModelCommand} (enforced : ∀ command ∈ commands, command.isEnforced = true)
    (spares : Confined (SparesOrMeets m.root path) (m.reports fields commands)) :
    (m.performAll fields commands).getAt path = some value := by
  have start := Json.agreeAlong_self found
  have last := (agreeAlong_lasting shut found).performAll guarded enforced spares ⟨rfl, start⟩
  rw [getAt, last.2.get?_eq]
  exact found

def order : Schema :=
  let fixed : Schema := { Schema.empty with readOnly := true }
  let line : Schema := { Schema.ofType .object with properties := [("article", fixed)] }
  { Schema.ofType .object with
    properties := [("lines", { Schema.ofType .array with items := some line }), ("origin", fixed)] }

def line (article : String) : Json := .obj [("article", .str article)]

def firstOrder : Model :=
  let fields := [("lines", .arr [line "a", line "b"]), ("origin", .obj [("city", .str "c")])]
  { uuid := "u", schema := order, root := .obj fields, committed := fields, dirty := [], observers := [],
    nextObserver := 0 }

/-- Tries to overwrite a read-only article, adds a number to its line, exchanges the line before it, and adds a line. -/
def orderEdits : List ModelCommand :=
  [.setAt ["lines", "1", "article"] (.str "d"), .setAt ["lines", "1", "count"] (.bool true),
    .splice ["lines"] 0 1 [line "e"], .push ["lines"] (line "f")]

theorem orderEdits_spare :
    Confined (SparesOrMeets firstOrder.root ["lines", "1", "article"]) (firstOrder.reports [] orderEdits) := by
  have told : ∃ warned counted exchanged added, firstOrder.reports [] orderEdits = [.warning warned,
      .changed ⟨.add "count" (.bool true), ["lines", "1"]⟩ counted,
      .changed ⟨.splice 0 [line "a"] [line "e"], ["lines"]⟩ exchanged,
      .changed ⟨.splice 2 [] [line "f"], ["lines"]⟩ added] := ⟨_, _, _, _, rfl⟩
  obtain ⟨warned, counted, exchanged, added, told⟩ := told
  rw [told]
  intro event shown reported
  simp only [List.mem_cons, List.not_mem_nil, or_false, ModelSignal.changed.injEq, reduceCtorEq, false_or] at reported
  have second : readIndex? "1" = some 1 := by decide
  right
  rcases reported with ⟨rfl, -⟩ | ⟨rfl, -⟩ | ⟨rfl, -⟩
  · refine .inr ⟨_, rfl, .inr ⟨_, rfl, ?_⟩⟩
    show "count" ≠ "article"
    decide
  · exact .inr ⟨_, rfl, 1, second, .inr ⟨by decide, rfl⟩⟩
  · exact .inr ⟨_, rfl, 1, second, .inl (by decide)⟩

theorem getAt_readOnly_article :
    order.isReadOnly ["lines", "1", "article"] = true ∧
      (firstOrder.performAll [] orderEdits).getAt ["lines", "1", "article"] = some (.str "b") := by
  have shut : firstOrder.schema.isReadOnly ["lines", "1", "article"] = true := rfl
  have found : firstOrder.getAt ["lines", "1", "article"] = some (.str "b") := rfl
  have enforced : ∀ command ∈ orderEdits, command.isEnforced = true := by decide
  exact ⟨shut, getAt_readOnly shut found VirtualFields.enforced_nil enforced orderEdits_spare⟩

/-- Read-only values are overwritten through what is above them, deleted with it, moved with the elements of an array,
and altered from below. -/
theorem getAt_readOnly_evaded :
    build "u" order firstOrder.committed = .ok firstOrder ∧ order.isReadOnly ["lines", "1", "article"] = true ∧
      order.isReadOnly ["origin"] = true ∧
      firstOrder.getAt ["lines", "1", "article"] = some (.str "b") ∧
      firstOrder.getAt ["origin"] = some (.obj [("city", .str "c")]) ∧
      (firstOrder.setAt ["lines", "1"] (line "d")).model.getAt ["lines", "1", "article"] = some (.str "d") ∧
      (firstOrder.remove ["lines"]).model.getAt ["lines", "1", "article"] = none ∧
      (firstOrder.splice ["lines"] 0 1 []).model.getAt ["lines", "1", "article"] = none ∧
      (firstOrder.setAt ["origin", "city"] (.str "d")).model.getAt ["origin"] = some (.obj [("city", .str "d")]) :=
  ⟨rfl, rfl, rfl, rfl, rfl, rfl, rfl, rfl, rfl⟩

end Model

end RecordSync
