import RecordSync.Proofs.Model.Writes

/-!
# Runs of commands

A run carries out commands on a model, one after the other, with everything that is reported on the way. Setters of
virtual fields are composed of such runs, so any command is one.
-/

set_option autoImplicit false

namespace RecordSync

namespace Model

inductive Run : Model → List ModelSignal → Model → Prop where
  | done (m : Model) : Run m [] m
  | next {m last : Model} {signals : List ModelSignal} (command : ModelCommand) :
      Run (m.perform [] command).model signals last → Run m ((m.perform [] command).signals ++ signals) last

theorem Run.append {m middle last : Model} {first second : List ModelSignal} (h : Run m first middle)
    (k : Run middle second last) : Run m (first ++ second) last := by
  induction h with
  | done => exact k
  | next command _ ih =>
    rw [List.append_assoc]
    exact .next command (ih k)

theorem Run.single (m : Model) (command : ModelCommand) :
    Run m (m.perform [] command).signals (m.perform [] command).model := by
  have run := Run.next command (Run.done (m.perform [] command).model)
  rwa [List.append_nil] at run

end Model

/-- Every setter writes by commands of the model, and reports what they report. -/
def VirtualFields.Composed (fields : VirtualFields) : Prop :=
  ∀ name setter, fields.setter? name = some setter →
    ∀ (m : Model) (value : Json), Model.Run m (setter m value).signals (setter m value).model

theorem VirtualFields.composed_nil : VirtualFields.Composed [] := by
  intro name setter h
  cases h

namespace Model

theorem setFields_nil (m : Model) (values : Entity) :
    (m.setFields [] values).model = (m.setMany values).model ∧
      (m.setFields [] values).signals = (m.setMany values).signals := by
  have virtual : values.filter (fun entry => (VirtualFields.setter? [] entry.1).isSome) = [] :=
    List.filter_eq_nil_iff.2 fun _ _ => by simp [VirtualFields.setter?]
  have stored : values.filter (not ∘ fun entry => (VirtualFields.setter? [] entry.1).isSome) = values :=
    List.filter_eq_self.2 fun _ _ => rfl
  rw [setFields, List.partition_eq_filter_filter, virtual, stored]
  exact ⟨rfl, List.append_nil _⟩

/-- A relation between a model, what is reported, and the model in the end, that can be carried on and that holds of
all commands of some kind. Writes by name are of that kind. -/
structure Traced (kind : ModelCommand → Prop) (R : Model → List ModelSignal → Model → Prop) : Prop where
  done : ∀ m, R m [] m
  append : ∀ {m middle last first second}, R m first middle → R middle second last → R m (first ++ second) last
  command : ∀ m command, kind command → R m (m.perform [] command).signals (m.perform [] command).model
  set : ∀ name value, kind (.set name value)
  setMany : ∀ values, kind (.setMany values)

namespace Traced

variable {kind : ModelCommand → Prop} {R : Model → List ModelSignal → Model → Prop} (traced : Traced kind R)
  {fields : VirtualFields}
  (setters : ∀ name setter, fields.setter? name = some setter →
    ∀ (m : Model) (value : Json), R m (setter m value).signals (setter m value).model)
include traced setters

theorem setThrough (m : Model) (name : String) (value : Json) :
    R m (m.set fields name value).signals (m.set fields name value).model := by
  unfold Model.set
  split
  · next setter found => exact setters name setter found m value
  · exact traced.command m (.set name value) (traced.set name value)

theorem setVirtual (m : Model) (values : List (String × Json)) :
    R m (m.setVirtual fields values).signals (m.setVirtual fields values).model := by
  induction values generalizing m with
  | nil => exact traced.done m
  | cons entry rest ih => exact traced.append (traced.setThrough setters m entry.1 entry.2) (ih _)

/-- Setters that keep to the relation do not take commands out of it. -/
theorem perform (m : Model) {command : ModelCommand} (allowed : kind command) :
    R m (m.perform fields command).signals (m.perform fields command).model := by
  cases command with
  | set name value => exact traced.setThrough setters m name value
  | setMany values =>
    have stored (values : Entity) : R m (m.setMany values).signals (m.setMany values).model := by
      have batch := traced.command m (.setMany values) (traced.setMany values)
      obtain ⟨hm, hs⟩ := setFields_nil m values
      simp only [Model.perform, Written.verdict] at batch
      rwa [hm, hs] at batch
    exact traced.append (stored _) (traced.setVirtual setters _ _)
  | setAt path value => exact traced.command m (.setAt path value) allowed
  | push path value => exact traced.command m (.push path value) allowed
  | splice path index count items => exact traced.command m (.splice path index count items) allowed
  | remove path => exact traced.command m (.remove path) allowed
  | submit => exact traced.command m .submit allowed
  | reset => exact traced.command m .reset allowed
  | resetProperty name => exact traced.command m (.resetProperty name) allowed
  | rebase values => exact traced.command m (.rebase values) allowed

end Traced

theorem run_traced : Traced (fun _ => True) Run where
  done := .done
  append := .append
  command := fun m command _ => .single m command
  set := fun _ _ => trivial
  setMany := fun _ => trivial

theorem perform_run {fields : VirtualFields} (composed : fields.Composed) (m : Model) (command : ModelCommand) :
    Run m (m.perform fields command).signals (m.perform fields command).model :=
  run_traced.perform composed m trivial

end Model

def ModelCommand.isOvert : ModelCommand → Bool
  | .submit | .rebase _ => false
  | _ => true

namespace Model

theorem Preserved.performOvert {P : Model → Prop} (h : Preserved (fun _ => True) P) {m : Model} {command : ModelCommand}
    (overt : command.isOvert = true) (hp : P m) : P (m.perform [] command).model := by
  have all {path : Path} : ∀ name, path.head? = some name → True := fun _ _ => trivial
  cases command with
  | set name value => exact h.setAt value all hp
  | setAt path value => exact h.setAt value all hp
  | setMany values =>
    simp only [Model.perform, Written.verdict, setFields_nil]
    exact h.writeAll false (fun _ _ => trivial) hp
  | push path value => exact h.edit all hp
  | splice path index count items => exact h.edit all hp
  | remove path => exact h.edit all hp
  | reset => exact h.revertFields (fun _ _ => trivial) hp
  | resetProperty name =>
    simp only [Model.perform, Written.silent, resetProperty]
    split
    · exact h.revertFields (fun _ _ => trivial) hp
    · exact hp
  | submit | rebase values => cases overt

/-- What every write and every submission preserves is preserved by all commands. -/
theorem Preserved.perform {P : Model → Prop} (h : Preserved (fun _ => True) P) (submit : ∀ m, P m → P m.submit)
    {m : Model} (command : ModelCommand) (hp : P m) : P (m.perform [] command).model := by
  cases command with
  | submit => exact submit m hp
  | rebase values => exact submit _ (h.writeAll true (fun _ _ => trivial) hp)
  | _ => exact h.performOvert rfl hp

def revertEdit (m : Model) (name : String) : Edit :=
  match KeyMap.get? m.committed name with
  | some value => .set [name] value
  | none => .remove [name]

theorem revertField_keeps (m : Model) (name : String) : m.Keeps (m.revertField name).model := by
  have kept := write_keeps m (m.revertEdit name) true
  exact ⟨kept.uuid, kept.schema, kept.observers, kept.nextObserver⟩

theorem keeps_preserved (m : Model) : Preserved (fun _ => True) m.Keeps where
  write := fun other edit bypass _ h => h.trans (write_keeps other edit bypass)
  revert := fun other name _ h => h.trans (revertField_keeps other name)

theorem edit_keepsIn (m : Model) (e : Edit) : m.KeepsIn (m.edit e).signals :=
  ((write_onlyWarns m e false).keepsIn m).append (keepsIn_announce (write_keeps m e false) _)

theorem setAt_keepsIn (m : Model) (path : Path) (value : Json) : m.KeepsIn (m.setAt path value).signals := by
  unfold setAt
  split
  · exact m.keepsIn_nil
  · split
    split
    · intro event shown hs
      cases List.mem_singleton.1 hs
    · exact edit_keepsIn m _

theorem revert_keepsIn (m : Model) (names : List String) : m.KeepsIn (m.revert names).signals :=
  ((revertFields_onlyWarns m names).keepsIn m).append
    (keepsIn_announce ((keeps_preserved m).revertFields (fun _ _ => trivial) (.refl m)) _)

theorem writeAll_keeps (m : Model) (bypass : Bool) (values : Entity) :
    m.Keeps (m.writeAll bypass values).model :=
  (keeps_preserved m).writeAll bypass (fun _ _ => trivial) (.refl m)

theorem setMany_keepsIn (m : Model) (values : Entity) : m.KeepsIn (m.setMany values).signals :=
  ((writeAll_onlyWarns m false values).keepsIn m).append (keepsIn_announce (writeAll_keeps m false values) _)

theorem rebase_keepsIn (m : Model) (values : Entity) : m.KeepsIn (m.rebase values).signals :=
  ((writeAll_onlyWarns m true values).keepsIn m).append (keepsIn_announce (writeAll_keeps m true values) _)

theorem submit_keeps {old m : Model} (h : old.Keeps m) : old.Keeps m.submit :=
  ⟨h.uuid, h.schema, h.observers, h.nextObserver⟩

theorem perform_keeps (m : Model) (command : ModelCommand) : m.Keeps (m.perform [] command).model :=
  (keeps_preserved m).perform (fun _ => submit_keeps) command (.refl m)

theorem rebase_keeps (m : Model) (values : Entity) : m.Keeps (m.rebase values).model :=
  perform_keeps m (.rebase values)

theorem perform_keepsIn (m : Model) (command : ModelCommand) : m.KeepsIn (m.perform [] command).signals := by
  cases command with
  | set name value => exact setAt_keepsIn m _ value
  | setAt path value => exact setAt_keepsIn m path value
  | setMany values =>
    simp only [perform, Written.verdict, setFields_nil]
    exact setMany_keepsIn m values
  | push path value => exact edit_keepsIn m _
  | splice path index count items => exact edit_keepsIn m _
  | remove path => exact edit_keepsIn m _
  | submit => exact m.keepsIn_nil
  | reset => exact revert_keepsIn m _
  | resetProperty name =>
    simp only [perform, Written.silent, resetProperty]
    split
    · exact revert_keepsIn m _
    · exact m.keepsIn_nil
  | rebase values => exact rebase_keepsIn m values

/-- Runs leave the identity, the schema and the observers of a model alone, and never show others. -/
theorem Run.keeps {m last : Model} {signals : List ModelSignal} (h : Run m signals last) :
    m.Keeps last ∧ m.KeepsIn signals := by
  induction h with
  | done m => exact ⟨.refl m, m.keepsIn_nil⟩
  | @next m last signals command _ ih =>
    have kept := perform_keeps m command
    exact ⟨kept.trans ih.1, (perform_keepsIn m command).append (.of_keeps kept ih.2)⟩

end Model

end RecordSync
