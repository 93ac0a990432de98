import RecordSync.Proofs.Model.Dirty

/-!
# Enforced writes

The writes in which the schema has a say, and what it lets pass. A property of models that survives every applied
change of some kind survives any history of enforced writes that reports no change of another kind. Setters of virtual
fields are taken to write by enforced commands.
-/

set_option autoImplicit false

namespace RecordSync

def ModelCommand.isEnforced : ModelCommand → Bool
  | .set .. | .setAt .. | .setMany .. | .push .. | .splice .. | .remove .. => true
  | .submit | .reset | .resetProperty .. | .rebase .. => false

def ChangeEvent.addsKey (schema : EntityRules) (event : ChangeEvent) : Bool :=
  match event.change with
  | .add name _ => event.path.isEmpty && name == schema.primary
  | _ => false

namespace Change

theorem name?_withNew (change : Change) (new : Json) : (change.withNew new).name? = change.name? := by
  cases change <;> rfl

theorem new?_withNew {change : Change} {old : Json} (h : change.new? = some old) (new : Json) :
    (change.withNew new).new? = some new := by
  cases change with
  | add | update => rfl
  | remove | splice => cases h

end Change

namespace Model

/-- What the schema lets pass: the identity of a new model, and elsewhere than in read-only parts changes without a
value of their own, and values that pass validation, as validation leaves them. -/
inductive Passes (schema : EntityRules) (event : ChangeEvent) : Change → Prop where
  | key (adds : event.addsKey schema = true) : Passes schema event event.change
  | plain (writable : schema.isReadOnly event.fullPath = false) (none : event.change.new? = none) :
      Passes schema event event.change
  | value (writable : schema.isReadOnly event.fullPath = false) {new : Json} (some : event.change.new? = some new)
      (fine : (schema.validate new event.fullPath).2 = []) :
      Passes schema event (event.change.withNew (schema.validate new event.fullPath).1)

theorem Passes.fullPath {schema : EntityRules} {event : ChangeEvent} {change : Change} (h : Passes schema event change) :
    ({ event with change } : ChangeEvent).fullPath = event.fullPath := by
  have same : change.name? = event.change.name? := by
    cases h with
    | key | plain => rfl
    | value => exact event.change.name?_withNew _
  rw [ChangeEvent.fullPath, ChangeEvent.fullPath, same]

theorem passes_of_allow {schema : EntityRules} {event : ChangeEvent} {change : Change}
    (h : allow schema event = .ok change) : Passes schema event change := by
  unfold allow at h
  extract_lets full addsKey at h
  split at h
  · next adds =>
    cases h
    exact .key adds
  · split at h
    · cases h
    · next writable =>
      have writable : schema.isReadOnly event.fullPath = false := by simpa using writable
      split at h
      · next none =>
        cases h
        exact .plain writable none
      · next new some =>
        split at h
        · next after outcome =>
          cases h
          have value : Passes schema event (event.change.withNew (schema.validate new event.fullPath).1) :=
            .value writable some (congrArg Prod.snd outcome)
          rwa [show schema.validate new event.fullPath = (after, []) from outcome] at value
        · cases h

inductive Guarded (m : Model) (edit : Edit) (w : Written Mutation) : Prop where
  | idle (silent : w.result.event? = none) (still : w.model = m)
  | applied {event : ChangeEvent} {change : Change} {root : Json} (proposed : edit.propose m.root = .change event)
      (passes : Passes m.schema event change)
      (applied : ({ event with change } : ChangeEvent).applyTo? m.root = some root)
      (told : w.result.event? = some { event with change }) (moved : w.model.root = root)

theorem write_guarded (m : Model) (edit : Edit) : Guarded m edit (m.write edit false) := by
  simp only [write, Edit.run, Bool.false_eq_true, if_false]
  cases proposed : edit.propose m.root with
  | unchanged => exact .idle rfl rfl
  | unresolved => exact .idle rfl rfl
  | change event =>
    cases allowed : allow m.schema event with
    | error text =>
      simp only [allowed, Except.toOption]
      exact .idle rfl rfl
    | ok change =>
      simp only [allowed, Except.toOption, commitChange]
      cases applied : ({ event with change } : ChangeEvent).applyTo? m.root with
      | none => exact .idle rfl rfl
      | some root => exact .applied proposed (passes_of_allow allowed) applied rfl (track_root _ _)

def Confined (kind : ChangeEvent → Prop) (signals : List ModelSignal) : Prop :=
  ∀ event shown, .changed event shown ∈ signals → kind event

theorem confined_append {kind : ChangeEvent → Prop} {first second : List ModelSignal} :
    Confined kind (first ++ second) ↔ Confined kind first ∧ Confined kind second := by
  simp only [Confined, List.mem_append, or_imp, forall_and]

theorem confined_announce {kind : ChangeEvent → Prop} {m : Model} {events : List ChangeEvent} :
    Confined kind (m.announce events) ↔ ∀ event ∈ events, kind event := by
  constructor
  · intro confined event listed
    exact confined event m (List.mem_map.2 ⟨event, listed, rfl⟩)
  · intro all event shown reported
    obtain ⟨_, listed, same⟩ := List.mem_map.1 reported
    cases same
    exact all event listed

/-- A property of models that lasts while every applied change is of a kind. -/
structure Lasting (kind : ChangeEvent → Prop) (P : Model → Prop) : Prop where
  write : ∀ (m : Model) (edit : Edit), (∀ event, (m.write edit false).result.event? = some event → kind event) →
    P m → P (m.write edit false).model

namespace Lasting

variable {kind : ChangeEvent → Prop} {P : Model → Prop} (lasting : Lasting kind P)
include lasting

theorem edit {m : Model} {e : Edit} (confined : Confined kind (m.edit e).signals) (h : P m) :
    P (m.edit e).model := by
  have told := confined_announce.1 (confined_append.1 confined).2
  refine lasting.write m e (fun event reported => ?_) h
  exact told event (by simp [reported])

theorem setAt {m : Model} {path : Path} {value : Json} (confined : Confined kind (m.setAt path value).signals)
    (h : P m) : P (m.setAt path value).model := by
  unfold Model.setAt at confined ⊢
  split at confined
  · next empty => simpa [empty] using h
  · next nonempty =>
    rw [if_neg nonempty]
    split at confined
    next target folded located =>
    split at confined
    · next shut => simpa [located, shut] using h
    · next writable =>
      rw [if_neg writable]
      exact lasting.edit confined h

theorem writeAll {m : Model} {values : List (String × Json)}
    (all : ∀ event ∈ (m.writeAll false values).result.2, kind event) (h : P m) :
    P (m.writeAll false values).model := by
  induction values generalizing m with
  | nil => exact h
  | cons entry rest ih =>
    have parts := List.forall_mem_append.1 all
    refine ih parts.2 (lasting.write m _ (fun event reported => ?_) h)
    exact parts.1 event (by simp [reported])

theorem setMany {m : Model} {values : Entity} (confined : Confined kind (m.setMany values).signals) (h : P m) :
    P (m.setMany values).model :=
  lasting.writeAll (confined_announce.1 (confined_append.1 confined).2) h

theorem perform {m : Model} {command : ModelCommand} (enforced : command.isEnforced = true)
    (confined : Confined kind (m.perform [] command).signals) (h : P m) : P (m.perform [] command).model := by
  cases command with
  | set name value => exact lasting.setAt confined h
  | setAt path value => exact lasting.setAt confined h
  | setMany values =>
    simp only [Model.perform, Written.verdict, setFields_nil] at confined ⊢
    exact lasting.setMany confined h
  | push path value => exact lasting.edit confined h
  | splice path index count items => exact lasting.edit confined h
  | remove path => exact lasting.edit confined h
  | submit | reset | resetProperty | rebase => cases enforced

end Lasting

def reports (m : Model) (fields : VirtualFields) : List ModelCommand → List ModelSignal
  | [] => []
  | command :: rest => (m.perform fields command).signals ++ (m.perform fields command).model.reports fields rest

theorem Lasting.performAll_stored {kind : ChangeEvent → Prop} {P : Model → Prop} (lasting : Lasting kind P)
    {m : Model} {commands : List ModelCommand} (enforced : ∀ command ∈ commands, command.isEnforced = true)
    (confined : Confined kind (m.reports [] commands)) (h : P m) : P (m.performAll [] commands) := by
  induction commands generalizing m with
  | nil => exact h
  | cons command rest ih =>
    have ⟨first, later⟩ := List.forall_mem_cons.1 enforced
    have ⟨now, after⟩ := confined_append.1 confined
    exact ih later after (lasting.perform first now h)

theorem performAll_append (m : Model) (fields : VirtualFields) (first second : List ModelCommand) :
    m.performAll fields (first ++ second) = (m.performAll fields first).performAll fields second :=
  List.foldl_append

theorem reports_append (m : Model) (fields : VirtualFields) (first second : List ModelCommand) :
    m.reports fields (first ++ second) =
      m.reports fields first ++ (m.performAll fields first).reports fields second := by
  induction first generalizing m with
  | nil => rfl
  | cons command rest ih =>
    simp only [List.cons_append, reports, ih, List.append_assoc]
    rfl

def Enforces (m : Model) (signals : List ModelSignal) (last : Model) : Prop :=
  ∃ commands, (∀ command ∈ commands, command.isEnforced = true) ∧ signals = m.reports [] commands ∧
    last = m.performAll [] commands

theorem Enforces.refl (m : Model) : Enforces m [] m := ⟨[], by simp, rfl, rfl⟩

theorem Enforces.append {m middle last : Model} {first second : List ModelSignal} (h : Enforces m first middle)
    (k : Enforces middle second last) : Enforces m (first ++ second) last := by
  obtain ⟨before, enforced, rfl, rfl⟩ := h
  obtain ⟨after, later, rfl, rfl⟩ := k
  exact ⟨before ++ after, List.forall_mem_append.2 ⟨enforced, later⟩, (reports_append _ _ _ _).symm,
    (performAll_append _ _ _ _).symm⟩

theorem Enforces.single (m : Model) {command : ModelCommand} (enforced : command.isEnforced = true) :
    Enforces m (m.perform [] command).signals (m.perform [] command).model :=
  ⟨[command], by simpa using enforced, (List.append_nil _).symm, rfl⟩

end Model

def VirtualFields.Enforced (fields : VirtualFields) : Prop :=
  ∀ name setter, fields.setter? name = some setter →
    ∀ (m : Model) (value : Json), Model.Enforces m (setter m value).signals (setter m value).model

theorem VirtualFields.enforced_nil : VirtualFields.Enforced [] := by
  intro name setter h
  cases h

namespace Model

theorem enforces_traced : Traced (fun command => command.isEnforced = true) Enforces where
  done := .refl
  append := .append
  command := fun m _ enforced => .single m enforced
  set := fun _ _ => rfl
  setMany := fun _ => rfl

section Setters

variable {fields : VirtualFields} (guarded : fields.Enforced)
include guarded

theorem performAll_enforces (m : Model) {commands : List ModelCommand}
    (enforced : ∀ command ∈ commands, command.isEnforced = true) :
    Enforces m (m.reports fields commands) (m.performAll fields commands) := by
  induction commands generalizing m with
  | nil => exact .refl m
  | cons command rest ih =>
    obtain ⟨first, later⟩ := List.forall_mem_cons.1 enforced
    exact (enforces_traced.perform guarded m first).append (ih _ later)

/-- What lasts while every applied change is of a kind lasts through every history of enforced commands that reports
no other. -/
theorem Lasting.performAll {kind : ChangeEvent → Prop} {P : Model → Prop} (lasting : Lasting kind P) {m : Model}
    {commands : List ModelCommand} (enforced : ∀ command ∈ commands, command.isEnforced = true)
    (confined : Confined kind (m.reports fields commands)) (h : P m) : P (m.performAll fields commands) := by
  obtain ⟨plain, all, same, last⟩ := performAll_enforces guarded m enforced
  rw [last]
  exact lasting.performAll_stored all (same ▸ confined) h

end Setters

end Model

end RecordSync
