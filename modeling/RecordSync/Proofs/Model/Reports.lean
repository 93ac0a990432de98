import RecordSync.Proofs.Model.Sparing

/-!
# What is reported of a model

Whoever follows a model sees it as it is reported. After overt commands that is how it is. Commands that exchange the
committed copy go unreported, or are reported before they do so; but they leave the model clean. So a dirty model is
always as it was reported last.
-/

set_option autoImplicit false

namespace RecordSync

namespace Model

def lastShown (m : Model) : List ModelSignal → Model
  | [] => m
  | .warning _ :: rest => m.lastShown rest
  | .changed _ shown :: rest => shown.lastShown rest

theorem lastShown_append (m : Model) (first second : List ModelSignal) :
    m.lastShown (first ++ second) = (m.lastShown first).lastShown second := by
  induction first generalizing m with
  | nil => rfl
  | cons signal rest ih => cases signal <;> exact ih _

/-- Something is reported, so that it does not matter where the signals start from, or nothing is. -/
theorem lastShown_cases (signals : List ModelSignal) :
    (∀ m other : Model, m.lastShown signals = other.lastShown signals) ∨ ∀ m : Model, m.lastShown signals = m := by
  induction signals with
  | nil => exact .inr fun _ => rfl
  | cons signal rest ih =>
    cases signal with
    | warning text => exact ih
    | changed event shown => exact .inl fun _ _ => rfl

theorem KeepsIn.lastShown {m : Model} {signals : List ModelSignal} (h : m.KeepsIn signals) :
    m.Keeps (m.lastShown signals) := by
  induction signals generalizing m with
  | nil => exact .refl m
  | cons signal rest ih =>
    cases signal with
    | warning text => exact ih fun event shown listed => h event shown (.tail _ listed)
    | changed event shown =>
      obtain ⟨first, later⟩ := h.tail
      exact first.trans (ih later)

theorem lastShown_of_shown {m new : Model} {signals : List ModelSignal}
    (shown : ∀ event other, ModelSignal.changed event other ∈ signals → other = new)
    (told : new = m ∨ ∃ event, ModelSignal.changed event new ∈ signals) : m.lastShown signals = new := by
  induction signals generalizing m with
  | nil =>
    rcases told with rfl | ⟨event, listed⟩
    · rfl
    · cases listed
  | cons signal rest ih =>
    have later : ∀ event other, ModelSignal.changed event other ∈ rest → other = new :=
      fun event other listed => shown event other (.tail _ listed)
    cases signal with
    | warning text =>
      refine ih later (told.imp_right fun ⟨event, listed⟩ => ⟨event, ?_⟩)
      exact (List.mem_cons.1 listed).resolve_left (by simp)
    | changed event other => exact ih later (.inl (shown event other (.head _)).symm)

theorem Announces.lastShown {α : Type} {m : Model} {w : Written α} (h : m.Announces w) :
    m.lastShown w.signals = w.model :=
  lastShown_of_shown h.shown h.told

theorem perform_lastShown {m : Model} (h : m.Accounted) (command : ModelCommand) :
    (m.perform [] command).model.isDirty = false ∨
      m.lastShown (m.perform [] command).signals = (m.perform [] command).model := by
  cases command with
  | submit | rebase values => exact .inl rfl
  | _ => exact .inr (perform_announces h rfl).lastShown

theorem Run.lastShown {m last : Model} {signals : List ModelSignal} (run : Run m signals last) (h : m.Accounted) :
    last.isDirty = false ∨ m.lastShown signals = last := by
  induction run with
  | done m => exact .inr rfl
  | @next m last signals command _ ih =>
    rw [lastShown_append]
    rcases ih (perform_accounted h command) with clean | same
    · exact .inl clean
    · rcases lastShown_cases signals with told | untold
      · exact .inr ((told _ _).trans same)
      · -- Nothing was reported later, so the model is still as the first command left it.
        rw [untold] at same ⊢
        rw [← same]
        exact perform_lastShown h command

inductive OvertRun : Model → List ModelSignal → Model → Prop where
  | done (m : Model) : OvertRun m [] m
  | next {m last : Model} {signals : List ModelSignal} {command : ModelCommand} (overt : command.isOvert = true) :
      OvertRun (m.perform [] command).model signals last → OvertRun m ((m.perform [] command).signals ++ signals) last

namespace OvertRun

variable {m middle last : Model} {first second signals : List ModelSignal}

theorem run (h : OvertRun m signals last) : Run m signals last := by
  induction h with
  | done m => exact .done m
  | next _ _ ih => exact .next _ ih

theorem append (h : OvertRun m first middle) (k : OvertRun middle second last) : OvertRun m (first ++ second) last := by
  induction h with
  | done => exact k
  | next overt _ ih =>
    rw [List.append_assoc]
    exact .next overt (ih k)

theorem single (m : Model) {command : ModelCommand} (overt : command.isOvert = true) :
    OvertRun m (m.perform [] command).signals (m.perform [] command).model := by
  have run := OvertRun.next overt (.done (m.perform [] command).model)
  rwa [List.append_nil] at run

theorem traced : Traced (·.isOvert = true) OvertRun where
  done := .done
  append := .append
  command := fun m _ overt => .single m overt
  set := fun _ _ => rfl
  setMany := fun _ => rfl

theorem lastShown (h : OvertRun m signals last) (accounted : m.Accounted) : m.lastShown signals = last := by
  induction h with
  | done m => rfl
  | next overt _ ih =>
    rw [lastShown_append, (perform_announces accounted overt).lastShown]
    exact ih (perform_accounted accounted _)

theorem committed (h : OvertRun m signals last) : last.committed = m.committed := by
  have kept (m : Model) : Preserved (fun _ => True) fun other => other.committed = m.committed := by
    refine ⟨fun other edit bypass _ same => ?_, fun other name _ same => ?_⟩
    · exact (write_committed other edit bypass).trans same
    · exact (write_committed other (other.revertEdit name) true).trans same
  induction h with
  | done m => rfl
  | @next m last signals command overt _ ih => exact ih.trans ((kept m).performOvert overt rfl)

end OvertRun

end Model

def VirtualFields.Overt (fields : VirtualFields) : Prop :=
  ∀ name setter, fields.setter? name = some setter →
    ∀ (m : Model) (value : Json), Model.OvertRun m (setter m value).signals (setter m value).model

theorem VirtualFields.overt_nil : VirtualFields.Overt [] := by
  intro name setter h
  cases h

theorem Model.perform_overtRun {fields : VirtualFields} (setters : fields.Overt) (m : Model) {command : ModelCommand}
    (overt : command.isOvert = true) :
    OvertRun m (m.perform fields command).signals (m.perform fields command).model :=
  OvertRun.traced.perform setters m overt

end RecordSync
