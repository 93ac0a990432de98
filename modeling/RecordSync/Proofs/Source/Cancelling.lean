import RecordSync.Proofs.Model.Reset
import RecordSync.Proofs.Source.Accepted

/-!
# Changes undone one by one

To undo the change of one model leaves all other models alone. What is undone goes by whether the model is new and
whether it is dirty, and not by the set of changes it is in. So the change is undone where the two agree, and only there:
a model that brought its own key when it was added stays added.
-/

set_option autoImplicit false

namespace RecordSync.Source

variable {s t u : Source} {id other : ModelId}

/-- A model, its membership and what is pending of it are as before. -/
structure Aside (id : ModelId) (s t : Source) : Prop extends Unmoved id s t where
  added : id ∈ t.changes.added ↔ id ∈ s.changes.added
  updated : id ∈ t.changes.updated ↔ id ∈ s.changes.updated
  removed : id ∈ t.changes.removed ↔ id ∈ s.changes.removed

theorem Aside.refl (id : ModelId) (s : Source) : Aside id s s := ⟨⟨.rfl, rfl⟩, .rfl, .rfl, .rfl⟩

theorem Aside.trans (h : Aside id s t) (k : Aside id t u) : Aside id s u where
  toUnmoved := h.toUnmoved.trans k.toUnmoved
  added := k.added.trans h.added
  updated := k.updated.trans h.updated
  removed := k.removed.trans h.removed

theorem exchange_one {index : Nat} (inside : index < s.data.length) :
    (s.exchange index 1 []).2 = ({ s with data := s.data.eraseIdx index } : Source).leave s.data[index] index := by
  have cut : (s.data.drop index).take 1 = [s.data[index]] := by
    rw [List.drop_eq_getElem_cons inside]
    rfl
  simp [exchange, Nat.min_eq_left (Nat.le_of_lt inside), cut, leaveAll, enterAll, List.eraseIdx_eq_take_drop_succ]

/-- To remove a model takes its first place in the list away, and the model leaves. -/
theorem remove_cases (s : Source) (id : ModelId) :
    (id ∉ s.data ∧ (s.remove id).2 = s) ∨
      (id ∈ s.data ∧ ∃ index, (s.remove id).2 = ({ s with data := s.data.erase id } : Source).leave id index) := by
  have place : s.data.findIdx? (· == id) = s.data.idxOf? id := rfl
  unfold remove removeFirst
  rw [place]
  cases found : s.data.idxOf? id with
  | none => exact .inl ⟨List.idxOf?_eq_none_iff.1 found, rfl⟩
  | some index =>
    obtain ⟨inside, here, -⟩ := List.findIdx?_eq_some_iff_getElem.1 (place.trans found)
    have here : s.data[index] = id := eq_of_beq here
    have erased : s.data.erase id = s.data.eraseIdx index := by rw [List.erase_eq_eraseIdx, found]
    refine .inr ⟨here ▸ List.getElem_mem inside, index, ?_⟩
    rw [exchange_one inside, here, erased]

theorem aside_remove (ne : id ≠ other) (s : Source) : Aside id s (s.remove other).2 := by
  have unmoved := unmoved_remove ne s
  rcases remove_cases s other with ⟨-, same⟩ | ⟨-, index, left⟩
  · rw [same]
    exact .refl id s
  · rw [left] at unmoved ⊢
    refine ⟨unmoved, ?_, ?_, ?_⟩
    · rw [added_leave, List.mem_erase_of_ne ne]
    · rw [updated_leave, List.mem_erase_of_ne ne]
    · rw [mem_removed_leave]
      simp [ne]

theorem aside_resetModel (ne : id ≠ other) (s : Source) : Aside id s (s.resetModel other) := by
  have unmoved := unmoved_resetModel ne s
  unfold resetModel at unmoved ⊢
  cases written : s.write other (fun tracked => tracked.model.reset) with
  | none => exact .refl id s
  | some after =>
    obtain ⟨w, t⟩ := after
    rw [written] at unmoved
    obtain ⟨tracked, -, outcome⟩ := write_outcome (reset_run s other) written
    have rest := (writtenAt_write written).rest
    refine ⟨unmoved, ?_, (List.mem_erase_of_ne ne).trans (outcome.updated id ne), ?_⟩ <;> rw [rest]

theorem aside_restore (ne : id ≠ other) (s : Source) : Aside id s (s.restore other) := by
  have unmoved := unmoved_restore ne s
  rcases restore_cases s other with ⟨-, same⟩ | ⟨-, index, -, result⟩
  · rw [same]
    exact .refl id s
  · refine ⟨unmoved, ?_, ?_, ?_⟩ <;> rw [result, (attach_reobserved _ other).changes]
    exact List.mem_erase_of_ne ne

/-- To undo the change of one model leaves all others alone, and what is pending of them. -/
theorem aside_cancel (ne : id ≠ other) (s : Source) : Aside id s (s.cancel other) := by
  unfold cancel
  split
  · exact aside_remove ne s
  · refine Aside.trans ?_ (aside_restore ne _)
    split
    · exact aside_resetModel ne s
    · exact .refl id s

/-- A model that is reset is no longer updated; nothing else that is pending changes. -/
theorem resetModel_outcome (coherent : s.Coherent) {m : Model} (found : s.model? id = some m) :
    ∃ updated models scheduled, id ∉ updated ∧
      s.resetModel id = { s with changes := { s.changes with updated }, models, scheduled } ∧
      (s.resetModel id).model? id = some m.reset.model := by
  unfold resetModel
  split
  · next unknown =>
    rw [Source.write, Option.map_eq_none_iff] at unknown
    rw [model?, unknown] at found
    cases found
  · next w t written =>
    have run := reset_run s id
    obtain ⟨tracked, rfl, outcome⟩ := write_outcome run written
    have same : tracked.model = m := Option.some.inj (outcome.model?.symm.trans found)
    have after : t.Coherent := (Coherent.preserved id).write run written coherent
    refine ⟨t.changes.updated.erase id, t.models, t.scheduled, fun listed => ?_, ?_, same ▸ outcome.placed⟩
    · exact (after.updated.mem_erase_iff.1 listed).1 rfl
    · rw [outcome.rest]

def Reverted (id : ModelId) (s t : Source) : Prop :=
  ∃ old new, s.model? id = some old ∧ t.model? id = some new ∧ new.committed = old.committed ∧
    ∀ name, (new.field? name == KeyMap.get? old.committed name) = true

structure Cancelled (id : ModelId) (s t : Source) : Prop where
  settled : ¬t.Unsettled id
  outside : id ∈ s.changes.added → id ∉ t.data
  member : id ∈ s.changes.updated ∨ id ∈ s.changes.removed → id ∈ t.data
  reverted : id ∈ s.changes.updated ∨ id ∈ s.changes.removed → Reverted id s t

/-- A model that is reset if it is dirty has its committed values. -/
theorem reset_if_dirty {m : Model} (accounted : m.Accounted) :
    (if m.isDirty then m.reset.model else m).committed = m.committed ∧
      ∀ name, ((if m.isDirty then m.reset.model else m).field? name == KeyMap.get? m.committed name) = true := by
  split
  · have committed := Model.revertFields_committed m m.dirty
    have after : m.reset.model.Accounted := Model.accounted_preserved.revertFields (fun _ _ => trivial) accounted
    refine ⟨committed, fun name => ?_⟩
    have equal := Model.beq_committed after (by simp [Model.reset_dirty accounted] : name ∉ m.reset.model.dirty)
    rwa [show m.reset.model.committed = m.committed from committed] at equal
  · next clean =>
    have none : m.dirty = [] := by simpa [Model.isDirty] using clean
    exact ⟨rfl, fun name => Model.beq_committed accounted (by simp [none])⟩

theorem reverted_of_reset {m : Model} (accounted : m.Accounted) (found : s.model? id = some m)
    (placed : u.model? id = some (if m.isDirty then m.reset.model else m)) (same : u.SameModels t) :
    Reverted id s t := by
  obtain ⟨committed, fields⟩ := reset_if_dirty accounted
  obtain ⟨new, shown, observed⟩ := same.symm.model? placed
  have root := congrArg Model.root observed
  have copy := congrArg Model.committed observed
  refine ⟨m, new, found, shown, copy.trans committed, fun name => ?_⟩
  rw [Model.field?, show new.root = _ from root]
  exact fields name

/-- A model that is not new is reset if it is dirty, and put back if it was removed. -/
theorem cancel_keyed (coherent : s.Coherent) {m : Model} (found : s.model? id = some m) (keyed : m.isNew = false) :
    ∃ u : Source, s.cancel id = u.restore id ∧ u.data = s.data ∧ u.changes.added = s.changes.added ∧
      u.changes.removed = s.changes.removed ∧ u.model? id = some (if m.isDirty then m.reset.model else m) ∧
      (id ∈ u.changes.updated ↔ id ∈ s.changes.updated ∧ m.isDirty = false) := by
  unfold cancel
  rw [holds_of_model? found, holds_of_model? found, keyed]
  cases dirty : m.isDirty with
  | false => exact ⟨s, rfl, rfl, rfl, rfl, found, by simp⟩
  | true =>
    obtain ⟨updated, models, scheduled, unlisted, result, placed⟩ := resetModel_outcome coherent found
    refine ⟨s.resetModel id, rfl, ?_, ?_, ?_, placed, ?_⟩ <;> rw [result]
    simpa using unlisted

theorem cancel_new {m : Model} (found : s.model? id = some m) (new : m.isNew = true) :
    s.cancel id = (s.remove id).2 := by
  rw [cancel, holds_of_model? found, new]
  rfl

theorem cancelled_added (coherent : s.Coherent) {m : Model} (found : s.model? id = some m)
    (added : id ∈ s.changes.added) : Cancelled id s (s.cancel id) ↔ m.isNew = true := by
  have member := coherent.added_members id added
  have kept : id ∉ s.changes.removed := fun removed => coherent.removed_outside id removed member
  have notUpdated := coherent.exclusive id added
  cases kind : m.isNew with
  | true =>
    refine iff_of_true ?_ rfl
    rw [cancel_new found kind]
    obtain ⟨outside, -⟩ | ⟨-, index, left⟩ := remove_cases s id
    · exact absurd member outside
    · rw [left]
      refine ⟨?_, fun _ => ?_, fun late => ?_, fun late => ?_⟩
      · rintro (listed | listed | listed)
        · rw [added_leave] at listed
          exact (coherent.added.mem_erase_iff.1 listed).1 rfl
        · rw [updated_leave] at listed
          exact notUpdated (List.mem_of_mem_erase listed)
        · rw [mem_removed_leave] at listed
          exact listed.elim kept fun late => late.2.1 added
      · rw [(leave_frame _ id index).2]
        exact fun listed => (coherent.nodup.mem_erase_iff.1 listed).1 rfl
      · exact absurd late (not_or.2 ⟨notUpdated, kept⟩)
      · exact absurd late (not_or.2 ⟨notUpdated, kept⟩)
  | false =>
    refine iff_of_false (fun cancelled => cancelled.settled (.inl ?_)) (by simp)
    obtain ⟨u, result, -, same, removed, -⟩ := cancel_keyed coherent found kind
    rw [result]
    obtain ⟨-, still⟩ | ⟨pending, -⟩ := restore_cases u id
    · rw [still, same]
      exact added
    · exact absurd (removed ▸ pending) kept

theorem cancelled_updated (coherent : s.Coherent) (sound : s.Sound) {m : Model} (found : s.model? id = some m)
    (updated : id ∈ s.changes.updated) : Cancelled id s (s.cancel id) ↔ m.isNew = false ∧ m.isDirty = true := by
  have member := coherent.updated_members id updated
  have kept : id ∉ s.changes.removed := fun removed => coherent.removed_outside id removed member
  have notAdded : id ∉ s.changes.added := fun added => coherent.exclusive id added updated
  cases kind : m.isNew with
  | true =>
    refine iff_of_false (fun cancelled => ?_) (by simp)
    have back := cancelled.member (.inl updated)
    rw [cancel_new found kind] at back
    obtain ⟨outside, -⟩ | ⟨-, index, left⟩ := remove_cases s id
    · exact outside member
    · rw [left, (leave_frame _ id index).2] at back
      exact (coherent.nodup.mem_erase_iff.1 back).1 rfl
  | false =>
    obtain ⟨u, result, data, added, removed, placed, listed⟩ := cancel_keyed coherent found kind
    have still : s.cancel id = u := by
      obtain ⟨-, same⟩ | ⟨pending, -⟩ := restore_cases u id
      · exact result.trans same
      · exact absurd (removed ▸ pending) kept
    rw [still]
    cases dirty : m.isDirty with
    | true =>
      refine iff_of_true ⟨?_, fun added => absurd added notAdded, fun _ => data ▸ member, fun _ => ?_⟩ (by simp)
      · rintro (here | here | here)
        · exact notAdded (added ▸ here)
        · simp [listed, dirty] at here
        · exact kept (removed ▸ here)
      · exact reverted_of_reset (sound.accounted id m found) found placed rfl
    | false =>
      refine iff_of_false (fun cancelled => cancelled.settled (.inr (.inl ?_))) (by simp)
      exact listed.2 ⟨updated, dirty⟩

theorem cancelled_removed (coherent : s.Coherent) (sound : s.Sound) {m : Model} (found : s.model? id = some m)
    (removed : id ∈ s.changes.removed) : Cancelled id s (s.cancel id) ↔ m.isNew = false := by
  have outside := coherent.removed_outside id removed
  have notAdded : id ∉ s.changes.added := fun added => outside (coherent.added_members id added)
  have notUpdated : id ∉ s.changes.updated := fun updated => outside (coherent.updated_members id updated)
  cases kind : m.isNew with
  | true =>
    refine iff_of_false (fun cancelled => cancelled.settled (.inr (.inr ?_))) (by simp)
    rw [cancel_new found kind]
    obtain ⟨-, same⟩ | ⟨member, -⟩ := remove_cases s id
    · rw [same]
      exact removed
    · exact absurd member outside
  | false =>
    refine iff_of_true ?_ rfl
    obtain ⟨u, result, data, added, kept, placed, listed⟩ := cancel_keyed coherent found kind
    have same := (restore_frame u id).models
    rw [result]
    obtain ⟨gone, -⟩ | ⟨-, index, place, back⟩ := restore_cases u id
    · exact absurd (kept ▸ removed) gone
    · have changes : (u.restore id).changes = { u.changes with removed := u.changes.removed.erase id } := by
        rw [back]
        exact (attach_reobserved _ id).changes
      refine ⟨?_, fun added => absurd added notAdded, fun _ => ?_, fun _ => ?_⟩
      · rw [Unsettled, changes]
        rintro (here | here | here)
        · exact notAdded (added ▸ here)
        · exact notUpdated (listed.1 here).1
        · rw [show u.changes.removed = _ from kept] at here
          exact (coherent.removed.mem_erase_iff.1 here).1 rfl
      · rw [back]
        exact (List.mem_insertIdx place).2 (.inl rfl)
      · exact reverted_of_reset (sound.accounted id m found) found placed same

/-- Whether a model is new and whether it is dirty agree with the set of changes it is in. -/
structure InTune (s : Source) (id : ModelId) (m : Model) : Prop where
  added : id ∈ s.changes.added → m.isNew = true
  updated : id ∈ s.changes.updated → m.isNew = false ∧ m.isDirty = true
  removed : id ∈ s.changes.removed → m.isNew = false

/-- To undo the change of one model leaves every other model alone, with what is pending of it. A pending change is undone
exactly if the model is as the set of changes says: new if it was added, dirty and with a key if it was updated, and with
a key if it was removed. -/
theorem cancel_undoes_iff (s : Source) (id : ModelId) :
    (∀ other, other ≠ id → Aside other s (s.cancel id)) ∧
      (s.Regular → ∀ m, s.model? id = some m → s.Unsettled id → (Cancelled id s (s.cancel id) ↔ InTune s id m)) := by
  refine ⟨fun other ne => aside_cancel ne s, fun regular m found pending => ?_⟩
  have coherent := regular.coherent
  have sound := regular.sound
  have apart : id ∈ s.changes.removed → id ∉ s.changes.added ∧ id ∉ s.changes.updated := fun removed =>
    ⟨fun added => coherent.removed_outside id removed (coherent.added_members id added),
      fun updated => coherent.removed_outside id removed (coherent.updated_members id updated)⟩
  rcases pending with added | updated | removed
  · rw [cancelled_added coherent found added]
    refine ⟨fun new => ⟨fun _ => new, fun updated => ?_, fun removed => ?_⟩, fun tuned => tuned.added added⟩
    · exact absurd updated (coherent.exclusive id added)
    · exact absurd added (apart removed).1
  · rw [cancelled_updated coherent sound found updated]
    refine ⟨fun edited => ⟨fun added => ?_, fun _ => edited, fun removed => ?_⟩, fun tuned => tuned.updated updated⟩
    · exact absurd updated (coherent.exclusive id added)
    · exact absurd updated (apart removed).2
  · rw [cancelled_removed coherent sound found removed]
    refine ⟨fun keyed => ⟨fun added => ?_, fun updated => ?_, fun _ => keyed⟩, fun tuned => tuned.removed removed⟩
    · exact absurd added (apart removed).1
    · exact absurd updated (apart removed).2

theorem regular_of_worked? {rows : List Entity} {commands : List SourceCommand}
    (ordered : ∀ row ∈ rows, KeyMap.Ordered row) (alone : ∀ command ∈ commands, command.items = [])
    (found : worked? rows commands = some s) : s.Regular := by
  refine worked?_history ordered (fun _ _ _ => trivial) (fun command listed _ _ _ => ?_) alone found
  constructor <;> simp [alone command listed]

/-- The name of the row is edited, and the edit is taken back. -/
theorem cancel_undoes_iff_row : ∃ (s : Source) (m : Model), s.Regular ∧ s.model? 0 = some m ∧ s.changes.updated = [0] ∧
    InTune s 0 m ∧ Cancelled 0 s (s.cancel 0) := by
  have shown : (worked? [namedRow 1] [.edit 0 (.set "name" (.str "b"))]).map (fun s =>
      (s.changes.added, s.changes.updated, s.changes.removed, s.holds (fun m => !m.isNew && m.isDirty) 0)) =
        some ([], [0], [], true) := by decide +kernel
  obtain ⟨s, found, facts⟩ := Option.map_eq_some_iff.1 shown
  simp only [Prod.mk.injEq] at facts
  obtain ⟨added, updated, removed, edited⟩ := facts
  have regular : s.Regular :=
    regular_of_worked? (by simp [namedRow_ordered]) (by simp [SourceCommand.items]) found
  obtain ⟨m, known, kind⟩ := exists_of_holds edited
  have tuned : InTune s 0 m := ⟨by simp [added], fun _ => by simpa using kind, by simp [removed]⟩
  have pending : s.Unsettled 0 := .inr (.inl (by simp [updated]))
  exact ⟨s, m, regular, known, updated, tuned, ((cancel_undoes_iff s 0).2 regular m known pending).2 tuned⟩

/-- Four changes that are not undone: a model that was added with a key stays added, one that lost its key after it was
removed stays removed, a member that lost its key leaves the list, and one that is clean stays updated. -/
theorem not_cancelled :
    (∃ s : Source, s.Regular ∧ s.changes.added = [0] ∧ (s.cancel 0).changes.added = [0] ∧ (s.cancel 0).data = [0]) ∧
      (∃ s : Source, s.Regular ∧ s.changes.removed = [0] ∧ (s.cancel 0).changes.removed = [0] ∧
        (s.cancel 0).data = []) ∧
      (∃ s : Source, s.Regular ∧ s.changes.updated = [0] ∧ (s.cancel 0).data = []) ∧
      ∃ s : Source, s.Regular ∧ s.changes.updated = [0] ∧ (s.cancel 0).changes.updated = [0] := by
  have run {commands : List SourceCommand} {s : Source} (alone : ∀ command ∈ commands, command.items = [])
      (found : worked? [namedRow 1] commands = some s) : s.Regular :=
    regular_of_worked? (by simp [namedRow_ordered]) alone found
  refine ⟨?_, ?_, ?_, ?_⟩
  · have shown : ((empty .standard [] false .disabled).perform (.add (.entity (namedRow 7)))).toOption.map
        (fun added => (added.2.changes.added, (added.2.cancel 0).changes.added, (added.2.cancel 0).data)) =
          some ([0], [0], [0]) := by decide +kernel
    obtain ⟨⟨reply, s⟩, done, facts⟩ := Option.map_eq_some_iff.1 shown
    simp only [Prod.mk.injEq] at facts
    have start : History Separate [] _ := .start .standard VirtualFields.composed_nil false .disabled
    have step := Step.perform (by simp [SourceCommand.items]) (by simp [SourceCommand.items, namedRow_ordered])
      (ok_of_toOption done)
    exact ⟨s, ⟨_, start.next (by constructor <;> simp [SourceCommand.items]) step⟩, facts⟩
  · have shown : (worked? [namedRow 1] [.removeAt 0, .edit 0 (.set "id" (.num (.int 0)))]).map
        (fun s => (s.changes.removed, (s.cancel 0).changes.removed, (s.cancel 0).data)) = some ([0], [0], []) := by
      decide +kernel
    obtain ⟨s, found, facts⟩ := Option.map_eq_some_iff.1 shown
    simp only [Prod.mk.injEq] at facts
    exact ⟨s, run (by simp [SourceCommand.items]) found, facts⟩
  · have shown : (worked? [namedRow 1] [.edit 0 (.set "name" (.str "b")), .edit 0 (.set "id" (.num (.int 0)))]).map
        (fun s => (s.changes.updated, (s.cancel 0).data)) = some ([0], []) := by decide +kernel
    obtain ⟨s, found, facts⟩ := Option.map_eq_some_iff.1 shown
    simp only [Prod.mk.injEq] at facts
    exact ⟨s, run (by simp [SourceCommand.items]) found, facts⟩
  · have shown : (worked? [namedRow 1] [.edit 0 (.set "name" (.str "b")), .edit 0 .submit]).map
        (fun s => (s.changes.updated, (s.cancel 0).changes.updated)) = some ([0], [0]) := by decide +kernel
    obtain ⟨s, found, facts⟩ := Option.map_eq_some_iff.1 shown
    simp only [Prod.mk.injEq] at facts
    exact ⟨s, run (by simp [SourceCommand.items]) found, facts⟩

end RecordSync.Source
