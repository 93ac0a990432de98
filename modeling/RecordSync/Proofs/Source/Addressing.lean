import RecordSync.Proofs.Source.History

/-!
# Addressing pending changes

A model is updated or removed at the provider by its key. A source goes by whether a model has a key at all: what it
takes for a key need not be one that a provider can be given. A change of a model with such a key cannot be sent, and
blocks all changes behind it.
-/

set_option autoImplicit false

namespace RecordSync

/-- Values that count as keys and are none. -/
def Json.Unaddressable : Json → Prop
  | .bool b => b = true
  | .num (.double x) => (Double.finite x).toInt? = none
  | .arr _ | .obj _ => True
  | _ => False

theorem PrimaryKey.ofValue?_eq_none_iff {key : Json} (counts : Json.truthy (some key) = true) :
    PrimaryKey.ofValue? key = none ↔ key.Unaddressable := by
  cases key with
  | null => cases counts
  | bool b =>
    have set : b = true := counts
    simp [PrimaryKey.ofValue?, Json.Unaddressable, set]
  | num n => cases n <;> simp [PrimaryKey.ofValue?, Json.Unaddressable]
  | str text => simp [PrimaryKey.ofValue?, Json.Unaddressable]
  | arr items => simp [PrimaryKey.ofValue?, Json.Unaddressable]
  | obj fields => simp [PrimaryKey.ofValue?, Json.Unaddressable]

theorem Model.key_of_not_isNew {m : Model} (keyed : m.isNew = false) :
    ∃ key, m.key? = some key ∧ Json.truthy (some key) = true := by
  rw [Model.isNew, Bool.not_eq_false'] at keyed
  cases found : m.key? with
  | none => rw [found] at keyed; cases keyed
  | some key => exact ⟨key, rfl, found ▸ keyed⟩

namespace Source

variable {s t : Source}

def Addressed (s : Source) : Prop :=
  ∀ id, id ∈ s.changes.updated ∨ id ∈ s.changes.removed → s.holds Model.isNew id = false

namespace Addressed

variable {id : ModelId}

theorem of_none (updated : s.changes.updated = []) (removed : s.changes.removed = []) : s.Addressed := by
  intro id listed
  rw [updated, removed] at listed
  exact (List.not_mem_nil (listed.elim (fun h => h) fun h => h)).elim

theorem sublist (h : s.Addressed)
    (models : ∀ id, id ∈ s.changes.updated ∨ id ∈ s.changes.removed → t.model? id = s.model? id)
    (sub : ∀ id, id ∈ t.changes.updated ∨ id ∈ t.changes.removed → id ∈ s.changes.updated ∨ id ∈ s.changes.removed) :
    t.Addressed := by
  intro id listed
  have before := sub id listed
  rw [holds_congr (models id before)]
  exact h id before

theorem leave (h : s.Addressed) (id : ModelId) (index : Nat) : (s.leave id index).Addressed := by
  intro other listed
  rw [(leave_frame s id index).1.models.isNew]
  rw [updated_leave, mem_removed_leave] at listed
  rcases listed with updated | removed | ⟨rfl, -, keyed⟩
  · exact h other (.inl (List.mem_of_mem_erase updated))
  · exact h other (.inr removed)
  · exact keyed

theorem enter (h : s.Addressed) (id : ModelId) : (s.enter id).2.Addressed := by
  intro other listed
  rw [(enter_frame s id).1.models.isNew]
  rw [mem_updated_enter, removed_enter] at listed
  rcases listed with (updated | ⟨rfl, -, -, keyed⟩) | removed
  · exact h other (.inl updated)
  · exact keyed
  · exact h other (.inr (List.mem_of_mem_erase removed))

theorem exchange (h : s.Addressed) (index count : Nat) (ids : List ModelId) :
    (s.exchange index count ids).2.Addressed :=
  exchange_preserves (fun _ _ _ h => h) (fun _ id index h => h.leave id index) (fun _ id h => h.enter id) index count
    ids h

theorem enrolled (h : s.Addressed) (orderly : s.Orderly) {items : List Item} {ids : List ModelId}
    (e : s.Enrolled items ids t) : t.Addressed := by
  refine h.sublist (fun id listed => e.model? (orderly.known id (.inr listed))) ?_
  rw [e.rest]
  exact fun _ listed => listed

theorem replace (s : Source) (ids : List ModelId) : (s.replace ids).Addressed := by
  obtain ⟨-, -, changes, -⟩ := replace_frame s ids
  exact of_none (by rw [changes]) (by rw [changes])

theorem others {tracked : Tracked} {last : Model} (h : s.Addressed) (outcome : Outcome s id tracked last t)
    (other : ModelId) (listed : other ∈ t.changes.updated ∨ other ∈ t.changes.removed) (ne : other ≠ id) :
    t.holds Model.isNew other = false := by
  have removed : t.changes.removed = s.changes.removed := by rw [outcome.rest]
  rw [holds_congr (outcome.others other ne)]
  rw [outcome.updated other ne, removed] at listed
  exact h other listed

theorem edit (h : s.Addressed) {change : ModelCommand} {w : Written (Option Bool)}
    (run : ∀ tracked, s.models[id]? = some tracked → Model.Run tracked.model
      (tracked.model.perform tracked.fields change).signals (tracked.model.perform tracked.fields change).model)
    (keeps : s.KeepsKey id change)
    (written : s.write id (fun tracked => tracked.model.perform tracked.fields change) = some (w, t)) :
    t.Addressed := by
  obtain ⟨tracked, rfl, outcome⟩ := write_outcome run written
  intro other listed
  by_cases here : other = id
  · subst here
    rw [holds_of_model? outcome.placed]
    refine Decidable.byContradiction fun new => ?_
    -- A model that loses its key was not pending, and nothing has been noted of it.
    obtain ⟨⟨notUpdated, notRemoved⟩, all⟩ := keeps tracked outcome.found (by simpa using new)
    obtain ⟨same, found, ran, result⟩ := write_eq written
    have changes : t.changes = s.changes := by
      rw [result]
      exact foldl_follow_of_new outcome.model? all
    rw [changes] at listed
    exact listed.elim notUpdated notRemoved
  · exact h.others outcome other listed here

/-- What is pending when a model has been put back was pending before, and the removal of that model is not. -/
theorem listed_restore (nodup : s.changes.removed.Nodup) {other : ModelId}
    (listed : other ∈ (s.restore id).changes.updated ∨ other ∈ (s.restore id).changes.removed) :
    other ∈ s.changes.updated ∨ other ∈ s.changes.removed ∧ other ≠ id := by
  rcases restore_cases s id with ⟨settled, same⟩ | ⟨-, index, -, result⟩
  · rw [same] at listed
    refine listed.imp_right fun removed => ⟨removed, ?_⟩
    rintro rfl
    exact settled removed
  · rw [result, (attach_reobserved _ id).changes] at listed
    exact listed.imp_right fun removed => (nodup.mem_erase_iff.1 removed).symm

theorem restore (h : s.Addressed) (orderly : s.Orderly) (id : ModelId) : (s.restore id).Addressed := by
  intro other listed
  rw [(restore_frame s id).models.isNew]
  exact h other ((listed_restore orderly.removed listed).imp_right And.left)

/-- The change of the model is undone, so that it need not have a key afterwards. -/
theorem cancel (h : s.Addressed) (orderly : s.Orderly) (id : ModelId) : (s.cancel id).Addressed := by
  unfold Source.cancel
  split
  · exact removeFirst_preserves h (fun index => h.exchange index 1 []) (· == id)
  · dsimp only
    split
    · unfold Source.resetModel
      split
      · exact h.restore orderly id
      · next w t written =>
        have run := reset_run s id
        obtain ⟨tracked, -, outcome⟩ := write_outcome run written
        have after := (Orderly.preserved id).write run written orderly
        intro other listed
        rw [(restore_frame _ id).models.isNew]
        -- The model itself is in neither list any more.
        have nodup : ({ t with changes := { t.changes with updated := t.changes.updated.erase id } } :
            Source).changes.removed.Nodup := after.removed
        rcases listed_restore nodup listed with updated | ⟨removed, ne⟩
        · obtain ⟨ne, before⟩ := after.updated.mem_erase_iff.1 updated
          exact h.others outcome other (.inl before) ne
        · exact h.others outcome other (.inr removed) ne
    · exact h.restore orderly id

theorem advance (h : s.Addressed) (tasks : List SyncTask) : (s.syncNext tasks).source.Addressed := by
  obtain ⟨updated, origin, shape, sub⟩ := syncNext_source s tasks
  rw [shape]
  exact h.sublist (fun _ _ => rfl) fun id listed => listed.imp_left (sub.subset ·)

theorem accept (h : s.Addressed) (call : SyncCall) (answer : call.request.Answer)
    (keeps : call.task.id ∈ (s.accept call answer).changes.updated ∨
        call.task.id ∈ (s.accept call answer).changes.removed →
      (s.accept call answer).holds Model.isNew call.task.id = false) : (s.accept call answer).Addressed := by
  intro other listed
  by_cases here : other = call.task.id
  · rw [here] at listed ⊢
    exact keeps listed
  · rw [holds_congr (accept_model?_of_ne here answer)]
    cases call with
    | create id entity => exact h other listed
    | update id key changes => exact h other (listed.imp_left List.mem_of_mem_erase)
    | remove id key => exact h other (listed.imp_right List.mem_of_mem_erase)

theorem effect (h : s.Addressed) (orderly : s.Orderly) {command : SourceCommand} (effect : s.Effect command t)
    (keeps : ∀ id change, command = .edit id change → s.KeepsKey id change)
    (composed : ∀ tracked ∈ s.models, tracked.fields.Composed) : t.Addressed := by
  cases effect with
  | nothing => exact h
  | exchange index count e => exact (h.enrolled orderly e).exchange index count _
  | setData _ _ => exact replace _ _
  | cancelAll _ _ => exact replace _ _
  | cancel _ => exact h.cancel orderly _
  | submit _ => exact of_none rfl rfl
  | edit same written =>
    exact h.edit (fun tracked found => Model.perform_run (composed tracked (List.mem_of_getElem? found)) _ _)
      (keeps _ _ same) written

end Addressed

def KeepingKeys (_ : List SourceEvent) (s : Source) : SourceEvent → Prop
  | .performed (.edit id change) _ => s.KeepsKey id change
  | .accepted call answer =>
    call.task.id ∈ (s.accept call answer).changes.updated ∨ call.task.id ∈ (s.accept call answer).changes.removed →
      (s.accept call answer).holds Model.isNew call.task.id = false
  | _ => True

theorem Addressed.step (h : s.Addressed) (orderly : s.Orderly) (composed : s.OfKind fun _ fields => fields.Composed)
    {log : List SourceEvent} {event : SourceEvent} (keeps : KeepingKeys log s event) (step : s.Step event t) :
    t.Addressed := by
  cases step with
  | make ids _ _ built =>
    refine h.sublist (fun id listed => ?_) fun _ listed => listed
    rw [model?, model?, List.getElem?_append_left (orderly.known id (.inr listed))]
  | perform _ _ done =>
    refine h.effect orderly (effect_of_perform done) ?_ composed.tracked
    rintro id change rfl
    exact keeps
  | load _ done =>
    obtain ⟨u, e, rfl⟩ := load_ok done
    exact replace _ _
  | advance tasks => exact h.advance tasks
  | accept call answer => exact h.accept call answer keeps
  | ask filter sort paginator scheduled => exact h

theorem History.addressed {log : List SourceEvent} (h : History KeepingKeys log s) : s.Addressed := by
  induction h with
  | start schema _ autoSync paginator => exact .of_none rfl rfl
  | next h ok step ih => exact ih.step h.reachable_any.orderly h.reachable_any.composed ok step

theorem keyOf_error {m : Model} {uuid : String} (h : keyOf m = .error (.missingKey uuid)) :
    m.uuid = uuid ∧ m.key?.bind PrimaryKey.ofValue? = none := by
  unfold keyOf at h
  split at h
  · cases h
  · next missing =>
    cases h
    exact ⟨rfl, missing⟩

theorem due_error {task : SyncTask} {uuid : String} (h : s.due task = some (.error (.missingKey uuid))) :
    ∃ m, s.model? task.id = some m ∧ keyOf m = .error (.missingKey uuid) ∧
      (task = .update task.id ∧ m.isDirty = true ∨ task = .remove task.id) := by
  have keyed {m : Model} {f : PrimaryKey → SyncCall} (failed : (keyOf m).map f = .error (.missingKey uuid)) :
      keyOf m = .error (.missingKey uuid) := by
    cases found : keyOf m with
    | ok key => rw [found] at failed; cases failed
    | error e => rw [found] at failed; cases failed; rfl
  cases task with
  | create id => cases h
  | update id =>
    obtain ⟨m, found, does⟩ := Option.bind_eq_some_iff.1 h
    split at does
    · next pending =>
      rw [Bool.and_eq_true] at pending
      exact ⟨m, found, keyed (Option.some.inj does), .inl ⟨rfl, pending.1⟩⟩
    · cases does
  | remove id =>
    obtain ⟨m, found, does⟩ := Option.map_eq_some_iff.1 h
    exact ⟨m, found, keyed does, .inr rfl⟩

theorem mem_syncTasks_update {id : ModelId} : .update id ∈ s.syncTasks ↔ id ∈ s.changes.updated := by
  simp [syncTasks]

theorem mem_syncTasks_remove {id : ModelId} : .remove id ∈ s.syncTasks ↔ id ∈ s.changes.removed := by
  simp [syncTasks]

/-- Every model that is updated or removed has a key, and all but some odd values are keys that the provider can be
given. A sync fails for want of a key only at a model with such a value, which stays pending with all behind it. -/
theorem pending_addressed {log : List SourceEvent} (h : History KeepingKeys log s) :
    (∀ id, id ∈ s.changes.updated ∨ id ∈ s.changes.removed → ∃ m key, s.model? id = some m ∧ m.isNew = false ∧
      m.key? = some key ∧ ((PrimaryKey.ofValue? key).isSome = true ∨ key.Unaddressable)) ∧
    ∀ issued uuid t, s.SyncRun s.syncTasks issued (some (.missingKey uuid)) t →
      ∃ id m key, s.model? id = some m ∧ m.uuid = uuid ∧ m.key? = some key ∧ key.Unaddressable ∧
        (id ∈ s.changes.updated ∧ m.isDirty = true ∨ id ∈ s.changes.removed) ∧
        ∃ first failing rest, failing.id = id ∧ s.syncTasks = first ++ failing :: rest ∧
          t.syncTasks = failing :: rest := by
  have orderly := h.reachable_any.orderly
  have keyed (id : ModelId) (listed : id ∈ s.changes.updated ∨ id ∈ s.changes.removed) :
      ∃ m key, s.model? id = some m ∧ m.isNew = false ∧ m.key? = some key ∧ Json.truthy (some key) = true := by
    obtain ⟨m, found⟩ := model?_of_lt (orderly.known id (.inr listed))
    have old := h.addressed id listed
    rw [holds_of_model? found] at old
    obtain ⟨key, shown, counts⟩ := Model.key_of_not_isNew old
    exact ⟨m, key, found, old, shown, counts⟩
  constructor
  · intro id listed
    obtain ⟨m, key, found, old, shown, counts⟩ := keyed id listed
    refine ⟨m, key, found, old, shown, ?_⟩
    rw [← PrimaryKey.ofValue?_eq_none_iff counts]
    cases PrimaryKey.ofValue? key <;> simp
  · intro issued uuid t run
    obtain ⟨progress, -⟩ := progress_of_run orderly rfl run
    cases progress with
    | @failed _ first rest failing _ _ split before accepted cause pending origin =>
      obtain ⟨m, found, missing, kind⟩ := due_error cause
      obtain ⟨same, unusable⟩ := keyOf_error missing
      have listed : failing ∈ s.syncTasks := by simp [split]
      have changed : failing.id ∈ s.changes.updated ∧ m.isDirty = true ∨ failing.id ∈ s.changes.removed := by
        rcases kind with ⟨update, dirty⟩ | remove
        · exact .inl ⟨mem_syncTasks_update.1 (update ▸ listed), dirty⟩
        · exact .inr (mem_syncTasks_remove.1 (remove ▸ listed))
      obtain ⟨other, key, again, -, shown, counts⟩ := keyed failing.id (changed.imp_left And.left)
      rw [found, Option.some.injEq] at again
      subst again
      rw [shown, Option.bind_some, PrimaryKey.ofValue?_eq_none_iff counts] at unusable
      exact ⟨failing.id, m, key, found, same, shown, unusable, changed, first, failing, rest, rfl, split, pending⟩

/-- The key of the first model is set to `true`, by which it cannot be addressed, and the second one is edited. -/
theorem oddKey_sample : ∃ log s m t, History KeepingKeys log s ∧ s.changes.updated = [0, 1] ∧ s.model? 0 = some m ∧
    m.key?.bind PrimaryKey.ofValue? = none ∧ s.SyncRun s.syncTasks [] (some (.missingKey m.uuid)) t ∧
    t.changes.updated = [0, 1] := by
  have shown : ((fetched? [namedRow 1, namedRow 2]).bind fun s =>
      (s.perform (.edit 0 (.set "id" (.bool true)))).toOption.bind fun first =>
      (first.2.perform (.edit 1 (.set "name" (.str "b")))).toOption.map fun second =>
        (s.leavesKeyed 0 (.set "id" (.bool true)), first.2.leavesKeyed 1 (.set "name" (.str "b")),
          second.2.changes.added, second.2.changes.updated,
          second.2.holds (fun m => m.isDirty && (m.key?.bind PrimaryKey.ofValue?).isNone) 0)) =
        some (true, true, [], [0, 1], true) := by decide +kernel
  obtain ⟨s, found, later⟩ := Option.bind_eq_some_iff.1 shown
  obtain ⟨⟨reply, u⟩, first, later⟩ := Option.bind_eq_some_iff.1 later
  obtain ⟨⟨reply', t⟩, second, facts⟩ := Option.map_eq_some_iff.1 later
  simp only [Prod.mk.injEq] at facts
  obtain ⟨keyed, keyed', added, updated, odd⟩ := facts
  have h : History KeepingKeys _ s :=
    fetched?_history (by simp [namedRow_ordered]) (fun _ _ _ => trivial) found
  have one := h.perform (ok_of_toOption first) rfl (keepsKey_of_leavesKeyed keyed)
  have two := one.perform (ok_of_toOption second) rfl (keepsKey_of_leavesKeyed keyed')
  cases shown : t.model? 0 with
  | none => rw [holds, shown] at odd; cases odd
  | some m =>
    rw [holds_of_model? shown, Bool.and_eq_true, Option.isNone_iff_eq_none] at odd
    have tasks : t.syncTasks = .update 0 :: .update 1 :: t.changes.removed.map .remove := by
      simp [syncTasks, added, updated]
    have failed : t.syncNext t.syncTasks = .failed (.missingKey m.uuid) t := by
      rw [tasks, syncNext_update _ (by simp [updated]) shown odd.1, keyedCall, keyOf, odd.2]
    exact ⟨_, t, m, t, two, updated, shown, odd.2, .failed failed, updated⟩

/-- The first model blocks the second one. -/
theorem pending_addressed_oddKey : ∃ log s, History KeepingKeys log s ∧ s.changes.updated = [0, 1] ∧
    (∃ m key, s.model? 0 = some m ∧ m.isNew = false ∧ m.key? = some key ∧
      ((PrimaryKey.ofValue? key).isSome = true ∨ key.Unaddressable)) ∧
    ∃ uuid t, s.SyncRun s.syncTasks [] (some (.missingKey uuid)) t ∧ t.changes.updated = [0, 1] ∧
      ∃ id m key, s.model? id = some m ∧ m.uuid = uuid ∧ m.key? = some key ∧ key.Unaddressable ∧
        (id ∈ s.changes.updated ∧ m.isDirty = true ∨ id ∈ s.changes.removed) ∧
        ∃ first failing rest, failing.id = id ∧ s.syncTasks = first ++ failing :: rest ∧
          t.syncTasks = failing :: rest := by
  obtain ⟨log, s, m, t, h, updated, -, -, run, still⟩ := oddKey_sample
  exact ⟨log, s, h, updated, (pending_addressed h).1 0 (.inl (by simp [updated])), m.uuid, t, run, still,
    (pending_addressed h).2 _ _ _ run⟩

/-- It is not so that pending models can always be addressed and that no sync fails for want of a key. -/
theorem not_pending_addressed : ¬ ∀ log s, History (fun _ _ _ => True) log s →
    (∀ id m, id ∈ s.changes.updated ∨ id ∈ s.changes.removed → s.model? id = some m →
      m.isNew = false ∧ (m.key?.bind PrimaryKey.ofValue?).isSome = true) ∧
    ∀ issued uuid t, ¬ s.SyncRun s.syncTasks issued (some (.missingKey uuid)) t := by
  intro always
  obtain ⟨log, s, m, t, h, -, -, -, run, -⟩ := oddKey_sample
  exact (always log s (h.mono fun _ _ _ _ => trivial)).2 _ _ _ run

end Source

end RecordSync
