import RecordSync.Proofs.Source.Interleaving
import RecordSync.Proofs.Source.Rollback

/-!
# Syncs that end half-way

When a sync fails, some of its calls may have been accepted. Their changes are no longer pending, and each change that
still is can be undone by itself without touching them. The snapshot, however, is the one from before the sync, so
that undoing all changes at once undoes the accepted ones as well.
-/

set_option autoImplicit false

namespace RecordSync

def SyncCall.saved : (call : SyncCall) → call.request.Answer → Entity
  | .create _ _, answer => answer
  | .update _ _ _, answer => answer
  | .remove _ _, _ => []

namespace Source

variable {s t u : Source} {id : ModelId}

def Shows (s : Source) (id : ModelId) (told answer : Entity) : Prop :=
  ∃ m, s.model? id = some m ∧
    ∀ name value, (KeyMap.get? answer name).or (KeyMap.get? told name) = some value →
      (m.field? name == some value) = true

/-- The list shows that a call was accepted. -/
inductive Reflects (s : Source) : (call : SyncCall) → call.request.Answer → Prop where
  | create {id : ModelId} {entity answer : Entity} (member : id ∈ s.data) (shows : s.Shows id entity answer) :
      Reflects s (.create id entity) answer
  | update {id : ModelId} {key : PrimaryKey} {changes answer : Entity} (member : id ∈ s.data)
      (shows : s.Shows id changes answer) : Reflects s (.update id key changes) answer
  | remove {id : ModelId} {key : PrimaryKey} (answer : (SyncCall.remove id key).request.Answer)
      (outside : id ∉ s.data) : Reflects s (.remove id key) answer

/-- A model is a member as before and is as it was, whoever observes it. -/
structure Unmoved (id : ModelId) (s t : Source) : Prop where
  member : id ∈ t.data ↔ id ∈ s.data
  model : (t.model? id).map Model.unobserved = (s.model? id).map Model.unobserved

theorem Unmoved.trans (h : Unmoved id s t) (k : Unmoved id t u) : Unmoved id s u where
  member := k.member.trans h.member
  model := k.model.trans h.model

theorem Unmoved.shows (h : Unmoved id s t) {told answer : Entity} (shows : s.Shows id told answer) :
    t.Shows id told answer := by
  obtain ⟨m, found, fields⟩ := shows
  have same := h.model
  rw [found] at same
  obtain ⟨new, shown, unobserved⟩ := Option.map_eq_some_iff.1 same
  have root : new.root = m.root := show new.unobserved.root = m.unobserved.root from congrArg Model.root unobserved
  refine ⟨new, shown, fun name value known => ?_⟩
  rw [Model.field?, root]
  exact fields name value known

theorem Reflects.of_unmoved {call : SyncCall} {answer : call.request.Answer} (h : s.Reflects call answer)
    (unmoved : Unmoved call.task.id s t) : t.Reflects call answer := by
  cases h with
  | create member shows => exact .create (unmoved.member.2 member) (unmoved.shows shows)
  | update member shows => exact .update (unmoved.member.2 member) (unmoved.shows shows)
  | remove answer outside => exact .remove answer fun member => outside (unmoved.member.1 member)

/-- A model that a server has the last word on has its values, and keeps its own where the server has none. -/
theorem shows_rebind {m : Model} (found : s.model? id = some m) (accounted : m.Accounted) {told answer : Entity}
    (ordered : KeyMap.Ordered answer)
    (own : ∀ name value, KeyMap.get? told name = some value → m.field? name = some value) :
    (s.rebind id answer).Shows id told answer := by
  refine ⟨(m.rebase answer).model, by rw [rebind_model?_self, found]; rfl, fun name value known => ?_⟩
  rw [Model.rebase_field? accounted ordered]
  cases saved : KeyMap.get? answer name with
  | some new =>
    rw [saved, Option.some_or] at known
    rw [← known]
    exact BEq.symm (Model.beq_overwrite (fun none => by cases none))
  | none =>
    rw [saved, Option.none_or] at known
    rw [Model.overwrite, own name value known]
    exact BEq.rfl

theorem Calls.reflects {call : SyncCall} (calls : s.Calls call) (coherent : s.Coherent) (sound : s.Sound)
    {answer : call.request.Answer} (ordered : KeyMap.Ordered (call.saved answer)) :
    (s.accept call answer).Reflects call answer := by
  cases calls with
  | @create id added =>
    have member := coherent.added_members id added
    obtain ⟨m, found⟩ := model?_of_lt (coherent.lt id member)
    have accounted := sound.accounted id m found
    have shows : (s.rebind id answer).Shows id (s.entity id) answer := by
      refine shows_rebind found accounted ordered fun name value told => ?_
      obtain ⟨fields, root, -⟩ := accounted.isObject
      rw [entity, found, Option.map_some, Option.getD_some, Model.toEntity_of_root root] at told
      rw [Model.field?_of_root root, told]
    exact .create member shows
  | @update id m key updated found dirty keyed =>
    have accounted := sound.accounted id m found
    have shows : (s.rebind id answer).Shows id m.dirtyFields answer := by
      refine shows_rebind found accounted ordered fun name value told => ?_
      rw [Model.get?_dirtyFields accounted] at told
      split at told
      · exact told
      · cases told
    exact .update (coherent.updated_members id updated) shows
  | @remove id m key removed found keyed => exact .remove answer (coherent.removed_outside id removed)

def Unsettled (s : Source) (id : ModelId) : Prop :=
  id ∈ s.changes.added ∨ id ∈ s.changes.updated ∨ id ∈ s.changes.removed

theorem unsettled_of_awaits {call : SyncCall} (h : s.Awaits call) : s.Unsettled call.task.id := by
  cases call with
  | create id entity => exact .inl h
  | update id key changes => exact .inr (.inl h)
  | remove id key => exact .inr (.inr h)

theorem unsettled_syncNext {tasks : List SyncTask} (h : (s.syncNext tasks).source.Unsettled id) : s.Unsettled id := by
  obtain ⟨updated, origin, shape, sub⟩ := syncNext_source s tasks
  rw [shape] at h
  exact h.imp_right fun later => later.imp_left fun listed => sub.subset listed

theorem unsettled_accept {call : SyncCall} {answer : call.request.Answer} (coherent : s.Coherent)
    (awaits : s.Awaits call) (h : (s.accept call answer).Unsettled id) : s.Unsettled id ∧ id ≠ call.task.id := by
  have kept : s.Unsettled id := by
    cases call with
    | create other entity => exact h.imp_left List.mem_of_mem_erase
    | update other key changes => exact h.imp_right fun later => later.imp_left List.mem_of_mem_erase
    | remove other key => exact h.imp_right fun later => later.imp_right List.mem_of_mem_erase
  refine ⟨kept, ?_⟩
  rintro rfl
  cases call with
  | create other entity =>
    replace awaits : other ∈ s.changes.added := awaits
    rcases h with added | updated | removed
    · exact (coherent.added.mem_erase_iff.1 added).1 rfl
    · exact coherent.exclusive other awaits updated
    · exact coherent.removed_outside other removed (coherent.added_members other awaits)
  | update other key changes =>
    replace awaits : other ∈ s.changes.updated := awaits
    rcases h with added | updated | removed
    · exact coherent.exclusive other added awaits
    · exact (coherent.updated.mem_erase_iff.1 updated).1 rfl
    · exact coherent.removed_outside other removed (coherent.updated_members other awaits)
  | remove other key =>
    replace awaits : other ∈ s.changes.removed := awaits
    rcases h with added | updated | removed
    · exact coherent.removed_outside other awaits (coherent.added_members other added)
    · exact coherent.removed_outside other awaits (coherent.updated_members other updated)
    · exact (coherent.removed.mem_erase_iff.1 removed).1 rfl

/-- Nothing is edited while the provider is asked. -/
def Quiet (turns : List Turn) : Prop := ∀ turn ∈ turns, turn.answered = turn.sent

theorem unmoved_accept {call : SyncCall} (ne : id ≠ call.task.id) (answer : call.request.Answer) :
    Unmoved id s (s.accept call answer) where
  member := by rw [data_accept]
  model := by rw [accept_model?_of_ne ne]

theorem unmoved_syncNext (s : Source) (tasks : List SyncTask) : Unmoved id s (s.syncNext tasks).source := by
  obtain ⟨updated, origin, shape, -⟩ := syncNext_source s tasks
  rw [shape]
  exact ⟨.rfl, rfl⟩

theorem Interleaved.settled {tasks : List SyncTask} {turns : List Turn} {failure : Option SourceError}
    (run : s.Interleaved tasks turns failure t) (h : s.Regular) (quiet : Quiet turns) (settled : ¬ s.Unsettled id) :
    Unmoved id s t ∧ ¬ t.Unsettled id := by
  have goes (s : Source) (tasks : List SyncTask) (settled : ¬ s.Unsettled id) :
      Unmoved id s (s.syncNext tasks).source ∧ ¬ (s.syncNext tasks).source.Unsettled id :=
    ⟨unmoved_syncNext s tasks, fun later => settled (unsettled_syncNext later)⟩
  induction run with
  | @finished s t tasks next | @failed s t tasks _ next =>
    have reached := goes s tasks settled
    rwa [next] at reached
  | @refused s t u tasks rest call next edits e =>
    have reached := goes s tasks settled
    have same : u = t := quiet _ (.head _)
    rw [next] at reached
    rwa [same]
  | @accepted s t u v tasks rest call turns failure next edits answer later ih =>
    have reached := goes s tasks settled
    rw [next] at reached
    obtain rfl : u = t := quiet _ (.head _)
    have awaits := (calls_of_syncNext next).awaits
    have sent := h.call next
    have ne : id ≠ call.task.id := by
      rintro rfl
      exact reached.2 (unsettled_of_awaits awaits)
    have still : ¬ (u.accept call answer).Unsettled id := fun later =>
      reached.2 (unsettled_accept sent.coherent awaits later).1
    obtain ⟨unmoved, settled⟩ := ih (sent.accept call answer) (fun turn listed => quiet turn (.tail _ listed)) still
    exact ⟨reached.1.trans ((unmoved_accept ne answer).trans unmoved), settled⟩

/-- In the end all accepted calls are reflected, and their models are settled. -/
theorem Interleaved.reflects {tasks : List SyncTask} {turns : List Turn} {failure : Option SourceError}
    (run : s.Interleaved tasks turns failure t) (h : s.Regular) (quiet : Quiet turns) :
    ∀ turn ∈ turns, ∀ answer, turn.answer = some answer → KeyMap.Ordered (turn.call.saved answer) →
      t.Reflects turn.call answer ∧ ¬ t.Unsettled turn.call.task.id := by
  induction run with
  | finished | failed => simp
  | refused next edits e =>
    intro turn listed answer accepted
    obtain rfl := List.mem_singleton.1 listed
    cases accepted
  | @accepted s t u v tasks rest call turns failure next edits answer later ih =>
    obtain rfl : u = t := quiet _ (.head _)
    have calls := calls_of_syncNext next
    have sent := h.call next
    have after := sent.accept call answer
    have quietly : Quiet turns := fun turn listed => quiet turn (.tail _ listed)
    intro turn listed given accepted ordered
    rcases List.mem_cons.1 listed with rfl | listed
    · obtain rfl : answer = given := Option.some.inj accepted
      have settled : ¬ (u.accept call answer).Unsettled call.task.id := fun still =>
        (unsettled_accept sent.coherent calls.awaits still).2 rfl
      obtain ⟨unmoved, settled⟩ := later.settled after quietly settled
      exact ⟨(calls.reflects sent.coherent sent.sound ordered).of_unmoved unmoved, settled⟩
    · exact ih after quietly turn listed given accepted ordered

theorem Unmoved.of_rearranged (moved : s.Rearranged t) (member : id ∈ t.data ↔ id ∈ s.data) : Unmoved id s t where
  member := member
  model := moved.models.read Model.unobserved (fun _ => rfl) id

theorem unmoved_remove {other : ModelId} (ne : id ≠ other) (s : Source) : Unmoved id s (s.remove other).2 := by
  unfold remove removeFirst
  split
  · exact ⟨.rfl, rfl⟩
  · next index found =>
    obtain ⟨inside, here, -⟩ := List.findIdx?_eq_some_iff_getElem.1 found
    obtain ⟨moved, data⟩ := exchange_frame s index 1 []
    have cut : s.data.take index ++ other :: s.data.drop (index + 1) = s.data := by
      rw [← eq_of_beq here, ← List.drop_eq_getElem_cons inside, List.take_append_drop]
    have members : id ∈ s.data ↔ id ∈ s.data.take index ++ other :: s.data.drop (index + 1) := by rw [cut]
    refine .of_rearranged moved ?_
    rw [data, members]
    simp [ne]

theorem unmoved_resetModel {other : ModelId} (ne : id ≠ other) (s : Source) : Unmoved id s (s.resetModel other) := by
  unfold resetModel
  split
  · exact ⟨.rfl, rfl⟩
  · next w t written =>
    have apart := writtenAt_write written
    have data : t.data = s.data := by rw [apart.rest]
    refine ⟨?_, ?_⟩
    · show id ∈ t.data ↔ id ∈ s.data
      rw [data]
    · show (t.model? id).map Model.unobserved = _
      rw [apart.others id ne]

theorem unmoved_restore {other : ModelId} (ne : id ≠ other) (s : Source) : Unmoved id s (s.restore other) := by
  refine .of_rearranged (restore_frame s other) ?_
  rcases restore_cases s other with ⟨-, same⟩ | ⟨-, index, place, result⟩
  · rw [same]
  · rw [result, List.mem_insertIdx place]
    simp [ne]

theorem unmoved_cancel {other : ModelId} (ne : id ≠ other) (s : Source) : Unmoved id s (s.cancel other) := by
  unfold cancel
  split
  · exact unmoved_remove ne s
  · refine Unmoved.trans ?_ (unmoved_restore ne _)
    split
    · exact unmoved_resetModel ne s
    · exact ⟨.rfl, rfl⟩

theorem unmoved_cancelEach {ids : List ModelId} (outside : id ∉ ids) (s : Source) :
    Unmoved id s (ids.foldl cancel s) := by
  induction ids generalizing s with
  | nil => exact ⟨.rfl, rfl⟩
  | cons other rest ih =>
    rw [List.mem_cons, not_or] at outside
    exact (unmoved_cancel outside.1 s).trans (ih outside.2 _)

/-- A sync that has not come to its end leaves the snapshot alone. -/
theorem ground_unfinished {tasks : List SyncTask} {reached : SyncNext} (next : s.syncNext tasks = reached)
    (unfinished : ∀ t, reached ≠ .finished t) : reached.source.ground = s.ground := by
  subst next
  exact syncNext_induct (P := fun s next => (∀ t, next ≠ .finished t) → next.source.ground = s.ground)
    (fun _ none => absurd rfl (none _)) (fun _ _ _ => rfl) (fun _ _ _ _ _ => rfl) (fun _ _ _ _ later => later) s tasks
    unfinished

theorem ground_accept (s : Source) (call : SyncCall) (answer : call.request.Answer) :
    (s.accept call answer).ground = s.ground := by
  cases call <;> rfl

theorem Edits.ground (h : s.Edits t) : t.ground = s.ground := by
  induction h with
  | none => rfl
  | next member overt done later ih => exact ih.trans (ground_perform (by simp) done)

theorem schema_syncNext (s : Source) (tasks : List SyncTask) : (s.syncNext tasks).source.schema = s.schema := by
  obtain ⟨updated, origin, shape, -⟩ := syncNext_source s tasks
  rw [shape]

theorem Interleaved.ground {tasks : List SyncTask} {turns : List Turn} {failure : Option SourceError}
    (run : s.Interleaved tasks turns failure t) : t.schema = s.schema ∧ (failure ≠ none → t.origin = s.origin) := by
  induction run with
  | @finished s t tasks next =>
    have schema := schema_syncNext s tasks
    rw [next] at schema
    exact ⟨schema, fun failed => absurd rfl failed⟩
  | @failed s t tasks e next =>
    have left := ground_unfinished next (by simp)
    obtain ⟨origin, schema⟩ := Prod.mk.inj left
    exact ⟨schema, fun _ => origin⟩
  | @refused s t u tasks rest call next edits e =>
    have left := ground_unfinished next (by simp)
    obtain ⟨origin, schema⟩ := Prod.mk.inj (edits.ground.trans left)
    exact ⟨schema, fun _ => origin⟩
  | @accepted s t u v tasks rest call turns failure next edits answer later ih =>
    have left := ground_unfinished next (by simp)
    obtain ⟨origin, schema⟩ := Prod.mk.inj ((ground_accept u call answer).trans (edits.ground.trans left))
    exact ⟨ih.1.trans schema, fun failed => (ih.2 failed).trans origin⟩

theorem Interleaved.origin_of_finished {tasks : List SyncTask} {turns : List Turn}
    (run : s.Interleaved tasks turns none t) : t.origin = t.entities := by
  generalize ended : (none : Option SourceError) = failure at run
  induction run with
  | finished next => exact origin_finished next
  | failed | refused => cases ended
  | accepted _ _ _ _ ih => exact ih ended

def AllReflected (s : Source) (turns : List Turn) : Prop :=
  ∀ turn ∈ turns, ∀ answer, turn.answer = some answer → s.Reflects turn.call answer

/-- After a sync that has failed, whatever the provider has accepted stays in the list when the changes that are still
pending are undone one by one, and also when all is undone at once after another sync has come to its end. Until then
to undo all at once leads back to the time before the failed sync. -/
theorem allReflected_after_failure {turns : List Turn} {e : SourceError} (h : s.Regular)
    (run : s.Interleaved s.syncTasks turns (some e) t) (quiet : Quiet turns)
    (ordered : ∀ turn ∈ turns, ∀ answer, turn.answer = some answer → KeyMap.Ordered (turn.call.saved answer)) :
    (∀ ids : List ModelId, (∀ id ∈ ids, t.Unsettled id) → (ids.foldl cancel t).AllReflected turns) ∧
    (∀ (more : List Turn) (u : Source), t.Interleaved t.syncTasks more none u → Quiet more →
      u.AllReflected turns ∧ (s.schema = .standard → ∃ v, u.cancelAll = .ok v ∧ v.entities = u.entities)) ∧
    t.origin = s.origin ∧ (s.schema = .standard → ∃ v, t.cancelAll = .ok v ∧ v.entities = s.origin) := by
  have accepted := fun turn listed answer given =>
    run.reflects h quiet turn listed answer given (ordered turn listed answer given)
  obtain ⟨schema, origin⟩ := run.ground
  refine ⟨fun ids pending turn listed answer given => ?_, fun more u again quietly => ⟨?_, fun standard => ?_⟩,
    origin (by simp), fun standard => ?_⟩
  · obtain ⟨reflected, settled⟩ := accepted turn listed answer given
    have outside : turn.call.task.id ∉ ids := fun inside => settled (pending _ inside)
    exact reflected.of_unmoved (unmoved_cancelEach outside t)
  · intro turn listed answer given
    obtain ⟨reflected, settled⟩ := accepted turn listed answer given
    exact reflected.of_unmoved (again.settled (h.interleaved run) quietly settled).1
  · obtain ⟨v, undone, restored⟩ := cancelAll_restored ((again.ground.1.trans schema).trans standard)
    exact ⟨v, undone, restored.entities.trans again.origin_of_finished⟩
  · obtain ⟨v, undone, restored⟩ := cancelAll_restored (schema.trans standard)
    exact ⟨v, undone, restored.entities.trans (origin (by simp))⟩

def half? : Option Source := worked? [namedRow 1, namedRow 2] [.edit 0 (.set "name" (.str "b")), .removeAt 1]

def renamedRow : Entity := [("id", .num (.int 1)), ("name", .str "b")]

def isKeyed (m : Model) : Bool := (m.key?.bind PrimaryKey.ofValue?).isSome

theorem exists_keyed (keyed : s.holds isKeyed id = true) :
    ∃ m key, s.model? id = some m ∧ keyOf m = .ok key := by
  obtain ⟨m, found, some⟩ := exists_of_holds keyed
  obtain ⟨key, known⟩ := Option.isSome_iff_exists.1 some
  exact ⟨m, key, found, by rw [keyOf, known]⟩

theorem half?_run : ∃ (s t : Source) (key key' : PrimaryKey) (told : Entity), half? = some s ∧ s.Regular ∧
    s.schema = .standard ∧ t.changes.removed = [1] ∧
    s.Interleaved s.syncTasks [⟨.update 0 key told, s, s, some renamedRow⟩, ⟨.remove 1 key', t, t, none⟩]
      (some (.provider (.transport "down"))) t := by
  have shown : half?.map (fun s => (s.changes.added, s.changes.updated, s.changes.removed,
      s.holds Model.isDirty 0, s.holds isKeyed 0, s.holds isKeyed 1)) =
        some ([], [0], [1], true, true, true) := by decide +kernel
  obtain ⟨s, found, facts⟩ := Option.map_eq_some_iff.1 shown
  simp only [Prod.mk.injEq] at facts
  obtain ⟨added, updated, removed, edited, keyed, keyed'⟩ := facts
  have fresh : ∀ command ∈ [SourceCommand.edit 0 (.set "name" (.str "b")), .removeAt 1], ∀ log u members,
      Separate log u (.performed command members) := by
    intro command listed log u members
    simp only [List.mem_cons, List.not_mem_nil, or_false] at listed
    rcases listed with rfl | rfl <;> constructor <;> simp [SourceCommand.items]
  have regular : s.Regular :=
    worked?_history (by simp [namedRow_ordered]) (fun _ _ _ => trivial) fresh (by simp [SourceCommand.items]) found
  have standard : s.schema = .standard := by
    obtain ⟨fetched, -, standard, works⟩ := works_of_worked? found (by simp)
    exact (Prod.mk.inj works.ground).2.trans standard
  obtain ⟨m, key, here, known⟩ := exists_keyed keyed
  obtain ⟨m', key', here', known'⟩ := exists_keyed keyed'
  rw [holds_of_model? here] at edited
  have tasks : s.syncTasks = [.update 0, .remove 1] := by simp [syncTasks, added, updated, removed]
  have first : s.syncNext s.syncTasks = .call (.update 0 key m.dirtyFields) [.remove 1] s := by
    rw [tasks, syncNext_update _ (by simp [updated]) here edited, keyedCall_of_ok _ known]
  have later : (s.accept (.update 0 key m.dirtyFields) renamedRow).model? 1 = some m' :=
    (accept_model?_of_ne (by simp [SyncCall.task, SyncTask.id]) _).trans here'
  have pending : (s.accept (.update 0 key m.dirtyFields) renamedRow).changes.removed = [1] := removed
  have second := (syncNext_remove [] (by simp [pending]) later).trans (keyedCall_of_ok _ known' _)
  exact ⟨s, _, key, key', _, found, regular, standard, pending,
    .accepted first (.none s) renamedRow (.refused second (.none _) _)⟩

/-- The removal that is still pending is undone, and the row keeps its new name. -/
theorem allReflected_after_failure_half : ∃ (s t : Source) (key key' : PrimaryKey) (told : Entity), half? = some s ∧
    s.Interleaved s.syncTasks [⟨.update 0 key told, s, s, some renamedRow⟩, ⟨.remove 1 key', t, t, none⟩]
      (some (.provider (.transport "down"))) t ∧ t.Unsettled 1 ∧ (t.cancel 1).Shows 0 told renamedRow := by
  obtain ⟨s, t, key, key', told, found, regular, standard, pending, run⟩ := half?_run
  have ordered : KeyMap.Ordered renamedRow := List.pairwise_pair.2 (by decide)
  have unsettled : t.Unsettled 1 := .inr (.inr (by simp [pending]))
  obtain ⟨undone, -⟩ := allReflected_after_failure regular run (by simp [Quiet]) (by
    intro turn listed answer given
    simp only [List.mem_cons, List.not_mem_nil, or_false] at listed
    rcases listed with rfl | rfl
    · cases given
      exact ordered
    · cases given)
  refine ⟨s, t, key, key', told, found, run, unsettled, ?_⟩
  cases undone [1] (by simpa using unsettled) _ (.head _) _ rfl with
  | update member shows => exact shows

/-- When all is undone at once, the row has its old name again, which the provider has not. -/
theorem reverted_after_failure : ∃ (s t u : Source) (key key' : PrimaryKey) (told : Entity), half? = some s ∧
    s.Regular ∧ s.Interleaved s.syncTasks [⟨.update 0 key told, s, s, some renamedRow⟩, ⟨.remove 1 key', t, t, none⟩]
      (some (.provider (.transport "down"))) t ∧ t.cancelAll = .ok u ∧
    ∀ row ∈ u.entities, (KeyMap.get? row "name" == some (.str "a")) = true := by
  obtain ⟨s, t, key, key', told, found, regular, standard, -, run⟩ := half?_run
  obtain ⟨schema, origin⟩ := run.ground
  obtain ⟨u, undone, restored⟩ := cancelAll_restored (schema.trans standard)
  have shown : half?.map (fun s => s.origin.all fun row => KeyMap.get? row "name" == some (.str "a")) = some true := by
    decide +kernel
  rw [found, Option.map_some, Option.some.injEq, ← origin (by simp), ← restored.entities] at shown
  exact ⟨s, t, u, key, key', told, found, regular, run, undone, List.all_eq_true.1 shown⟩

end Source

end RecordSync
