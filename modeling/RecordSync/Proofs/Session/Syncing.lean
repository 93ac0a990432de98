import RecordSync.Proofs.Provider.Rows
import RecordSync.Proofs.Source.InStep
import RecordSync.Proofs.Source.Sync

/-!
# Syncs with rows in memory

A sync of a source that is in step with rows in memory never fails. Each task is passed over or leads to one call, which
finds its row, and the source is in step with the rows that the call leaves.
-/

set_option autoImplicit false

namespace RecordSync

structure Changes.Covered (c : Changes) (tasks : List SyncTask) : Prop where
  added : ∀ id ∈ c.added, SyncTask.create id ∈ tasks
  updated : ∀ id ∈ c.updated, SyncTask.update id ∈ tasks
  removed : ∀ id ∈ c.removed, SyncTask.remove id ∈ tasks

namespace Changes.Covered

variable {c d : Changes} {id : ModelId} {rest : List SyncTask}

theorem create (h : c.Covered (.create id :: rest)) (added : ∀ other ∈ d.added, other ≠ id ∧ other ∈ c.added)
    (updated : d.updated = c.updated) (removed : d.removed = c.removed) : d.Covered rest where
  added := by
    intro other ho
    obtain ⟨ne, listed⟩ := added other ho
    exact (List.mem_cons.1 (h.added other listed)).resolve_left fun same => ne (SyncTask.create.inj same)
  updated := fun other ho => (List.mem_cons.1 (h.updated other (updated ▸ ho))).resolve_left (by simp)
  removed := fun other ho => (List.mem_cons.1 (h.removed other (removed ▸ ho))).resolve_left (by simp)

theorem update (h : c.Covered (.update id :: rest)) (added : d.added = c.added)
    (updated : ∀ other ∈ d.updated, other ≠ id ∧ other ∈ c.updated) (removed : d.removed = c.removed) :
    d.Covered rest where
  added := fun other ho => (List.mem_cons.1 (h.added other (added ▸ ho))).resolve_left (by simp)
  updated := by
    intro other ho
    obtain ⟨ne, listed⟩ := updated other ho
    exact (List.mem_cons.1 (h.updated other listed)).resolve_left fun same => ne (SyncTask.update.inj same)
  removed := fun other ho => (List.mem_cons.1 (h.removed other (removed ▸ ho))).resolve_left (by simp)

theorem remove (h : c.Covered (.remove id :: rest)) (added : d.added = c.added) (updated : d.updated = c.updated)
    (removed : ∀ other ∈ d.removed, other ≠ id ∧ other ∈ c.removed) : d.Covered rest where
  added := fun other ho => (List.mem_cons.1 (h.added other (added ▸ ho))).resolve_left (by simp)
  updated := fun other ho => (List.mem_cons.1 (h.updated other (updated ▸ ho))).resolve_left (by simp)
  removed := by
    intro other ho
    obtain ⟨ne, listed⟩ := removed other ho
    exact (List.mem_cons.1 (h.removed other listed)).resolve_left fun same => ne (SyncTask.remove.inj same)

theorem nil (h : c.Covered []) : c.added = [] ∧ c.updated = [] ∧ c.removed = [] := by
  refine ⟨List.eq_nil_iff_forall_not_mem.2 fun id hid => ?_, List.eq_nil_iff_forall_not_mem.2 fun id hid => ?_,
    List.eq_nil_iff_forall_not_mem.2 fun id hid => ?_⟩
  · cases h.added id hid
  · cases h.updated id hid
  · cases h.removed id hid

end Changes.Covered

theorem Source.covered_syncTasks (s : Source) : s.changes.Covered s.syncTasks := by
  constructor <;> intro id hid <;> simp [syncTasks, hid]

theorem Source.page_of_disabled {s : Source} (paginator : s.paginator = .disabled) : s.fetchParams.page = none := by
  show s.paginator.page? = none
  rw [paginator]
  rfl

namespace Session

structure Serves (s : Session) (r : Rows) : Prop where
  provider : s.provider = .rows r
  stopAt : s.stopAt = 0
  primary : r.primary = "id"
  distinct : PrimaryKey.Distinct r.keys
  fresh : s.ids.FreshFor r.keys

theorem Serves.with_source {s : Session} {r : Rows} (h : s.Serves r) (source : Source) :
    ({ s with source } : Session).Serves r :=
  ⟨h.provider, h.stopAt, h.primary, h.distinct, h.fresh⟩

structure Working (s : Session) (r : Rows) (stored : List ModelId) : Prop extends Serves s r where
  inStep : s.source.InStep r.entities stored

theorem call_rows {s : Session} {r r' : Rows} {request : Request} {outcome : Outcome request.Answer} {ids : IdSupply}
    (provider : s.provider = .rows r) (stopAt : s.stopAt = 0) (result : r.call s.ids request = (outcome, r', ids)) :
    s.call request = (some outcome, { s with provider := .rows r', ids }) := by
  have begun : s.provider.begin s.ids request = (none, .rows r, s.ids) := by rw [provider]; rfl
  have finished : Provider.finish (.rows r) s.ids request = (outcome, .rows r', ids) := by
    simp only [Provider.finish, Provider.call, result]
  have unrecorded : (Provider.rows r).hasRecorder = false := rfl
  unfold Session.call
  rw [begun]
  simp only [unrecorded, Bool.false_and, Bool.false_eq_true, if_false, finished, stopAt]

theorem startFetch_rows {s : Session} {r : Rows} (provider : s.provider = .rows r) (stopAt : s.stopAt = 0)
    (suspended : s.suspended = none) (owner : Owner) :
    s.startFetch owner = s.receive [owner] (r.select s.source.fetchParams) := by
  have called := @call_rows s r r (.fetch (some s.source.fetchParams)) _ s.ids provider stopAt rfl
  have idle : ({ s with suspended := s.suspended.map supersede } : Session) = s := by
    rw [suspended, Option.map_none, ← suspended]
  have same : ({ s with provider := .rows r } : Session) = s := by rw [← provider]
  unfold startFetch
  dsimp only
  rw [idle, called]
  exact congrArg (Session.receive · [owner] _) same

theorem receive_loaded {s : Session} {collection : Collection} {ids : List ModelId} {source : Source}
    (loaded : s.source.load collection = .ok (ids, source)) (owner : Owner) :
    s.receive [owner] (.ok collection) = { s with source }.complete owner (.ok ids) := by
  simp only [receive, loaded, List.foldl_cons, List.foldl_nil]

/-- The outcome of an operation that is picked up leaves nothing behind. -/
theorem pickUp_complete {s : Session} (outcomes : s.outcomes = []) (completion : Completion) :
    (s.complete .caller completion).pickUp .caller = (some completion, s) := by
  have completed : s.complete .caller completion = { s with outcomes := [(.caller, completion)] } := by
    unfold complete
    cases completion <;> simp only [outcomes, List.nil_append]
  have none : s = { s with outcomes := [] } := by rw [← outcomes]
  rw [completed, pickUp]
  exact congrArg _ none.symm

theorem runSync_finished {s : Session} {owner : Owner} {tasks : List SyncTask} {source : Source}
    (next : s.source.syncNext tasks = .finished source) :
    s.runSync owner tasks = { s with source }.complete owner (.ok []) := by
  rw [runSync_eq, next]

theorem runSync_call {s : Session} {owner : Owner} {tasks rest : List SyncTask} {call : SyncCall} {source : Source}
    {r r' : Rows} {answer : call.request.Answer} {ids : IdSupply} (provider : s.provider = .rows r)
    (stopAt : s.stopAt = 0) (next : s.source.syncNext tasks = .call call rest source)
    (result : r.call s.ids call.request = (.ok answer, r', ids)) :
    s.runSync owner tasks =
      ({ s with source := source.accept call answer, provider := .rows r', ids } : Session).runSync owner rest := by
  have called := @call_rows { s with source } r r' call.request (.ok answer) ids provider stopAt result
  rw [runSync_eq, next]
  dsimp only
  rw [called]

theorem runSync_skip {s : Session} {owner : Owner} {tasks rest : List SyncTask} {source : Source}
    (same : s.source.syncNext tasks = source.syncNext rest) :
    s.runSync owner tasks = ({ s with source } : Session).runSync owner rest := by
  rw [runSync_eq, runSync_eq, same]

structure GoesOn (s t : Session) (rest : List SyncTask) : Prop where
  frame : t = { s with source := t.source, provider := t.provider, ids := t.ids }
  working : ∃ r stored, t.Working r stored
  covered : t.source.changes.Covered rest

theorem keys_middle {r : Rows} {before after : List Entity} {row : Entity}
    (split : r.entities = before ++ row :: after) (entity : Entity)
    (same : KeyMap.get? entity r.primary = KeyMap.get? row r.primary) :
    ({ r with entities := before ++ entity :: after } : Rows).keys = r.keys := by
  simp only [Rows.keys, split, List.map_append, List.map_cons, same]

section Tasks

variable {s : Session} {r : Rows} {stored : List ModelId} {rest : List SyncTask} (h : s.Working r stored)
include h

theorem Working.address {id : ModelId} {m : Model} (hid : id ∈ stored) (found : s.source.model? id = some m) :
    ∃ before row after front back key, r.entities = before ++ row :: after ∧ stored = front ++ id :: back ∧
      s.source.Mirrored before front ∧ Model.Mirrors row m ∧ s.source.Mirrored after back ∧
      Source.keyOf m = .ok key ∧ r.Locates key before row after := by
  obtain ⟨before, row, after, front, back, rows, listed, below, mirrors, above⟩ := h.inStep.locate hid found
  obtain ⟨key, read, located⟩ := Rows.locates_of_distinct h.distinct rows
  have keyOf : Source.keyOf m = .ok key := by
    have same := mirrors.key
    rw [Model.primary_of_standard (h.inStep.toPlain.schema found), ← h.primary] at same
    rw [Source.keyOf, ← same]
    rw [PrimaryKey.ofField?] at read
    rw [read]
  exact ⟨before, row, after, front, back, key, rows, listed, below, mirrors, above, keyOf, located⟩

theorem Working.create {id : ModelId} (covered : s.source.changes.Covered (.create id :: rest)) (owner : Owner) :
    ∃ t, s.runSync owner (.create id :: rest) = t.runSync owner rest ∧ s.GoesOn t rest := by
  by_cases added : id ∈ s.source.changes.added
  · obtain ⟨m, found⟩ := Source.model?_of_lt (h.inStep.toPending.known id (.inl added))
    have entity : s.source.entity id = m.toEntity := by rw [Source.entity, found]; rfl
    have next : s.source.syncNext (.create id :: rest) = .call (.create id m.toEntity) rest s.source := by
      rw [Source.syncNext_create rest added, entity]
    have falsy : Json.truthy (KeyMap.get? m.toEntity r.primary) = false := by
      have isNew := h.inStep.added_new id added
      obtain ⟨fields, root, -⟩ := (h.inStep.intact id m found).isObject
      rw [Source.holds, found, Option.any_some, Model.isNew, Model.key?,
        Model.primary_of_standard (h.inStep.toPlain.schema found), Model.field?_of_root root] at isNew
      rw [h.primary, Model.toEntity_of_root root]
      simpa using isNew
    have nonempty := IdSupply.text_ne_empty s.ids.purpose s.ids.drawn
    have result := Rows.call_create r s.ids falsy
    have created := h.inStep.create added found nonempty
    have keys : ({ r with entities := r.entities ++ [KeyMap.insert m.toEntity r.primary
        (.str (IdSupply.text s.ids.purpose s.ids.drawn))] } : Rows).keys =
        r.keys ++ [some (.str (IdSupply.text s.ids.purpose s.ids.drawn))] := by
      simp only [Rows.keys, List.map_append, List.map_cons, List.map_nil, KeyMap.get?_insert_self]
    have distinct := h.distinct.append_text nonempty (h.fresh s.ids.drawn (Nat.le_refl _))
    have fresh := h.fresh.next
    rw [← keys] at distinct fresh
    rw [← h.primary] at created
    refine ⟨_, runSync_call h.provider h.stopAt next result, rfl,
      ⟨_, _, ⟨rfl, h.stopAt, h.primary, distinct, fresh⟩, created⟩, covered.create ?_ rfl rfl⟩
    exact fun other ho => h.inStep.added.mem_erase_iff.1 ho
  · have same := Source.syncNext_create_of_settled rest added
    refine ⟨_, runSync_skip same, rfl, ⟨r, stored, h⟩, covered.create (fun other ho => ⟨?_, ho⟩) rfl rfl⟩
    rintro rfl
    exact added ho

theorem Working.update {id : ModelId} (covered : s.source.changes.Covered (.update id :: rest)) (owner : Owner) :
    ∃ t, s.runSync owner (.update id :: rest) = t.runSync owner rest ∧ s.GoesOn t rest := by
  by_cases updated : id ∈ s.source.changes.updated
  · obtain ⟨m, found⟩ := Source.model?_of_lt (h.inStep.toPending.known id (.inr (.inl updated)))
    have left : ∀ other ∈ s.source.changes.updated.erase id, other ≠ id ∧ other ∈ s.source.changes.updated :=
      fun other ho => h.inStep.updated.mem_erase_iff.1 ho
    cases dirty : m.isDirty with
    | false =>
      have same := Source.syncNext_update_of_clean rest updated found dirty
      exact ⟨_, runSync_skip same, rfl, ⟨r, stored, h.with_source _, h.inStep.clean found dirty⟩,
        covered.update rfl left rfl⟩
    | true =>
      obtain ⟨before, row, after, front, back, key, rows, split, below, mirrors, above, keyOf, located⟩ :=
        h.address (h.inStep.stored_of_updated updated) found
      have next : s.source.syncNext (.update id :: rest) = .call (.update id key m.dirtyFields) rest s.source := by
        rw [Source.syncNext_update rest updated found dirty, Source.keyedCall_of_ok rest keyOf]
      have result := Rows.call_update located s.ids m.dirtyFields
      have inStep := h.inStep
      rw [rows, split] at inStep
      obtain ⟨merged, same⟩ := inStep.update found below mirrors above key
      rw [← h.primary] at same
      have keys := keys_middle rows (KeyMap.union row m.dirtyFields) same
      exact ⟨_, runSync_call h.provider h.stopAt next result, rfl,
        ⟨_, _, ⟨rfl, h.stopAt, h.primary, keys ▸ h.distinct, keys ▸ h.fresh⟩, merged⟩, covered.update rfl left rfl⟩
  · have same := Source.syncNext_update_of_settled rest updated
    refine ⟨_, runSync_skip same, rfl, ⟨r, stored, h⟩, covered.update rfl (fun other ho => ⟨?_, ho⟩) rfl⟩
    rintro rfl
    exact updated ho

theorem Working.remove {id : ModelId} (covered : s.source.changes.Covered (.remove id :: rest)) (owner : Owner) :
    ∃ t, s.runSync owner (.remove id :: rest) = t.runSync owner rest ∧ s.GoesOn t rest := by
  by_cases pending : id ∈ s.source.changes.removed
  · obtain ⟨m, found⟩ := Source.model?_of_lt (h.inStep.toPending.known id (.inr (.inr pending)))
    obtain ⟨before, row, after, front, back, key, rows, split, below, -, above, keyOf, located⟩ :=
      h.address ((h.inStep.mem_stored id).2 (.inr pending)) found
    have next : s.source.syncNext (.remove id :: rest) = .call (.remove id key) rest s.source := by
      rw [Source.syncNext_remove rest pending found, Source.keyedCall_of_ok rest keyOf]
    have result := Rows.call_remove located s.ids
    have inStep := h.inStep
    rw [rows, split] at inStep
    have removed := inStep.remove below above pending key
    have sub : ({ r with entities := before ++ after } : Rows).keys.Sublist r.keys := by
      simp only [Rows.keys, rows]
      exact ((List.Sublist.refl before).append (List.sublist_cons_self row after)).map _
    refine ⟨_, runSync_call h.provider h.stopAt next result, rfl,
      ⟨_, _, ⟨rfl, h.stopAt, h.primary, h.distinct.sublist sub, h.fresh.sublist sub⟩, removed⟩,
      covered.remove rfl rfl ?_⟩
    exact fun other ho => h.inStep.removed.mem_erase_iff.1 ho
  · have same := Source.syncNext_remove_of_settled rest pending
    refine ⟨_, runSync_skip same, rfl, ⟨r, stored, h⟩, covered.remove rfl rfl fun other ho => ⟨?_, ho⟩⟩
    rintro rfl
    exact pending ho

end Tasks

theorem GoesOn.trans {s t u : Session} {tasks rest : List SyncTask} (h : s.GoesOn t tasks) (k : t.GoesOn u rest) :
    s.GoesOn u rest where
  frame := by rw [k.frame, h.frame]
  working := k.working
  covered := k.covered

/-- A sync whose tasks cover all that is pending succeeds and leaves nothing pending, and the source takes note of its
members. -/
theorem runSync_working {s : Session} {r : Rows} {stored : List ModelId} (h : s.Working r stored)
    {tasks : List SyncTask} (covered : s.source.changes.Covered tasks) (owner : Owner) :
    ∃ t, s.runSync owner tasks = t.complete owner (.ok []) ∧ s.GoesOn t [] ∧ t.source.origin = t.source.entities := by
  induction tasks generalizing s r stored with
  | nil =>
    refine ⟨_, runSync_finished rfl, ⟨rfl, ⟨r, stored, h.with_source _, ?_⟩, covered⟩, rfl⟩
    exact h.inStep.of_same s.source.entities s.source.scheduled
  | cons task rest ih =>
    have first : ∃ t, s.runSync owner (task :: rest) = t.runSync owner rest ∧ s.GoesOn t rest := by
      cases task with
      | create id => exact h.create covered owner
      | update id => exact h.update covered owner
      | remove id => exact h.remove covered owner
    obtain ⟨t, same, goesOn⟩ := first
    obtain ⟨r', stored', working⟩ := goesOn.working
    obtain ⟨u, done, later, origin⟩ := ih working goesOn.covered
    exact ⟨u, same.trans done, goesOn.trans later, origin⟩

end Session

end RecordSync
