import RecordSync.Proofs.Session.Convergence
import RecordSync.Proofs.Source.History

/-!
# What a sync leaves of local edits

A sync over rows in memory leaves the working copies of all models as they are, with three exceptions. A model that is
created receives the key that was generated for it. A clean field takes over what its row has in place of the committed
value. And a field that was deleted comes back from the row: only fields that are there are sent, and the row keeps what
it is not told of.
-/

set_option autoImplicit false

namespace RecordSync

def Rows.rowOf? (r : Rows) (m : Model) : Option Entity := (Source.keyOf m).toOption.bind r.find?

def SyncTask.stage : SyncTask → Nat
  | .create _ => 0
  | .update _ => 1
  | .remove _ => 2

structure SyncTask.Staged (tasks : List SyncTask) : Prop where
  nodup : tasks.Nodup
  ascending : tasks.Pairwise fun a b => a.stage ≤ b.stage

theorem SyncTask.Staged.suffix {tasks rest : List SyncTask} (h : Staged tasks) (suffix : rest <:+ tasks) :
    Staged rest where
  nodup := suffix.sublist.nodup h.nodup
  ascending := h.ascending.sublist suffix.sublist

namespace Source

variable {s t : Source} {r now : Rows} {id : ModelId} {m : Model}

def Sends (s : Source) (r : Rows) (row : Entity) (name : String) (value : Json) : Prop :=
  ∃ id ∈ s.changes.updated, ∃ m, s.model? id = some m ∧ r.rowOf? m = some row ∧ name ∈ m.dirty ∧
    m.field? name = some value

/-- A row has a value, or is about to be told of it. -/
def Offers (s : Source) (r : Rows) (row : Entity) (name : String) (value : Json) : Prop :=
  KeyMap.get? row name = some value ∨ s.Sends r row name value

inductive Alters (s : Source) (r : Rows) (id : ModelId) (m : Model) (name : String) : Json → Prop where
  /-- The model is created without a key. -/
  | generated {key : String} (added : id ∈ s.changes.added) (primary : name = r.primary)
      (keyless : Json.truthy (m.field? name) = false) : Alters s r id m name (.str key)
  /-- The field was not edited, and its row does not have the committed value. -/
  | foreign {row : Entity} {value : Json} (updated : id ∈ s.changes.updated) (here : r.rowOf? m = some row)
      (clean : name ∉ m.dirty) (differs : ¬ (KeyMap.get? m.committed name == some value) = true)
      (offers : s.Offers r row name value) : Alters s r id m name value
  /-- The field was deleted, and its row still has it. -/
  | returned {row : Entity} {value : Json} (updated : id ∈ s.changes.updated) (here : r.rowOf? m = some row)
      (dirty : name ∈ m.dirty) (deleted : m.field? name = none) (offers : s.Offers r row name value) :
      Alters s r id m name value

def Leaves (s : Source) (r : Rows) (id : ModelId) (m : Model) (name : String) (after : Option Json) : Prop :=
  after = m.field? name ∨ ∃ value, after = some value ∧ s.Alters r id m name value

/-- The row of every model whose update is pending is there, and the key of the row is not edited. -/
structure Aligned (s : Source) (r : Rows) : Prop where
  located : ∀ id ∈ s.changes.updated, ∀ m, s.model? id = some m → ∀ key, keyOf m = .ok key → (r.find? key).isSome = true
  spared : ∀ id ∈ s.changes.updated, ∀ m, s.model? id = some m → r.primary ∉ m.dirty

theorem Aligned.rowOf? (h : s.Aligned r) (updated : id ∈ s.changes.updated) (found : s.model? id = some m)
    {key : PrimaryKey} (keyed : keyOf m = .ok key) : ∃ row, r.find? key = some row ∧ r.rowOf? m = some row := by
  obtain ⟨row, here⟩ := Option.isSome_iff_exists.1 (h.located id updated m found key keyed)
  refine ⟨row, here, ?_⟩
  rw [Rows.rowOf?, keyed]
  exact here

def isAligned (s : Source) (r : Rows) : Bool :=
  s.changes.updated.all fun id => (s.model? id).all fun m => (r.rowOf? m).isSome && !m.dirty.contains r.primary

theorem aligned_of_isAligned (h : s.isAligned r = true) : s.Aligned r := by
  have each {id : ModelId} {m : Model} (updated : id ∈ s.changes.updated) (found : s.model? id = some m) :
      (r.rowOf? m).isSome = true ∧ r.primary ∉ m.dirty := by
    have both := List.all_eq_true.1 h id updated
    rw [found] at both
    simpa using both
  refine ⟨fun id updated m found key keyed => ?_, fun id updated m found => (each updated found).2⟩
  have here := (each updated found).1
  rwa [Rows.rowOf?, keyed] at here

/-- A new model comes back with all of its fields, and with a key if it has none. -/
theorem leaves_create (accounted : m.Accounted) (added : id ∈ s.changes.added) (ids : IdSupply) (name : String) :
    s.Leaves r id m name ((m.rebase (m.toEntity.withKey r.primary ids).1).model.field? name) := by
  obtain ⟨fields, root, ordered⟩ := accounted.isObject
  have own : KeyMap.get? m.toEntity name = m.field? name := by
    rw [Model.toEntity_of_root root, Model.field?_of_root root]
  rw [← Model.toEntity_of_root root] at ordered
  by_cases keyed : Json.truthy (KeyMap.get? m.toEntity r.primary) = true
  · rw [Entity.withKey, if_pos keyed, Model.rebase_field? accounted ordered, own, Model.overwrite_self]
    exact .inl rfl
  · rw [Entity.withKey, if_neg keyed, Model.rebase_field? accounted (ordered.insert _ _), KeyMap.get?_insert]
    by_cases primary : r.primary = name
    · rw [if_pos primary, Model.overwrite]
      by_cases same : (m.field? name == some (.str ids.next.1)) = true
      · rw [if_pos same]
        exact .inl rfl
      · rw [if_neg same]
        rw [primary, own, Bool.not_eq_true] at keyed
        exact .inr ⟨_, rfl, .generated added primary.symm keyed⟩
    · rw [if_neg primary, own, Model.overwrite_self]
      exact .inl rfl

/-- An update comes back as the merged row: what was sent is in it, and all else is from the row. -/
theorem leaves_update {row start : Entity} (accounted : m.Accounted) (ordered : KeyMap.Ordered row)
    (updated : id ∈ s.changes.updated) (here : r.rowOf? m = some start)
    (offers : ∀ name value, KeyMap.get? row name = some value → s.Offers r start name value) (name : String) :
    s.Leaves r id m name ((m.rebase (KeyMap.union row m.dirtyFields)).model.field? name) := by
  rw [Model.rebase_field? accounted (ordered.union _), Model.get?_union_dirtyFields accounted]
  by_cases dirty : name ∈ m.dirty
  · rw [if_pos dirty]
    cases shown : m.field? name with
    | some value =>
      rw [Option.some_or, Model.overwrite_self]
      exact .inl shown.symm
    | none =>
      cases has : KeyMap.get? row name with
      | none => exact .inl shown.symm
      | some value => exact .inr ⟨value, rfl, .returned updated here dirty shown (offers name value has)⟩
  · rw [if_neg dirty, Option.none_or]
    cases has : KeyMap.get? row name with
    | none => exact .inl rfl
    | some value =>
      by_cases same : (m.field? name == some value) = true
      · rw [Model.overwrite, if_pos same]
        exact .inl rfl
      · rw [Model.overwrite, if_neg same]
        refine .inr ⟨value, rfl, .foreign updated here dirty (fun equal => same ?_) (offers name value has)⟩
        exact BEq.trans (Model.beq_committed accounted dirty) equal

structure Grows (s : Source) (r : Rows) (row start : Entity) : Prop where
  ordered : KeyMap.Ordered row
  key : KeyMap.get? row r.primary = KeyMap.get? start r.primary
  offers : ∀ name value, KeyMap.get? row name = some value → s.Offers r start name value

theorem Grows.update {row start : Entity} (h : s.Grows r row start) (aligned : s.Aligned r)
    (accounted : m.Accounted) (updated : id ∈ s.changes.updated) (found : s.model? id = some m)
    (here : r.rowOf? m = some start) : s.Grows r (KeyMap.union row m.dirtyFields) start where
  ordered := h.ordered.union _
  key := by
    rw [Model.get?_union_dirtyFields accounted, if_neg (aligned.spared id updated m found)]
    exact h.key
  offers := by
    intro name value has
    rw [Model.get?_union_dirtyFields accounted] at has
    by_cases dirty : name ∈ m.dirty
    · rw [if_pos dirty] at has
      cases shown : m.field? name with
      | none => exact h.offers name value (by rwa [shown] at has)
      | some sent =>
        rw [shown, Option.some_or] at has
        exact .inr ⟨id, updated, m, found, here, dirty, shown.trans has⟩
    · rw [if_neg dirty] at has
      exact h.offers name value has

/-- The rows up to the first removal: those there were, each in its place, and behind them those that were created. -/
structure Extends (s : Source) (r now : Rows) : Prop where
  primary : now.primary = r.primary
  rows : ∃ front created, now.entities = front ++ created ∧ List.Forall₂ (s.Grows r) front r.entities

theorem Extends.refl (ordered : ∀ row ∈ r.entities, KeyMap.Ordered row) : s.Extends r r where
  primary := rfl
  rows := by
    refine ⟨r.entities, [], (List.append_nil _).symm, List.forall₂_same.2 fun row listed => ?_⟩
    exact ⟨ordered row listed, rfl, fun _ _ has => .inl has⟩

theorem Extends.create (h : s.Extends r now) (entity : Entity) :
    s.Extends r { now with entities := now.entities ++ [entity] } where
  primary := h.primary
  rows := by
    obtain ⟨front, created, split, grown⟩ := h.rows
    exact ⟨front, created ++ [entity], by rw [split, List.append_assoc], grown⟩

/-- A key leads to the row it led to in the beginning, and that row can be exchanged. -/
theorem Extends.locates (h : s.Extends r now) {key : PrimaryKey} {start : Entity} (found : r.find? key = some start) :
    ∃ before row after, now.Locates key before row after ∧ s.Grows r row start ∧
      ∀ merged, s.Grows r merged start → s.Extends r { now with entities := before ++ merged :: after } := by
  obtain ⟨front, created, split, grown⟩ := h.rows
  obtain ⟨matched, before, after, rows, first⟩ := List.find?_eq_some_iff_append.1 found
  rw [rows] at grown
  obtain ⟨earlier, row, later, rfl, below, here, above⟩ := forall₂_split grown
  have same {row start : Entity} (grows : s.Grows r row start) : now.hasKey key row = r.hasKey key start := by
    rw [Rows.hasKey, Rows.hasKey, h.primary, grows.key]
  refine ⟨earlier, row, later ++ created, ⟨by simp [split], (same here).trans matched, ?_⟩, here, ?_⟩
  · intro other listed
    obtain ⟨old, known, grows⟩ := forall₂_exists_right below listed
    rw [same grows]
    simpa using first old known
  · intro merged grows
    refine ⟨h.primary, earlier ++ merged :: later, created, by simp, ?_⟩
    rw [rows]
    exact List.rel_append below (.cons grows above)

theorem staged_syncTasks (h : s.Pending) : SyncTask.Staged s.syncTasks where
  nodup := nodup_syncTasks h
  ascending := by
    have level (ids : List ModelId) (f : ModelId → SyncTask) (n : Nat) (all : ∀ id, (f id).stage = n) :
        (ids.map f).Pairwise fun a b => a.stage ≤ b.stage := by
      rw [List.pairwise_map]
      exact List.pairwise_of_forall fun a b => Nat.le_of_eq ((all a).trans (all b).symm)
    refine List.pairwise_append.2 ⟨List.pairwise_append.2 ⟨level _ _ 0 fun _ => rfl, level _ _ 1 fun _ => rfl, ?_⟩,
      level _ _ 2 fun _ => rfl, ?_⟩
    · simp [SyncTask.stage]
    · simp only [List.mem_append, List.mem_map]
      rintro _ (⟨_, -, rfl⟩ | ⟨_, -, rfl⟩) _ ⟨_, -, rfl⟩
      · exact Nat.zero_le 2
      · exact Nat.le_succ 1

/-- The call is made for one of the tasks, and those behind it are left. -/
theorem suffix_of_syncNext {tasks rest : List SyncTask} {call : SyncCall}
    (next : s.syncNext tasks = .call call rest t) : call.task :: rest <:+ tasks := by
  have keyed {s : Source} {m : Model} {f : PrimaryKey → SyncCall} {task : SyncTask} {tasks : List SyncTask}
      (h : s.keyedCall m f tasks = .call call rest t) (same : ∀ key, (f key).task = task) :
      call.task :: rest <:+ task :: tasks := by
    unfold keyedCall at h
    split at h
    · next key found =>
      cases h
      exact same key ▸ List.suffix_rfl
    · cases h
  induction tasks generalizing s with
  | nil => cases next
  | cons task tasks ih =>
    have skip {s : Source} (next : s.syncNext tasks = .call call rest t) : call.task :: rest <:+ task :: tasks :=
      (ih next).trans (List.suffix_cons task tasks)
    cases task with
    | create id =>
      rw [syncNext] at next
      split at next
      · cases next
        exact List.suffix_rfl
      · exact skip next
    | update id =>
      rw [syncNext] at next
      split at next
      · exact skip next
      · split at next
        · exact skip next
        · split at next
          · exact skip next
          · exact keyed next fun _ => rfl
    | remove id =>
      rw [syncNext] at next
      split at next
      · exact skip next
      · split at next
        · exact skip next
        · exact keyed next fun _ => rfl

/-- What has become of the models when some tasks are left. A model that is not as it was has been sent, and is not
created later. -/
structure Tracks (s : Source) (r : Rows) (tasks : List SyncTask) (t : Source) : Prop where
  data : t.data = s.data
  added : t.changes.added ⊆ s.changes.added
  updated : t.changes.updated ⊆ s.changes.updated
  models : ∀ id, t.model? id = s.model? id ∨ SyncTask.create id ∉ tasks ∧
    ∃ m new, s.model? id = some m ∧ t.model? id = some new ∧ new.isDirty = false ∧
      ∀ name, s.Leaves r id m name (new.field? name)

namespace Tracks

variable {tasks rest : List SyncTask}

theorem refl (s : Source) (r : Rows) (tasks : List SyncTask) : s.Tracks r tasks s :=
  ⟨rfl, fun _ listed => listed, fun _ listed => listed, fun _ => .inl rfl⟩

theorem advance (h : s.Tracks r tasks t) (suffix : rest <:+ tasks) : s.Tracks r rest (t.syncNext tasks).source := by
  obtain ⟨updated, origin, shape, sub⟩ := syncNext_source t tasks
  rw [shape]
  refine ⟨h.data, h.added, fun id listed => h.updated (sub.subset listed), fun id => ?_⟩
  exact (h.models id).imp_right (And.imp_left fun gone listed => gone (suffix.subset listed))

/-- The answer of a call is written into a model that is as it was. -/
theorem rebind {task : SyncTask} (h : s.Tracks r (task :: rest) t) (found : s.model? id = some m)
    (same : t.model? id = some m) (saved : Entity) {changes : Changes} (added : changes.added ⊆ t.changes.added)
    (updated : changes.updated ⊆ t.changes.updated) (last : SyncTask.create id ∉ rest)
    (leaves : ∀ name, s.Leaves r id m name ((m.rebase saved).model.field? name)) :
    s.Tracks r rest { t.rebind id saved with changes } where
  data := h.data
  added := fun _ listed => h.added (added listed)
  updated := fun _ listed => h.updated (updated listed)
  models := by
    intro other
    by_cases here : other = id
    · subst here
      have written := (rebind_model?_self t other saved).trans (congrArg _ same)
      exact .inr ⟨last, m, (m.rebase saved).model, found, written, rfl, leaves⟩
    · have apart : (t.rebind id saved).model? other = t.model? other := rebind_model?_of_ne here saved
      refine (h.models other).imp apart.trans fun ⟨gone, old, new, before, after, others⟩ => ?_
      exact ⟨fun listed => gone (.tail _ listed), old, new, before, apart.trans after, others⟩

theorem accept {call : SyncCall} {answer : call.request.Answer} {ids ids' : IdSupply} {now' : Rows}
    (h : s.Tracks r (call.task :: rest) t) (sound : s.Sound) (pending : s.Pending) (aligned : s.Aligned r)
    (staged : SyncTask.Staged (call.task :: rest)) (rows : call.task.stage < 2 → s.Extends r now) (calls : t.Calls call)
    (answered : now.call ids call.request = (.ok answer, now', ids')) :
    s.Tracks r rest (t.accept call answer) ∧ ∀ task ∈ rest, task.stage < 2 → s.Extends r now' := by
  obtain ⟨fresh, -⟩ := List.nodup_cons.1 staged.nodup
  obtain ⟨above, -⟩ := List.pairwise_cons.1 staged.ascending
  cases calls with
  | @create id added =>
    have extended := rows Nat.zero_lt_two
    obtain ⟨m, found⟩ := model?_of_lt (pending.known id (.inl (h.added added)))
    have same : t.model? id = some m := by
      rcases h.models id with kept | ⟨gone, -⟩
      · rw [kept, found]
      · exact absurd (.head _) gone
    have entity : t.entity id = m.toEntity := by rw [Source.entity, same]; rfl
    obtain ⟨made, stored⟩ := Prod.mk.inj answered
    obtain rfl : ((t.entity id).withKey now.primary ids).1 = answer := Except.ok.inj made
    obtain rfl := (Prod.mk.inj stored).1
    refine ⟨h.rebind found same _ (fun _ => List.mem_of_mem_erase) (fun _ listed => listed) fresh ?_,
      fun _ _ _ => extended.create _⟩
    rw [entity, extended.primary]
    exact leaves_create (sound.accounted id m found) (h.added added) ids
  | @update id m key updated same dirty keyed =>
    have extended := rows Nat.one_lt_two
    -- A model that has been sent is clean, so this one is as it was.
    have found : s.model? id = some m := by
      rcases h.models id with kept | ⟨-, old, new, -, after, clean, -⟩
      · rw [← kept, same]
      · rw [same, Option.some.injEq] at after
        rw [after, clean] at dirty
        cases dirty
    obtain ⟨start, here, row⟩ := aligned.rowOf? (h.updated updated) found keyed
    obtain ⟨before, merged, after, located, grows, exchange⟩ := extended.locates here
    obtain ⟨made, stored⟩ := Prod.mk.inj ((Rows.call_update located ids m.dirtyFields).symm.trans answered)
    obtain rfl : KeyMap.union merged m.dirtyFields = answer := Except.ok.inj made
    obtain rfl := (Prod.mk.inj stored).1
    have accounted := sound.accounted id m found
    have last : SyncTask.create id ∉ rest := fun listed => absurd (above _ listed) (Nat.not_succ_le_zero 0)
    refine ⟨h.rebind found same _ (fun _ listed => listed) (fun _ => List.mem_of_mem_erase) last ?_, fun _ _ _ => ?_⟩
    · exact leaves_update accounted grows.ordered (h.updated updated) row grows.offers
    · exact exchange _ (grows.update aligned accounted (h.updated updated) found row)
  | @remove id m key removed same keyed =>
    refine ⟨⟨h.data, h.added, h.updated, fun other => ?_⟩, fun task listed early => ?_⟩
    · exact (h.models other).imp_right (And.imp_left fun gone listed => gone (.tail _ listed))
    · exact absurd (above task listed) (Nat.not_le.2 early)

end Tracks

/-- A sync from a list of tasks on whose calls are all carried out by rows in memory. -/
inductive RowsRun : Source → Rows → IdSupply → List SyncTask → Source → Prop where
  | finished {s t : Source} {r : Rows} {ids : IdSupply} {tasks : List SyncTask}
      (next : s.syncNext tasks = .finished t) : RowsRun s r ids tasks t
  | accepted {s t u : Source} {r r' : Rows} {ids ids' : IdSupply} {tasks rest : List SyncTask} {call : SyncCall}
      {answer : call.request.Answer} (next : s.syncNext tasks = .call call rest t)
      (answered : r.call ids call.request = (.ok answer, r', ids'))
      (later : RowsRun (t.accept call answer) r' ids' rest u) : RowsRun s r ids tasks u

theorem RowsRun.tracks {u : Source} {ids : IdSupply} {tasks : List SyncTask} (run : t.RowsRun now ids tasks u)
    (sound : s.Sound) (pending : s.Pending) (aligned : s.Aligned r) (staged : SyncTask.Staged tasks)
    (h : s.Tracks r tasks t) (rows : ∀ task ∈ tasks, task.stage < 2 → s.Extends r now) : s.Tracks r [] u := by
  -- The rows are known only as long as something is left to create or to update: a removal can uncover another row of
  -- the same key, but then no answer is written into a model any more.
  induction run with
  | @finished t u now ids tasks next =>
    have last := h.advance List.nil_suffix
    rwa [next] at last
  | @accepted t u v now now' ids ids' tasks rest call answer next answered later ih =>
    have suffix := suffix_of_syncNext next
    have reached := h.advance suffix
    rw [next] at reached
    have before (early : call.task.stage < 2) : s.Extends r now := rows _ (suffix.subset (.head _)) early
    obtain ⟨tracks, after⟩ :=
      reached.accept sound pending aligned (staged.suffix suffix) before (calls_of_syncNext next) answered
    exact ih (staged.suffix ((List.suffix_cons _ _).trans suffix)) tracks after

end Source

namespace Session

/-- Nothing is under way, and the caller has picked up all outcomes. -/
structure Idle (s : Session) : Prop where
  suspended : s.suspended = none
  stopAt : s.stopAt = 0
  outcomes : s.outcomes.lookup .caller = none

/-- A sync over rows in memory fails, or all of its calls are carried out. -/
theorem runSync_rows {s : Session} {r : Rows} (provider : s.provider = .rows r) (stopAt : s.stopAt = 0) (owner : Owner)
    (tasks : List SyncTask) :
    ∃ t : Session, t.outcomes = s.outcomes ∧
      ((∃ e, s.runSync owner tasks = t.complete owner (.error e)) ∨
        s.source.RowsRun r s.ids tasks t.source ∧ s.runSync owner tasks = t.complete owner (.ok [])) := by
  cases next : s.source.syncNext tasks with
  | finished t => exact ⟨{ s with source := t }, rfl, .inr ⟨.finished next, runSync_finished next⟩⟩
  | failed e t => exact ⟨{ s with source := t }, rfl, .inl ⟨e, by rw [runSync_eq, next]⟩⟩
  | call call rest t =>
    obtain ⟨outcome, r', ids, answered⟩ : ∃ outcome r' ids, r.call s.ids call.request = (outcome, r', ids) :=
      ⟨_, _, _, rfl⟩
    cases outcome with
    | error e =>
      have called := @call_rows { s with source := t } r r' call.request (.error e) ids provider stopAt answered
      refine ⟨{ s with source := t, provider := .rows r', ids }, rfl, .inl ⟨.provider e, ?_⟩⟩
      rw [runSync_eq, next]
      dsimp only
      rw [called]
    | ok answer =>
      obtain ⟨last, outcomes, ended⟩ :=
        @runSync_rows { s with source := t.accept call answer, provider := .rows r', ids } r' rfl stopAt owner rest
      refine ⟨last, outcomes, ?_⟩
      rw [runSync_call provider stopAt next answered]
      exact ended.imp_right (And.imp_left (.accepted next answered))
  termination_by tasks.length
  decreasing_by exact Source.syncNext_rest_lt next

theorem rowsRun_of_run {s : Session} {r : Rows} (idle : s.Idle) (provider : s.provider = .rows r)
    (ok : (s.run .sync).1 = some (.ok [])) :
    s.source.RowsRun r s.ids s.source.syncTasks (s.run .sync).2.source := by
  have free : s.isSyncing = false := by rw [isSyncing, idle.suspended]
  have started : s.startOperation .sync .caller = s.runSync .caller s.source.syncTasks := by
    simp only [startOperation, startSync, free, Bool.false_eq_true, if_false]
  obtain ⟨t, outcomes, ⟨e, failed⟩ | ⟨run, done⟩⟩ := runSync_rows provider idle.stopAt .caller s.source.syncTasks
  · rw [run, started, failed] at ok
    have told : (t.outcomes ++ [(Owner.caller, Except.error e)]).lookup Owner.caller = some (.ok []) := ok
    rw [List.lookup_append, outcomes, idle.outcomes] at told
    cases told
  · rw [Session.run, started, done]
    exact run

/-- After a sync over rows in memory that succeeds the members are the same, and each field of a model is as it was,
unless the model received a key, the row of the model differs from the committed copy in a field that was not edited, or
the row still has a field that was deleted. -/
theorem leaves_of_sync {allowed : List SourceEvent → Source → SourceEvent → Prop} {log : List SourceEvent} {s : Session}
    {r : Rows} (history : Source.History allowed log s.source) (idle : s.Idle) (provider : s.provider = .rows r)
    (ordered : ∀ row ∈ r.entities, KeyMap.Ordered row) (aligned : s.source.Aligned r)
    (ok : (s.run .sync).1 = some (.ok [])) :
    (s.run .sync).2.source.data = s.source.data ∧
      ∀ id m, s.source.model? id = some m → ∃ new, (s.run .sync).2.source.model? id = some new ∧
        ∀ name, s.source.Leaves r id m name (new.field? name) := by
  have pending := history.reachable_any.orderly.toPending
  have tracks := (rowsRun_of_run idle provider ok).tracks history.sound pending aligned
    (Source.staged_syncTasks pending) (.refl _ _ _) fun _ _ _ => .refl ordered
  refine ⟨tracks.data, fun id m found => ?_⟩
  rcases tracks.models id with kept | ⟨-, old, new, before, after, -, leaves⟩
  · exact ⟨m, kept.trans found, fun _ => .inl rfl⟩
  · rw [found, Option.some.injEq] at before
    exact ⟨new, after, before ▸ leaves⟩

def edited? (schema : EntityRules) (r : Rows) (commands : List SourceCommand) : Option Session := do
  let (_, fetched) ←
    ((Source.empty schema [] false .disabled).load { data := r.entities, total := none, extra := [] }).toOption
  let source ← fetched.performAll? commands
  return Session.start source (.rows r) .keys

theorem edited?_history {schema : EntityRules} {r : Rows} {commands : List SourceCommand} {s : Session}
    (ordered : ∀ row ∈ r.entities, KeyMap.Ordered row) (alone : ∀ command ∈ commands, command.items = [])
    (found : edited? schema r commands = some s) :
    (∃ log, Source.History (fun _ _ _ => True) log s.source) ∧ s.Idle ∧ s.provider = .rows r := by
  obtain ⟨⟨ids, fetched⟩, loaded, later⟩ := Option.bind_eq_some_iff.1 found
  obtain ⟨source, done, made⟩ := Option.bind_eq_some_iff.1 later
  cases made
  have start : Source.History (fun _ _ _ => True) [] _ := .start schema VirtualFields.composed_nil false .disabled
  have first := start.next trivial (.load ordered (ok_of_toOption loaded))
  obtain ⟨events, history⟩ := first.performAll? (fun _ _ _ _ _ => trivial) alone done
  exact ⟨⟨_, history⟩, ⟨rfl, rfl, rfl⟩, rfl⟩

structure Synced (r : Rows) (s : Session) (m new : Model) : Prop where
  history : ∃ log, Source.History (fun _ _ _ => True) log s.source
  idle : s.Idle
  provider : s.provider = .rows r
  aligned : s.source.Aligned r
  ok : (s.run .sync).1 = some (.ok [])
  before : s.source.model? 0 = some m
  after : (s.run .sync).2.source.model? 0 = some new

theorem exists_synced {schema : EntityRules} {r : Rows} {commands : List SourceCommand} {p q : Model → Bool}
    (ordered : ∀ row ∈ r.entities, KeyMap.Ordered row) (alone : ∀ command ∈ commands, command.items = [])
    (shown : (edited? schema r commands).map (fun s => (s.source.isAligned r, (s.run .sync).1.bind Except.toOption,
      s.source.holds p 0, (s.run .sync).2.source.holds q 0)) = some (true, some [], true, true)) :
    ∃ s m new, edited? schema r commands = some s ∧ Synced r s m new ∧ p m = true ∧ q new = true := by
  obtain ⟨s, found, facts⟩ := Option.map_eq_some_iff.1 shown
  simp only [Prod.mk.injEq] at facts
  obtain ⟨aligned, ok, before, after⟩ := facts
  obtain ⟨history, idle, provider⟩ := edited?_history ordered alone found
  obtain ⟨m, known, hp⟩ := Source.exists_of_holds before
  obtain ⟨new, left, hq⟩ := Source.exists_of_holds after
  obtain ⟨outcome, picked, done⟩ := Option.bind_eq_some_iff.1 ok
  have finished : (s.run .sync).1 = some (.ok []) := by rw [picked, ok_of_toOption done]
  have synced : Synced r s m new :=
    ⟨history, idle, provider, Source.aligned_of_isAligned aligned, finished, known, left⟩
  exact ⟨s, m, new, found, synced, hp, hq⟩

/-- A name is changed, and a nested field is added. -/
theorem leaves_of_sync_sample : ∃ s m new,
    edited? .standard (numbered 1) [.edit 0 (.set "name" (.str "b")), .edit 0 (.setAt ["home", "city"] (.str "c"))] =
      some s ∧ (s.run .sync).1 = some (.ok []) ∧ s.source.model? 0 = some m ∧ m.isDirty = true ∧
      (s.run .sync).2.source.model? 0 = some new ∧ ∀ name, s.source.Leaves (numbered 1) 0 m name (new.field? name) := by
  obtain ⟨s, m, new, found, synced, dirty, -⟩ :=
    @exists_synced .standard (numbered 1)
      [.edit 0 (.set "name" (.str "b")), .edit 0 (.setAt ["home", "city"] (.str "c"))] Model.isDirty (fun _ => true)
      (numbered_ordered 1) (by simp [SourceCommand.items]) (by decide +kernel)
  obtain ⟨log, history⟩ := synced.history
  obtain ⟨-, each⟩ :=
    leaves_of_sync history synced.idle synced.provider (numbered_ordered 1) synced.aligned synced.ok
  obtain ⟨last, after, leaves⟩ := each 0 m synced.before
  exact ⟨s, m, last, found, synced.ok, synced.before, dirty, after, leaves⟩

def aged : Schema := { Schema.standard with properties := [("age", .ofType .number)] }

def agedRows : Rows := { primary := "id", entities := [[("age", .str "5"), ("id", .num (.int 1))]] }

/-- A name is deleted and comes back. A name is added, and another field is again what it was before it was cast. Nobody
else has written to the rows. -/
theorem not_kept_after_sync :
    (∃ s m new, edited? .standard (numbered 1) [.edit 0 (.remove ["name"])] = some s ∧ Synced (numbered 1) s m new ∧
      (m.field? "name").isNone = true ∧ (new.field? "name" == some (.str "a")) = true) ∧
    ∃ s m new, edited? aged agedRows [.edit 0 (.set "name" (.str "b"))] = some s ∧ Synced agedRows s m new ∧
      (m.field? "age" == some (.num (.int 5))) = true ∧ (new.field? "age" == some (.str "5")) = true := by
  have ordered : ∀ row ∈ agedRows.entities, KeyMap.Ordered row := by
    intro row listed
    obtain rfl := List.mem_singleton.1 listed
    have ascending : "age" < "id" := by decide
    exact List.pairwise_pair.2 ascending
  constructor
  · exact @exists_synced .standard (numbered 1) [.edit 0 (.remove ["name"])] (fun m => (m.field? "name").isNone)
      (fun m => m.field? "name" == some (.str "a")) (numbered_ordered 1) (by simp [SourceCommand.items])
      (by decide +kernel)
  · exact @exists_synced aged agedRows [.edit 0 (.set "name" (.str "b"))]
      (fun m => m.field? "age" == some (.num (.int 5))) (fun m => m.field? "age" == some (.str "5")) ordered
      (by simp [SourceCommand.items]) (by decide +kernel)

end Session

end RecordSync
