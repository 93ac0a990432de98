import Mathlib.Data.List.Nodup
import RecordSync.Proofs.Source.Coherence
import RecordSync.Provider.Command
import RecordSync.Source.Session

/-!
# What a sync sends

A sync goes through what is pending in order, stops at the first failure, and leaves pending what was not accepted. The
provider may answer each call as it likes; what it answers is written into the model of that call and into no other,
which is why everything that is sent can be told when the sync starts.
-/

set_option autoImplicit false

namespace RecordSync

def SyncTask.id : SyncTask → ModelId
  | .create id | .update id | .remove id => id

def SyncCall.task : SyncCall → SyncTask
  | .create id _ => .create id
  | .update id _ _ => .update id
  | .remove id _ => .remove id

structure Issued where
  call : SyncCall
  outcome : Outcome call.request.Answer

def Issued.accepted (issued : Issued) : Bool :=
  match issued.outcome with
  | .ok _ => true
  | .error _ => false

def Issued.served (issued : Issued) : Served := ⟨issued.call.request, issued.outcome⟩

def Issued.commands (log : List Issued) : List ProviderCommand := log.map fun issued => .request issued.call.request

theorem Issued.commands_append (log later : List Issued) : commands (log ++ later) = commands log ++ commands later :=
  List.map_append

namespace Source

/-- A sync from a list of tasks on: the calls it makes, the failure that ends it if there is one, and the source in the
end. -/
inductive SyncRun : Source → List SyncTask → List Issued → Option SourceError → Source → Prop where
  | finished {s t : Source} {tasks : List SyncTask} (next : s.syncNext tasks = .finished t) :
      SyncRun s tasks [] none t
  | failed {s t : Source} {tasks : List SyncTask} {e : SourceError} (next : s.syncNext tasks = .failed e t) :
      SyncRun s tasks [] (some e) t
  | refused {s t : Source} {tasks rest : List SyncTask} {call : SyncCall} (next : s.syncNext tasks = .call call rest t)
      (e : ProviderError) : SyncRun s tasks [⟨call, .error e⟩] (some (.provider e)) t
  | accepted {s t u : Source} {tasks rest : List SyncTask} {call : SyncCall} {log : List Issued}
      {failure : Option SourceError} (next : s.syncNext tasks = .call call rest t) (answer : call.request.Answer)
      (later : SyncRun (t.accept call answer) rest log failure u) :
      SyncRun s tasks (⟨call, .ok answer⟩ :: log) failure u

/-- Syncs one after the other, without edits in between, and all calls they make. -/
inductive Retries : Source → List Issued → Source → Prop where
  | none (s : Source) : Retries s [] s
  | again {s t u : Source} {log later : List Issued} {failure : Option SourceError}
      (run : s.SyncRun s.syncTasks log failure t) (rest : Retries t later u) : Retries s (log ++ later) u

/-- What a sync that starts now does for a task: the call it makes, or the failure for want of a key, or nothing. A
model that is created before its update comes up is clean by then. -/
def due (s : Source) : SyncTask → Option (Except SourceError SyncCall)
  | .create id => some (.ok (.create id (s.entity id)))
  | .update id => (s.model? id).bind fun m =>
    if m.isDirty && !s.changes.added.contains id then
      some ((keyOf m).map fun key => .update id key m.dirtyFields)
    else none
  | .remove id => (s.model? id).map fun m => (keyOf m).map fun key => .remove id key

def agenda (s : Source) : List (Except SourceError SyncCall) := s.syncTasks.filterMap s.due

inductive Progress (s : Source) (tasks : List SyncTask) : List Issued → Option SourceError → Source → Prop where
  /-- Everything was accepted, and nothing is pending. -/
  | finished {log : List Issued} {t : Source} (all : tasks.filterMap s.due = log.map (.ok ·.call))
      (accepted : ∀ issued ∈ log, issued.accepted = true) (settled : t.changes = {}) (noted : t.origin = t.entities) :
      Progress s tasks log none t
  /-- A model has no usable key; it and what comes after it are pending as before. -/
  | failed {log : List Issued} {first rest : List SyncTask} {failing : SyncTask} {e : SourceError} {t : Source}
      (split : tasks = first ++ failing :: rest) (before : first.filterMap s.due = log.map (.ok ·.call))
      (accepted : ∀ issued ∈ log, issued.accepted = true) (cause : s.due failing = some (.error e))
      (pending : t.syncTasks = failing :: rest) (origin : t.origin = s.origin) : Progress s tasks log (some e) t
  /-- The provider refuses a call; its model and what comes after it are pending as before. -/
  | refused {log : List Issued} {first rest : List SyncTask} {failing : SyncTask} {call : SyncCall}
      {e : ProviderError} {t : Source} (split : tasks = first ++ failing :: rest)
      (before : first.filterMap s.due = log.map (.ok ·.call)) (accepted : ∀ issued ∈ log, issued.accepted = true)
      (cause : s.due failing = some (.ok call)) (pending : t.syncTasks = failing :: rest)
      (origin : t.origin = s.origin) :
      Progress s tasks (log ++ [⟨call, .error e⟩]) (some (.provider e)) t

theorem exists_run (answer : (call : SyncCall) → Except ProviderError call.request.Answer) (s : Source)
    (tasks : List SyncTask) : ∃ log failure t, s.SyncRun tasks log failure t := by
  cases next : s.syncNext tasks with
  | finished t => exact ⟨_, _, t, .finished next⟩
  | failed e t => exact ⟨_, _, t, .failed next⟩
  | call call rest t =>
    cases answer call with
    | error e => exact ⟨_, _, t, .refused next e⟩
    | ok saved =>
      obtain ⟨log, failure, u, later⟩ := exists_run answer (t.accept call saved) rest
      exact ⟨_, failure, u, .accepted next saved later⟩
  termination_by tasks.length
  decreasing_by exact syncNext_rest_lt next

end Source

namespace Session

/-- A session that is not to stop in any call has the provider answer at once. -/
theorem call_of_free {s : Session} (free : s.stopAt = 0) (request : Request) :
    ∃ outcome provider ids, s.provider.call s.ids request = (outcome, provider, ids) ∧
      s.call request = (some outcome, { s with provider, ids }) := by
  have halves := s.provider.call_eq_halves s.ids request
  have unstopped : (s.stopAt == 1) = false := by rw [free]; rfl
  have same : s.stopAt - 1 = s.stopAt := by rw [free]
  unfold Session.call
  generalize s.provider.begin s.ids request = begun at halves ⊢
  obtain ⟨early, provider, ids⟩ := begun
  cases early with
  | some outcome => exact ⟨_, _, _, halves, rfl⟩
  | none =>
    refine ⟨_, _, _, halves, ?_⟩
    simp only [unstopped, Bool.and_false, Bool.false_eq_true, if_false, same]

theorem runSync_eq (s : Session) (owner : Owner) (tasks : List SyncTask) :
    s.runSync owner tasks =
      match s.source.syncNext tasks with
      | .finished source => { s with source }.complete owner (.ok [])
      | .failed e source => { s with source }.complete owner (.error e)
      | .call call rest source =>
        match { s with source }.call call.request with
        | (none, s) => { s with suspended := some (.sync owner call rest) }
        | (some (.error e), s) => s.complete owner (.error (.provider e))
        | (some (.ok answer), s) => { s with source := s.source.accept call answer }.runSync owner rest := by
  rw [runSync]
  split
  · next next => rw [next]
  · next next => rw [next]
  · next next => exact next ▸ rfl

/-- A sync of a session is such a run. The calls of its log are what the provider is asked for, and the outcomes in it
are what the provider answers. -/
theorem exists_run_of_runSync (s : Session) (free : s.stopAt = 0) (owner : Owner) (tasks : List SyncTask) :
    ∃ (log : List Issued) (failure : Option SourceError) (source : Source) (provider : Provider) (ids : IdSupply),
      s.source.SyncRun tasks log failure source ∧
        s.provider.performAll s.ids (Issued.commands log) = (log.map Issued.served, provider, ids) ∧
        s.runSync owner tasks = { s with source, provider, ids }.complete owner (failure.elim (.ok []) .error) := by
  cases next : s.source.syncNext tasks with
  | finished t => exact ⟨[], none, t, s.provider, s.ids, .finished next, rfl, by rw [runSync_eq, next]; rfl⟩
  | failed e t => exact ⟨[], some e, t, s.provider, s.ids, .failed next, rfl, by rw [runSync_eq, next]; rfl⟩
  | call call rest t =>
    obtain ⟨outcome, provider, ids, asked, called⟩ := @call_of_free { s with source := t } free call.request
    cases outcome with
    | error e =>
      have refused : s.provider.performAll s.ids [.request call.request] = _ := Provider.performAll_request asked []
      refine ⟨[⟨call, .error e⟩], some (.provider e), t, provider, ids, .refused next e, refused, ?_⟩
      rw [runSync_eq, next]
      dsimp only
      rw [called]
      rfl
    | ok answer =>
      obtain ⟨log, failure, last, provider', ids', later, asks, done⟩ :=
        exists_run_of_runSync { s with source := t.accept call answer, provider, ids } free owner rest
      have accepted : s.provider.performAll s.ids (.request call.request :: Issued.commands log) = _ :=
        Provider.performAll_request asked _
      rw [asks] at accepted
      refine ⟨⟨call, .ok answer⟩ :: log, failure, last, provider', ids', .accepted next answer later, accepted, ?_⟩
      rw [← done, runSync_eq, next]
      dsimp only
      rw [called]
  termination_by tasks.length
  decreasing_by exact Source.syncNext_rest_lt next

def syncs (s : Session) (owners : List Owner) : Session :=
  owners.foldl (fun s owner => s.runSync owner s.source.syncTasks) s

theorem complete_eq (s : Session) (owner : Owner) (outcome : Completion) :
    ∃ failed outcomes, s.complete owner outcome = { s with failed, outcomes } := by
  cases owner <;> cases outcome <;> exact ⟨_, _, rfl⟩

/-- Such syncs are retries, and all that they ask of the provider is in their log. -/
theorem exists_retries_of_syncs (s : Session) (free : s.stopAt = 0) (owners : List Owner) :
    ∃ log, s.source.Retries log (s.syncs owners).source ∧
      s.provider.performAll s.ids (Issued.commands log) =
        (log.map Issued.served, (s.syncs owners).provider, (s.syncs owners).ids) := by
  induction owners generalizing s with
  | nil => exact ⟨[], .none s.source, rfl⟩
  | cons owner owners ih =>
    obtain ⟨log, failure, source, provider, ids, run, asks, done⟩ :=
      s.exists_run_of_runSync free owner s.source.syncTasks
    obtain ⟨failed, outcomes, completed⟩ :=
      complete_eq { s with source, provider, ids } owner (failure.elim (.ok []) .error)
    obtain ⟨later, rest, asksLater⟩ := ih { s with source, provider, ids, failed, outcomes } free
    have step : s.syncs (owner :: owners) = syncs { s with source, provider, ids, failed, outcomes } owners := by
      rw [syncs, List.foldl_cons, done, completed]
      rfl
    rw [step]
    refine ⟨log ++ later, .again run rest, ?_⟩
    rw [Issued.commands_append, Provider.performAll_append, asks]
    dsimp only
    rw [asksLater, List.map_append]

end Session

namespace Source

section Next

variable {s : Source} {id : ModelId} {m : Model} (rest : List SyncTask)

theorem syncNext_create (added : id ∈ s.changes.added) :
    s.syncNext (.create id :: rest) = .call (.create id (s.entity id)) rest s := by
  rw [syncNext, if_pos (List.contains_iff_mem.2 added)]

theorem syncNext_create_of_settled (settled : id ∉ s.changes.added) :
    s.syncNext (.create id :: rest) = s.syncNext rest := by
  rw [syncNext, if_neg (by simpa using settled)]

theorem syncNext_update (updated : id ∈ s.changes.updated) (found : s.model? id = some m)
    (dirty : m.isDirty = true) :
    s.syncNext (.update id :: rest) = s.keyedCall m (fun key => .update id key m.dirtyFields) rest := by
  simp [syncNext, found, updated, dirty]

theorem syncNext_update_of_clean (updated : id ∈ s.changes.updated) (found : s.model? id = some m)
    (clean : m.isDirty = false) :
    s.syncNext (.update id :: rest) =
      ({ s with changes := { s.changes with updated := s.changes.updated.erase id } } : Source).syncNext rest := by
  simp [syncNext, found, updated, clean]

theorem syncNext_update_of_settled (settled : id ∉ s.changes.updated) :
    s.syncNext (.update id :: rest) = s.syncNext rest := by
  cases found : s.model? id <;> simp [syncNext, found, settled]

theorem syncNext_remove (removed : id ∈ s.changes.removed) (found : s.model? id = some m) :
    s.syncNext (.remove id :: rest) = s.keyedCall m (fun key => .remove id key) rest := by
  simp [syncNext, found, removed]

theorem syncNext_remove_of_settled (settled : id ∉ s.changes.removed) :
    s.syncNext (.remove id :: rest) = s.syncNext rest := by
  cases found : s.model? id <;> simp [syncNext, found, settled]

theorem keyedCall_of_ok {key : PrimaryKey} (h : keyOf m = .ok key) (call : PrimaryKey → SyncCall) :
    s.keyedCall m call rest = .call (call key) rest s := by
  rw [keyedCall, h]

end Next

theorem SyncRun.congr {s t u : Source} {tasks others : List SyncTask} {log : List Issued}
    {failure : Option SourceError} (same : s.syncNext tasks = t.syncNext others)
    (run : s.SyncRun tasks log failure u) : t.SyncRun others log failure u := by
  cases run with
  | finished next => exact .finished (same ▸ next)
  | failed next => exact .failed (same ▸ next)
  | refused next e => exact .refused (same ▸ next) e
  | accepted next answer later => exact .accepted (same ▸ next) answer later

theorem due_task {s : Source} {task : SyncTask} {call : SyncCall} (h : s.due task = some (.ok call)) :
    call.task = task := by
  have keyed {m : Model} {f : PrimaryKey → SyncCall} (hk : (keyOf m).map f = .ok call)
      (hf : ∀ key, (f key).task = task) : call.task = task := by
    cases key : keyOf m with
    | error e => rw [key] at hk; cases hk
    | ok k =>
      rw [key] at hk
      cases hk
      exact hf k
  cases task with
  | create id =>
    cases h
    rfl
  | update id =>
    obtain ⟨m, -, hm⟩ := Option.bind_eq_some_iff.1 h
    split at hm
    · exact keyed (Option.some.inj hm) fun _ => rfl
    · cases hm
  | remove id =>
    obtain ⟨m, -, hm⟩ := Option.map_eq_some_iff.1 h
    exact keyed hm fun _ => rfl

/-- After a task has been seen to, the source is in order, the other tasks are pending, and what they do has not
changed. -/
structure Advanced (s : Source) (rest : List SyncTask) (t : Source) : Prop where
  orderly : t.Orderly
  tasks : t.syncTasks = rest
  origin : t.origin = s.origin
  due : ∀ task ∈ rest, t.due task = s.due task

theorem due_update {s : Source} {id : ModelId} {m : Model} (found : s.model? id = some m)
    (settled : id ∉ s.changes.added) :
    s.due (.update id) = if m.isDirty then some ((keyOf m).map fun key => .update id key m.dirtyFields) else none := by
  rw [due, found, Option.bind_some]
  simp [settled]

theorem due_eq {s t : Source} {task : SyncTask} (model : t.model? task.id = s.model? task.id)
    (added : t.changes.added.contains task.id = s.changes.added.contains task.id) : t.due task = s.due task := by
  cases task with
  | create id =>
    have entity : t.entity id = s.entity id := by
      unfold entity
      rw [show t.model? id = s.model? id from model]
    rw [due, due, entity]
  | update id =>
    replace model : t.model? id = s.model? id := model
    replace added : t.changes.added.contains id = s.changes.added.contains id := added
    rw [due, due, model, added]
  | remove id =>
    replace model : t.model? id = s.model? id := model
    rw [due, due, model]

theorem syncTasks_cons {s : Source} {task : SyncTask} {rest : List SyncTask} (h : s.syncTasks = task :: rest) :
    (∃ id later, task = .create id ∧ s.changes.added = id :: later ∧
        rest = later.map .create ++ s.changes.updated.map .update ++ s.changes.removed.map .remove) ∨
      (∃ id later, task = .update id ∧ s.changes.added = [] ∧ s.changes.updated = id :: later ∧
        rest = later.map .update ++ s.changes.removed.map .remove) ∨
      ∃ id later, task = .remove id ∧ s.changes.added = [] ∧ s.changes.updated = [] ∧ s.changes.removed = id :: later ∧
        rest = later.map .remove := by
  unfold syncTasks at h
  cases added : s.changes.added with
  | cons id later =>
    rw [added] at h
    cases h
    exact .inl ⟨id, later, rfl, rfl, rfl⟩
  | nil =>
    rw [added] at h
    cases updated : s.changes.updated with
    | cons id later =>
      rw [updated] at h
      cases h
      exact .inr (.inl ⟨id, later, rfl, rfl, rfl, rfl⟩)
    | nil =>
      rw [updated] at h
      cases removed : s.changes.removed with
      | cons id later =>
        rw [removed] at h
        cases h
        exact .inr (.inr ⟨id, later, rfl, rfl, rfl, rfl, rfl⟩)
      | nil =>
        rw [removed] at h
        cases h

theorem advanced_create {s : Source} (orderly : s.Orderly) {id : ModelId} {later : List ModelId}
    (added : s.changes.added = id :: later) (entity : Entity) (answer : (SyncCall.create id entity).request.Answer) :
    s.Advanced (later.map .create ++ s.changes.updated.map .update ++ s.changes.removed.map .remove)
      (s.accept (.create id entity) answer) := by
  have erased : s.changes.added.erase id = later := by rw [added, List.erase_cons_head]
  have distinct : id ∉ later := (List.nodup_cons.1 (added ▸ orderly.added)).1
  have changes : (s.accept (.create id entity) answer).changes = { s.changes with added := later } := by
    rw [← erased]
    rfl
  have others {other : ModelId} (ne : other ≠ id) :
      (s.accept (.create id entity) answer).model? other = s.model? other ∧
        (s.accept (.create id entity) answer).changes.added.contains other = s.changes.added.contains other := by
    refine ⟨rebind_model?_of_ne ne answer, ?_⟩
    rw [changes, added, List.contains_cons, beq_false_of_ne ne, Bool.false_or]
  refine ⟨orderly.accept _ _, by rw [syncTasks, changes], rfl, fun task ht => ?_⟩
  by_cases same : task.id = id
  · simp only [List.mem_append, List.mem_map] at ht
    rcases ht with (⟨other, listed, rfl⟩ | ⟨other, listed, rfl⟩) | ⟨other, listed, rfl⟩
    · replace same : other = id := same
      exact absurd (same ▸ listed) distinct
    · replace same : other = id := same
      subst same
      -- The model is on both lists: the update is not due now, and rebasing leaves nothing to send later.
      have clean : (s.accept (.create other entity) answer).due (.update other) = none := by
        have model : (s.accept (.create other entity) answer).model? other =
            (s.model? other).map fun m => (m.rebase answer).model := rebind_model?_self s other answer
        rw [due, model]
        cases s.model? other <;> rfl
      have skipped : s.due (.update other) = none := by
        rw [due, added]
        cases s.model? other <;> simp
      rw [clean, skipped]
    · replace same : other = id := same
      have settled := (orderly.settled other listed).1
      rw [same, added] at settled
      exact absurd (.head _) settled
  · exact due_eq (others same).1 (others same).2

theorem advanced_update {s : Source} (orderly : s.Orderly) {id : ModelId} {later : List ModelId}
    (added : s.changes.added = []) (updated : s.changes.updated = id :: later) (key : PrimaryKey) (sent : Entity)
    (answer : (SyncCall.update id key sent).request.Answer) :
    s.Advanced (later.map .update ++ s.changes.removed.map .remove) (s.accept (.update id key sent) answer) := by
  have erased : s.changes.updated.erase id = later := by rw [updated, List.erase_cons_head]
  have changes : (s.accept (.update id key sent) answer).changes = { s.changes with updated := later } := by
    rw [← erased]
    rfl
  have distinct : id ∉ later := (List.nodup_cons.1 (updated ▸ orderly.updated)).1
  refine ⟨orderly.accept _ _, by rw [syncTasks, changes, added]; rfl, rfl, fun task ht => ?_⟩
  have ne : task.id ≠ id := by
    simp only [List.mem_append, List.mem_map] at ht
    rcases ht with ⟨other, listed, rfl⟩ | ⟨other, listed, rfl⟩
    · rintro same
      exact distinct (same ▸ listed)
    · rintro same
      have settled := (orderly.settled other listed).2.1
      rw [show other = id from same, updated] at settled
      exact settled (.head _)
  exact due_eq (rebind_model?_of_ne ne answer) (by rw [changes])

theorem advanced_clean {s : Source} (orderly : s.Orderly) {id : ModelId} {later : List ModelId}
    (added : s.changes.added = []) (updated : s.changes.updated = id :: later) :
    s.Advanced (later.map .update ++ s.changes.removed.map .remove)
      { s with changes := { s.changes with updated := s.changes.updated.erase id } } := by
  refine ⟨⟨orderly.toPending.drop (.refl _) List.erase_sublist, orderly.members⟩, ?_, rfl, fun _ _ => rfl⟩
  rw [syncTasks, updated, List.erase_cons_head, added]
  rfl

theorem advanced_remove {s : Source} (orderly : s.Orderly) {id : ModelId} {later : List ModelId}
    (added : s.changes.added = []) (updated : s.changes.updated = []) (removed : s.changes.removed = id :: later)
    (key : PrimaryKey) (answer : (SyncCall.remove id key).request.Answer) :
    s.Advanced (later.map .remove) (s.accept (.remove id key) answer) := by
  refine ⟨orderly.accept _ _, ?_, rfl, fun _ _ => rfl⟩
  have erased : s.changes.removed.erase id = later := by rw [removed, List.erase_cons_head]
  have changes : (s.accept (.remove id key) answer).changes = { s.changes with removed := later } := by
    rw [← erased]
    rfl
  rw [syncTasks, changes, added, updated]
  rfl

theorem syncNext_cons {s : Source} (orderly : s.Orderly) {task : SyncTask} {rest : List SyncTask}
    (tasks : s.syncTasks = task :: rest) :
    (s.due task = none ∧ ∃ t, s.syncNext (task :: rest) = t.syncNext rest ∧ s.Advanced rest t) ∨
      (∃ e, s.due task = some (.error e) ∧ s.syncNext (task :: rest) = .failed e s) ∨
      ∃ call, s.due task = some (.ok call) ∧ s.syncNext (task :: rest) = .call call rest s ∧
        ∀ answer, s.Advanced rest (s.accept call answer) := by
  rcases syncTasks_cons tasks with ⟨id, later, rfl, added, rfl⟩ | ⟨id, later, rfl, added, updated, rfl⟩ |
    ⟨id, later, rfl, added, updated, removed, rfl⟩
  · refine .inr (.inr ⟨.create id (s.entity id), rfl, ?_, fun answer => advanced_create orderly added _ answer⟩)
    exact syncNext_create _ (by simp [added])
  · obtain ⟨m, found⟩ := model?_of_lt (orderly.known id (.inr (.inl (by simp [updated]))))
    have pending : id ∈ s.changes.updated := by simp [updated]
    rw [due_update found (by simp [added])]
    cases dirty : m.isDirty with
    | false =>
      exact .inl ⟨rfl, _, syncNext_update_of_clean _ pending found dirty, advanced_clean orderly added updated⟩
    | true =>
      rw [syncNext_update _ pending found dirty, if_pos rfl, keyedCall]
      cases keyOf m with
      | error e => exact .inr (.inl ⟨e, rfl, rfl⟩)
      | ok key => exact .inr (.inr ⟨_, rfl, rfl, fun answer => advanced_update orderly added updated key _ answer⟩)
  · obtain ⟨m, found⟩ := model?_of_lt (orderly.known id (.inr (.inr (by simp [removed]))))
    have pending : id ∈ s.changes.removed := by simp [removed]
    have does : s.due (.remove id) = some ((keyOf m).map fun key => .remove id key) := by rw [due, found, Option.map_some]
    rw [syncNext_remove _ pending found, does, keyedCall]
    cases keyOf m with
    | error e => exact .inr (.inl ⟨e, rfl, rfl⟩)
    | ok key => exact .inr (.inr ⟨_, rfl, rfl, fun answer => advanced_remove orderly added updated removed key answer⟩)

/-- Progress on the other tasks is progress on all of them, once the first one has been seen to. -/
theorem Progress.cons {s t u : Source} {task : SyncTask} {rest : List SyncTask} {front log : List Issued}
    {failure : Option SourceError} (h : t.Progress rest log failure u) (advanced : s.Advanced rest t)
    (first : [task].filterMap s.due = front.map (.ok ·.call)) (taken : ∀ issued ∈ front, issued.accepted = true) :
    s.Progress (task :: rest) (front ++ log) failure u := by
  have same {tasks : List SyncTask} {later : List Issued} (sub : ∀ task ∈ tasks, task ∈ rest)
      (does : tasks.filterMap t.due = later.map (.ok ·.call)) :
      ([task] ++ tasks).filterMap s.due = (front ++ later).map (.ok ·.call) := by
    rw [List.filterMap_append, first, List.map_append, ← does,
      List.filterMap_congr fun task ht => (advanced.due task (sub task ht)).symm]
  have inside {before after : List SyncTask} {failing : SyncTask} (split : rest = before ++ failing :: after) :
      task :: rest = ([task] ++ before) ++ failing :: after ∧ (∀ task ∈ before, task ∈ rest) ∧ failing ∈ rest := by
    rw [split]
    exact ⟨rfl, fun task ht => List.mem_append_left _ ht, List.mem_append_right _ (.head _)⟩
  have both {later : List Issued} (accepted : ∀ issued ∈ later, issued.accepted = true) :
      ∀ issued ∈ front ++ later, issued.accepted = true := List.forall_mem_append.2 ⟨taken, accepted⟩
  cases h with
  | finished all accepted settled noted => exact .finished (same (fun _ ht => ht) all) (both accepted) settled noted
  | @failed later before after failing e _ split earlier accepted cause pending origin =>
    obtain ⟨whole, sub, listed⟩ := inside split
    refine .failed whole (same sub earlier) (both accepted) ?_ pending (origin.trans advanced.origin)
    rw [← advanced.due failing listed]
    exact cause
  | @refused later before after failing call e _ split earlier accepted cause pending origin =>
    obtain ⟨whole, sub, listed⟩ := inside split
    rw [← List.append_assoc]
    refine .refused whole (same sub earlier) (both accepted) ?_ pending (origin.trans advanced.origin)
    rw [← advanced.due failing listed]
    exact cause

theorem changes_of_syncTasks {s : Source} (h : s.syncTasks = []) : s.changes = {} := by
  simp only [syncTasks, List.append_eq_nil_iff, List.map_eq_nil_iff] at h
  obtain ⟨⟨added, updated⟩, removed⟩ := h
  cases changes : s.changes with
  | mk a u r =>
    rw [changes] at added updated removed
    subst added updated removed
    rfl

theorem progress_of_run {s t : Source} {tasks : List SyncTask} {log : List Issued} {failure : Option SourceError}
    (orderly : s.Orderly) (pending : s.syncTasks = tasks) (run : s.SyncRun tasks log failure t) :
    s.Progress tasks log failure t ∧ t.Orderly := by
  have nothing (s : Source) : ([] : List SyncTask).filterMap s.due = ([] : List Issued).map (.ok ·.call) := rfl
  have none : ∀ issued ∈ ([] : List Issued), issued.accepted = true := by simp
  -- What is pending is always the rest of the tasks, so each step starts from a source of the same kind.
  induction tasks generalizing s log with
  | nil =>
    have settled := changes_of_syncTasks pending
    cases run with
    | finished next =>
      cases next
      exact ⟨.finished (nothing s) none settled rfl, orderly.of_same (Nat.le_refl _) rfl rfl rfl⟩
    | failed next | refused next | accepted next => cases next
  | cons task rest ih =>
    have first : task :: rest = [] ++ task :: rest := rfl
    rcases syncNext_cons orderly pending with
      ⟨idle, u, skips, advanced⟩ | ⟨e, does, fails⟩ | ⟨call, does, calls, advanced⟩
    · obtain ⟨progress, last⟩ := ih advanced.orderly advanced.tasks (run.congr skips)
      have skipped : [task].filterMap s.due = ([] : List Issued).map (.ok ·.call) := by simp [idle]
      exact ⟨progress.cons advanced skipped none, last⟩
    · cases run with
      | finished next | refused next | accepted next => rw [fails] at next; cases next
      | failed next =>
        rw [fails] at next
        cases next
        exact ⟨.failed first (nothing _) none does pending rfl, orderly⟩
    · cases run with
      | finished next | failed next => rw [calls] at next; cases next
      | refused next e =>
        rw [calls] at next
        cases next
        exact ⟨.refused first (nothing _) none does pending rfl, orderly⟩
      | accepted next answer later =>
        rw [calls] at next
        cases next
        obtain ⟨progress, last⟩ := ih (advanced answer).orderly (advanced answer).tasks later
        have one : [task].filterMap s.due = [(⟨call, .ok answer⟩ : Issued)].map (.ok ·.call) := by simp [does]
        have taken : ∀ issued ∈ [(⟨call, .ok answer⟩ : Issued)], issued.accepted = true := by simp [Issued.accepted]
        exact ⟨progress.cons (advanced answer) one taken, last⟩

theorem nodup_syncTasks {s : Source} (h : s.Pending) : s.syncTasks.Nodup := by
  have creates := h.added.map (f := SyncTask.create) fun _ _ same => SyncTask.create.inj same
  have updates := h.updated.map (f := SyncTask.update) fun _ _ same => SyncTask.update.inj same
  have removes := h.removed.map (f := SyncTask.remove) fun _ _ same => SyncTask.remove.inj same
  have front : (s.changes.added.map SyncTask.create ++ s.changes.updated.map SyncTask.update).Nodup := by
    refine creates.append updates fun task hc hu => ?_
    obtain ⟨id, -, rfl⟩ := List.mem_map.1 hc
    obtain ⟨other, -, same⟩ := List.mem_map.1 hu
    cases same
  refine front.append removes fun task hf hr => ?_
  obtain ⟨id, -, rfl⟩ := List.mem_map.1 hr
  rcases List.mem_append.1 hf with hf | hf
  · obtain ⟨other, -, same⟩ := List.mem_map.1 hf
    cases same
  · obtain ⟨other, -, same⟩ := List.mem_map.1 hf
    cases same

/-- The calls for a list of tasks are made in its order, and for each task at most once. -/
theorem calls_sublist {s : Source} {tasks : List SyncTask} {log : List Issued}
    (h : tasks.filterMap s.due = log.map (.ok ·.call)) : (log.map (·.call.task)).Sublist tasks := by
  induction tasks generalizing log with
  | nil =>
    rw [List.filterMap_nil, eq_comm, List.map_eq_nil_iff] at h
    rw [h]
    exact .slnil
  | cons task rest ih =>
    rw [List.filterMap_cons] at h
    cases does : s.due task with
    | none =>
      rw [does] at h
      exact (ih h).cons task
    | some outcome =>
      rw [does] at h
      cases log with
      | nil => cases h
      | cons issued log =>
        rw [List.map_cons, List.cons.injEq] at h
        rw [h.1] at does
        rw [List.map_cons, due_task does]
        exact (ih h.2).cons_cons task

/-- What a sync accepted is no longer pending, and what it was refused still is. -/
theorem Progress.split {s t : Source} {log : List Issued} {failure : Option SourceError}
    (h : s.Progress s.syncTasks log failure t) :
    ∃ (first : List SyncTask) (taken refused : List Issued), s.syncTasks = first ++ t.syncTasks ∧
      log = taken ++ refused ∧ (∀ issued ∈ refused, issued.accepted = false) ∧
      (taken.map (·.call.task)).Sublist first ∧ (refused.map (·.call.task)).Sublist t.syncTasks := by
  cases h with
  | finished all accepted settled noted =>
    have none : t.syncTasks = [] := by rw [syncTasks, settled]; rfl
    exact ⟨s.syncTasks, log, [], by rw [none, List.append_nil], by simp, by simp, calls_sublist all, by simp⟩
  | @failed _ first rest failing e _ split before accepted cause pending origin =>
    exact ⟨first, log, [], by rw [pending, split], by simp, by simp, calls_sublist before, by simp⟩
  | @refused log first rest failing call e _ split before accepted cause pending origin =>
    refine ⟨first, log, [⟨call, .error e⟩], by rw [pending, split], rfl, by simp [Issued.accepted],
      calls_sublist before, ?_⟩
    rw [pending, List.map_singleton, due_task cause]
    exact (List.nil_sublist rest).cons_cons failing

/-- Once a call has been accepted, none is made for the same task. -/
def Once (log : List Issued) : Prop :=
  log.Pairwise fun earlier later => earlier.accepted = true → later.call.task ≠ earlier.call.task

theorem once_of_retries {s t : Source} {log : List Issued} (h : s.Retries log t) (orderly : s.Orderly) :
    Once log ∧ ∀ issued ∈ log, issued.call.task ∈ s.syncTasks := by
  induction h with
  | none s => exact ⟨List.Pairwise.nil, by simp⟩
  | @again s t u log later failure run rest ih =>
    obtain ⟨progress, last⟩ := progress_of_run orderly rfl run
    obtain ⟨once, listed⟩ := ih last
    obtain ⟨first, taken, refused, split, rfl, unaccepted, accepted, left⟩ := progress.split
    have nodup := nodup_syncTasks orderly.toPending
    rw [split] at nodup ⊢
    obtain ⟨distinct, -, apart⟩ := List.nodup_append.1 nodup
    have gone : ∀ issued ∈ taken, issued.call.task ∈ first := fun issued hi =>
      accepted.subset (List.mem_map_of_mem hi)
    have pending : ∀ issued ∈ refused, issued.call.task ∈ t.syncTasks := fun issued hi =>
      left.subset (List.mem_map_of_mem hi)
    -- The accepted tasks and those that are left are parts of one list without repetitions.
    have within : Once (taken ++ refused) := by
      refine List.pairwise_append.2 ⟨?_, ?_, fun earlier he after ha _ same => ?_⟩
      · have each := List.pairwise_map.1 (distinct.sublist accepted)
        exact each.imp fun ne _ same => ne same.symm
      · refine List.pairwise_of_forall_mem_list fun earlier he _ _ yes => ?_
        rw [unaccepted earlier he] at yes
        cases yes
      · exact apart _ (gone earlier he) _ (pending after ha) same.symm
    constructor
    · refine List.pairwise_append.2 ⟨within, once, fun earlier he after ha yes same => ?_⟩
      rcases List.mem_append.1 he with he | he
      · exact apart _ (gone earlier he) _ (listed after ha) same.symm
      · rw [unaccepted earlier he] at yes
        cases yes
    · intro issued hi
      rcases List.mem_append.1 hi with hi | hi
      · rcases List.mem_append.1 hi with hi | hi
        · exact List.mem_append_left _ (gone issued hi)
        · exact List.mem_append_right _ (pending issued hi)
      · exact List.mem_append_right _ (listed issued hi)

theorem Progress.isPrefix {s t : Source} {tasks : List SyncTask} {log : List Issued} {failure : Option SourceError}
    (h : s.Progress tasks log failure t) : log.map (.ok ·.call) <+: tasks.filterMap s.due := by
  cases h with
  | finished all accepted settled noted => exact all ▸ List.prefix_rfl
  | failed split before accepted cause pending origin =>
    rw [split, List.filterMap_append, before]
    exact List.prefix_append _ _
  | refused split before accepted cause pending origin =>
    rw [List.map_append, split, List.filterMap_append, before, List.filterMap_cons, cause]
    exact (List.prefix_append_right_inj _).2 (List.prefix_append [_] _)

/-- A sync asks the provider for the calls of its agenda in order, up to the first failure, and for nothing else. What
was accepted is no longer pending, all else is pending in the same order, and only a sync without a failure notes what
the provider knows. However often it is tried again, nothing that was accepted is asked for again. -/
theorem sync_in_order {s : Source} (h : s.Reachable fun _ _ => True) :
    (∀ session : Session, session.source = s → session.stopAt = 0 →
        (∀ owner, ∃ (log : List Issued) (failure : Option SourceError) (t : Source) (provider : Provider)
            (ids : IdSupply), s.SyncRun s.syncTasks log failure t ∧
              session.provider.performAll session.ids (Issued.commands log) = (log.map Issued.served, provider, ids) ∧
              session.runSync owner s.syncTasks =
                { session with source := t, provider, ids }.complete owner (failure.elim (.ok []) .error)) ∧
          ∀ owners, ∃ log, s.Retries log (session.syncs owners).source ∧
            session.provider.performAll session.ids (Issued.commands log) =
              (log.map Issued.served, (session.syncs owners).provider, (session.syncs owners).ids)) ∧
      (∀ log failure t, s.SyncRun s.syncTasks log failure t →
        log.map (.ok ·.call) <+: s.agenda ∧ s.Progress s.syncTasks log failure t) ∧
      ∀ log t, s.Retries log t → Once log := by
  refine ⟨?_, ?_, ?_⟩
  · rintro session rfl free
    constructor
    · intro owner
      exact session.exists_run_of_runSync free owner session.source.syncTasks
    · intro owners
      exact session.exists_retries_of_syncs free owners
  · intro log failure t run
    obtain ⟨progress, -⟩ := progress_of_run h.orderly rfl run
    exact ⟨progress.isPrefix, progress⟩
  · intro log t retries
    exact (once_of_retries retries h.orderly).1

/-- One model is to be created, one to be updated and one to be removed. The creation is accepted, and nothing else,
also when it is tried again. Rows in memory that cannot be reached for an update are asked for the creation first. -/
theorem sync_in_order_sample :
    ∃ (s t u : Source) (first second log : List Issued) (e e' : Option SourceError) (session : Session),
      s.syncTasks = [.create 2, .update 0, .remove 1] ∧
      s.SyncRun s.syncTasks (⟨.create 2 (s.entity 2), .ok [("id", .str "c")]⟩ :: first) e t ∧
      t.SyncRun t.syncTasks second e' u ∧
      s.Progress s.syncTasks (⟨.create 2 (s.entity 2), .ok [("id", .str "c")]⟩ :: first) e t ∧
      Once (⟨.create 2 (s.entity 2), .ok [("id", .str "c")]⟩ :: first ++ second) ∧
      session = .start s (.recorder (Recorder.empty.failNext .update "down") (.rows ⟨"id", []⟩)) .keys ∧
      (log.map (·.call)).head? = some (.create 2 (s.entity 2)) ∧
      session.provider.performAll session.ids (Issued.commands log) =
        (log.map Issued.served, (session.runSync .caller s.syncTasks).provider,
          (session.runSync .caller s.syncTasks).ids) := by
  obtain ⟨s, -, reached, -, added, updated, removed, -⟩ := sample?_spec
  have tasks : s.syncTasks = [.create 2, .update 0, .remove 1] := by simp [syncTasks, added, updated, removed]
  have next : s.syncNext s.syncTasks = .call (.create 2 (s.entity 2)) [.update 0, .remove 1] s := by
    rw [tasks]
    exact syncNext_create _ (by simp [added])
  have refuses : (call : SyncCall) → Except ProviderError call.request.Answer := fun _ => .error (.transport "down")
  obtain ⟨first, e, t, later⟩ := exists_run refuses (s.accept (.create 2 (s.entity 2)) [("id", .str "c")])
    [.update 0, .remove 1]
  obtain ⟨second, e', u, again⟩ := exists_run refuses t t.syncTasks
  have run : s.SyncRun s.syncTasks (⟨.create 2 (s.entity 2), .ok [("id", .str "c")]⟩ :: first) e t :=
    .accepted next _ later
  have both := Retries.again run (.again again (.none u))
  rw [List.append_nil] at both
  have weaker := reached.mono fun _ _ _ => trivial
  obtain ⟨sessions, progress, once⟩ := sync_in_order weaker
  let session := Session.start s (.recorder (Recorder.empty.failNext .update "down") (.rows ⟨"id", []⟩)) .keys
  obtain ⟨log, failure, last, provider, ids, asked, asks, done⟩ := (sessions session rfl rfl).1 .caller
  have head : (log.map (·.call)).head? = some (.create 2 (s.entity 2)) := by
    cases asked with
    | finished here | failed here => rw [next] at here; cases here
    | refused here | accepted here =>
      rw [next] at here
      cases here
      rfl
  refine ⟨s, t, u, first, second, log, e, e', session, tasks, run, again, (progress _ _ _ run).2, once _ _ both, rfl,
    head, ?_⟩
  rw [asks, done]
  cases failure <;> rfl

end Source

end RecordSync
