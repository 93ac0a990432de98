import RecordSync.Source.Members

/-!
# Syncs

A sync tells the provider of all changes that are pending when it starts: first what was added, then what was updated, then
what was removed. A change is no longer pending when the provider has accepted it. The first failure ends the sync, and what
was not accepted by then is still pending.

A sync is a walk over a list of tasks. Between a call and its answer the source may be changed, so each task looks at
the source anew when its turn comes.
-/

set_option autoImplicit false

namespace RecordSync

inductive SyncTask where
  | create (id : ModelId)
  | update (id : ModelId)
  | remove (id : ModelId)

inductive SyncCall where
  | create (id : ModelId) (entity : Entity)
  | update (id : ModelId) (key : PrimaryKey) (changes : Entity)
  | remove (id : ModelId) (key : PrimaryKey)

def SyncCall.request : SyncCall → Request
  | .create _ entity => .create entity
  | .update _ key changes => .update key changes
  | .remove _ key => .remove key

inductive SyncNext where
  | finished (source : Source)
  | failed (error : SourceError) (source : Source)
  | call (call : SyncCall) (rest : List SyncTask) (source : Source)

namespace Source

def syncTasks (s : Source) : List SyncTask :=
  s.changes.added.map .create ++ s.changes.updated.map .update ++ s.changes.removed.map .remove

def keyOf (m : Model) : Except SourceError PrimaryKey :=
  match m.key?.bind PrimaryKey.ofValue? with
  | some key => .ok key
  | none => .error (.missingKey m.uuid)

def keyedCall (s : Source) (m : Model) (call : PrimaryKey → SyncCall) (rest : List SyncTask) : SyncNext :=
  match keyOf m with
  | .ok key => .call (call key) rest s
  | .error e => .failed e s

/-- Goes on to the next call. Tasks whose change is no longer pending are passed over, and an updated model that is clean
again is not pending any more. At the end the source takes note of what the provider knows. -/
def syncNext (s : Source) : List SyncTask → SyncNext
  | [] => .finished { s with origin := s.entities }
  | .create id :: rest =>
    if s.changes.added.contains id then .call (.create id (s.entity id)) rest s else s.syncNext rest
  | .update id :: rest =>
    match s.model? id with
    | none => s.syncNext rest
    | some m =>
      if !s.changes.updated.contains id then s.syncNext rest
      else if !m.isDirty then
        { s with changes := { s.changes with updated := s.changes.updated.erase id } }.syncNext rest
      else s.keyedCall m (fun key => .update id key m.dirtyFields) rest
  | .remove id :: rest =>
    match s.model? id with
    | none => s.syncNext rest
    | some m =>
      if !s.changes.removed.contains id then s.syncNext rest
      else s.keyedCall m (fun key => .remove id key) rest

theorem syncNext_rest_lt {source source' : Source} {tasks rest : List SyncTask} {call : SyncCall}
    (h : source.syncNext tasks = .call call rest source') : rest.length < tasks.length := by
  induction tasks generalizing source with
  | nil => simp [syncNext] at h
  | cons task tasks ih =>
    cases task with
    | create id =>
      rw [syncNext] at h
      split at h
      · simp only [SyncNext.call.injEq] at h
        simp [h.2.1]
      · exact Nat.lt_succ_of_lt (ih h)
    | update id =>
      rw [syncNext] at h
      split at h
      · exact Nat.lt_succ_of_lt (ih h)
      · split at h
        · exact Nat.lt_succ_of_lt (ih h)
        · split at h
          · exact Nat.lt_succ_of_lt (ih h)
          · unfold keyedCall at h
            split at h
            · simp only [SyncNext.call.injEq] at h
              simp [h.2.1]
            · cases h
    | remove id =>
      rw [syncNext] at h
      split at h
      · exact Nat.lt_succ_of_lt (ih h)
      · split at h
        · exact Nat.lt_succ_of_lt (ih h)
        · unfold keyedCall at h
          split at h
          · simp only [SyncNext.call.injEq] at h
            simp [h.2.1]
          · cases h

/-- Writes the fields of the provider into a model, which is not a change of it. -/
def rebind (s : Source) (id : ModelId) (saved : Entity) : Source := s.mapModel id fun m => (m.rebase saved).model

def accept (s : Source) : (call : SyncCall) → call.request.Answer → Source
  | .create id _, saved =>
    let s := s.rebind id saved
    { s with changes := { s.changes with added := s.changes.added.erase id } }
  | .update id _ _, saved =>
    let s := s.rebind id saved
    { s with changes := { s.changes with updated := s.changes.updated.erase id } }
  | .remove id _, _ =>
    { s with
      changes := { s.changes with removed := s.changes.removed.erase id }
      removedAt := s.removedAt.filter fun entry => entry.1 != id }

end Source

end RecordSync
