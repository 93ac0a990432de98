import RecordSync.Proofs.Source.Backed
import RecordSync.Proofs.Source.History

/-!
# Undoing all local work

A source notes the entities of its members when it has taken in a page, finished a sync or accepted its changes.
Local work leaves this snapshot alone, so with the standard schema undoing all changes leads back to it, whatever has
been done since then. The models it is built of are new ones, and those of the time before are followed no more.
-/

set_option autoImplicit false

namespace RecordSync

namespace Source

variable {s t : Source} {id : ModelId}

/-- A source right after it has taken in a page, finished a sync or accepted its changes. -/
inductive Checkpoint : Source → Prop where
  | fetched {s t : Source} {collection : Collection} {ids : List ModelId} (done : s.load collection = .ok (ids, t)) :
      Checkpoint t
  | synced {s t : Source} {tasks : List SyncTask} (done : s.syncNext tasks = .finished t) : Checkpoint t
  | submitted (s : Source) : Checkpoint s.submit

/-- Work on a source that the provider has no part in: models are made, commands are carried out, and the next fetch
will ask for something else. Nothing is accepted on the way. -/
inductive Works (s : Source) : Source → Prop where
  | none : Works s s
  | make {t : Source} (h : Works s t) (ids : IdSupply) (tracked : Tracked) :
      Works s { t with ids, models := t.models ++ [tracked] }
  | perform {t u : Source} {command : SourceCommand} {reply : SourceReply} (h : Works s t)
      (unaccepted : command ≠ .submit) (done : t.perform command = .ok (reply, u)) : Works s u
  | ask {t : Source} (h : Works s t) (filter : Option FilterGroup) (sort : Option (List SortDescriptor))
      (paginator : Paginator) : Works s { t with filter, sort, paginator }

theorem entity_of_sameModels (h : s.SameModels t) (id : ModelId) : t.entity id = s.entity id := by
  rw [entity, entity, h.read Model.toEntity (fun _ => rfl)]

theorem entities_replace (s : Source) (ids : List ModelId) : (s.replace ids).entities = ids.map s.entity := by
  obtain ⟨moved, data, -, -⟩ := replace_frame s ids
  rw [entities, data]
  exact List.map_congr_left fun id _ => entity_of_sameModels moved.models id

/-- Models as they are made show the entities they are made from. -/
theorem map_entity_of_pristine {rows : List Entity} {ids : List ModelId}
    (pristine : List.Forall₂ (fun row id => ∃ m, s.model? id = some m ∧ m.Pristine row) rows ids) :
    ids.map s.entity = rows := by
  induction pristine with
  | nil => rfl
  | cons first _ ih =>
    obtain ⟨m, found, pristine⟩ := first
    rw [List.map_cons, ih, entity, found, Option.map_some, Option.getD_some, Model.toEntity_of_root pristine.root]

/-- A list that is built again from the snapshot shows it, nothing is pending, and all its models are new and clean. -/
structure Restored (t u : Source) : Prop where
  entities : u.entities = t.origin
  changes : u.changes = {}
  fresh : ∀ id ∈ u.data, t.models.length ≤ id
  clean : ∀ id ∈ u.data, u.holds Model.isDirty id = false

theorem cancelAll_restored (standard : t.schema = .standard) : ∃ u, t.cancelAll = .ok u ∧ Restored t u := by
  obtain ⟨ids, u, wrapped, pristine⟩ := wrapAll_of_standard standard t.origin
  have enrolled := enrolled_of_wrapAll wrapped
  have rebuilt : t.cancelAll = .ok (u.replace ids) := by
    rw [cancelAll, wrapped]
    rfl
  obtain ⟨moved, data, changes, -⟩ := replace_frame u ids
  refine ⟨_, rebuilt, ?_, changes, fun id listed => ?_, fun id listed => ?_⟩
  · rw [entities_replace, map_entity_of_pristine pristine]
  · rw [data] at listed
    rcases enrolled.mem_ids id listed with handle | ⟨new, -⟩
    · rw [Item.handles_entities] at handle
      cases handle
    · exact new
  · rw [data] at listed
    obtain ⟨row, -, m, found, made⟩ := forall₂_exists pristine listed
    rw [moved.models.isDirty, holds_of_model? found, made.isDirty]

theorem origin_load {collection : Collection} {ids : List ModelId} (done : s.load collection = .ok (ids, t))
    (standard : t.schema = .standard) : t.origin = t.entities := by
  have before : s.schema = .standard := by
    obtain ⟨u, enrolled, rfl⟩ := load_ok done
    rw [(replace_frame _ _).1.rest] at standard
    rw [← standard, enrolled.rest]
  obtain ⟨listed, u, wrapped, pristine⟩ := wrapAll_of_standard before collection.data
  rw [load, wrapped] at done
  cases done
  rw [entities_replace, (replace_frame _ _).1.rest]
  exact (map_entity_of_pristine pristine).symm

theorem origin_finished {tasks : List SyncTask} (done : s.syncNext tasks = .finished t) : t.origin = t.entities :=
  syncNext_induct (P := fun _ next => ∀ t, next = .finished t → t.origin = t.entities)
    (fun _ _ same => by cases same; rfl) (fun _ _ _ none => by cases none) (fun _ _ _ _ _ none => by cases none)
    (fun _ _ _ _ later => later) s tasks t done

theorem Checkpoint.origin (h : s.Checkpoint) (standard : s.schema = .standard) : s.origin = s.entities := by
  cases h with
  | fetched done => exact origin_load done standard
  | synced done => exact origin_finished done
  | submitted s => rfl

theorem SyncRun.checkpoint {tasks : List SyncTask} {log : List Issued} {failure : Option SourceError}
    (run : s.SyncRun tasks log failure t) (done : failure = none) : t.Checkpoint := by
  induction run with
  | finished next => exact .synced next
  | failed | refused => cases done
  | accepted next answer later ih => exact ih done

theorem writtenAt_follow (s : Source) (id : ModelId) (signal : ModelSignal) : WrittenAt id s (s.follow id signal) := by
  have placed (m : Model) : WrittenAt id s (s.mapModel id fun _ => m) :=
    ⟨rfl, fun other ne => by rw [model?_mapModel, if_neg (Ne.symm ne)]⟩
  cases signal with
  | warning text => exact ⟨rfl, fun _ _ => rfl⟩
  | changed event shown =>
    unfold follow
    dsimp only
    split
    · refine ⟨?_, fun other ne => ?_⟩
      · rw [track_frame]
        rfl
      · rw [model?_track, (placed shown).others other ne]
    · exact placed shown

theorem WrittenAt.trans {u : Source} (h : WrittenAt id s t) (k : WrittenAt id t u) : WrittenAt id s u where
  rest := by rw [k.rest, h.rest]
  others := fun other ne => (k.others other ne).trans (h.others other ne)

theorem writtenAt_write {α : Type} {f : Tracked → Written α} {w : Written α} (written : s.write id f = some (w, t)) :
    WrittenAt id s t := by
  obtain ⟨tracked, -, -, result⟩ := write_eq written
  have followed (signals : List ModelSignal) :
      WrittenAt id s (signals.foldl (fun s signal => s.follow id signal) s) := by
    induction signals using List.reverseRecOn with
    | nil => exact ⟨rfl, fun _ _ => rfl⟩
    | append_singleton earlier last ih =>
      rw [List.foldl_append]
      exact ih.trans (writtenAt_follow _ id last)
  rw [result]
  refine (followed w.signals).trans ⟨rfl, fun other ne => ?_⟩
  rw [model?_mapModel, if_neg (Ne.symm ne)]

def ground (s : Source) : List Entity × EntityRules := (s.origin, s.schema)

theorem Rearranged.ground (h : s.Rearranged t) : t.ground = s.ground := by
  rw [h.rest]
  rfl

theorem WrittenAt.ground (h : WrittenAt id s t) : t.ground = s.ground := by
  rw [h.rest]
  rfl

theorem Enrolled.ground {items : List Item} {ids : List ModelId} (h : s.Enrolled items ids t) :
    t.ground = s.ground := by
  rw [h.rest]
  rfl

theorem ground_cancel (s : Source) (id : ModelId) : (s.cancel id).ground = s.ground := by
  refine cancel_preserves (P := fun t => t.ground = s.ground) rfl (fun index => (exchange_frame s index 1 []).1.ground)
    ?_ fun t ht => (restore_frame t id).ground.trans ht
  unfold resetModel
  split
  · rfl
  · next w t written => exact (writtenAt_write written).ground

theorem ground_perform {command : SourceCommand} {reply : SourceReply} (unaccepted : command ≠ .submit)
    (done : s.perform command = .ok (reply, t)) : t.ground = s.ground := by
  cases effect_of_perform done with
  | nothing => rfl
  | exchange index count e => exact (exchange_frame _ index count _).1.ground.trans e.ground
  | setData _ e => exact (replace_frame _ _).1.ground.trans e.ground
  | cancelAll _ e => exact (replace_frame _ _).1.ground.trans e.ground
  | cancel _ => exact ground_cancel s _
  | submit same => exact absurd same unaccepted
  | edit _ written => exact (writtenAt_write written).ground

theorem Works.ground (h : s.Works t) : t.ground = s.ground := by
  induction h with
  | none => rfl
  | make _ ids tracked ih => exact ih
  | perform _ unaccepted done ih => exact (ground_perform unaccepted done).trans ih
  | ask _ filter sort paginator ih => exact ih

/-- Nothing is noted of an edit of a model that is no member, and nothing but this model changes. -/
theorem follow_outside (outside : id ∉ s.data) (signal : ModelSignal) :
    s.follow id signal = { s with models := (s.follow id signal).models } := by
  cases signal with
  | warning text => rfl
  | changed event shown =>
    have unlisted : (s.mapModel id fun _ => shown).track id = s.mapModel id fun _ => shown := by
      rcases track_cases (s.mapModel id fun _ => shown) id with same | ⟨member, -⟩ | ⟨member, -⟩
      · exact same
      · exact absurd member outside
      · exact absurd member outside
    unfold follow
    dsimp only
    rw [unlisted, ite_self]
    rfl

theorem write_outside (outside : id ∉ s.data) {α : Type} {f : Tracked → Written α} {w : Written α}
    (written : s.write id f = some (w, t)) : t = { s with models := t.models } := by
  obtain ⟨tracked, -, -, result⟩ := write_eq written
  have followed (signals : List ModelSignal) : signals.foldl (fun s signal => s.follow id signal) s =
      { s with models := (signals.foldl (fun s signal => s.follow id signal) s).models } := by
    induction signals using List.reverseRecOn with
    | nil => rfl
    | append_singleton earlier last ih =>
      rw [List.foldl_append, List.foldl_cons, List.foldl_nil]
      refine (follow_outside (by rw [ih]; exact outside) last).trans ?_
      rw [ih]
  rw [result, mapModel, followed w.signals]

theorem entities_write_outside (outside : id ∉ s.data) {α : Type} {f : Tracked → Written α} {w : Written α}
    (written : s.write id f = some (w, t)) : t.entities = s.entities := by
  have data : t.data = s.data := by rw [write_outside outside written]
  rw [entities, entities, data]
  refine List.map_congr_left fun other member => ?_
  rw [entity, entity, (writtenAt_write written).others other]
  rintro rfl
  exact outside member

/-- Edits of models that are no members reach neither the list nor what is pending. -/
theorem performAll?_outside {edits : List (ModelId × ModelCommand)} (outside : ∀ edit ∈ edits, edit.1 ∉ s.data) :
    ∃ t, s.performAll? (edits.map fun edit => .edit edit.1 edit.2) = some t ∧ t.changes = s.changes ∧
      t.entities = s.entities := by
  induction edits generalizing s with
  | nil => exact ⟨s, rfl, rfl, rfl⟩
  | cons edit rest ih =>
    obtain ⟨id, change⟩ := edit
    have step : ∃ u reply, s.perform (.edit id change) = .ok (reply, u) ∧ u.data = s.data ∧ u.changes = s.changes ∧
        u.entities = s.entities := by
      simp only [perform]
      split
      · exact ⟨s, _, rfl, rfl, rfl, rfl⟩
      · next w u written =>
        have unlisted := outside _ (.head _)
        have alone := write_outside unlisted written
        exact ⟨u, _, rfl, by rw [alone], by rw [alone], entities_write_outside unlisted written⟩
    obtain ⟨u, reply, done, data, changes, shown⟩ := step
    obtain ⟨t, later, keptChanges, kept⟩ := ih (s := u) fun edit listed => by
      rw [data]
      exact outside edit (.tail _ listed)
    refine ⟨t, ?_, keptChanges.trans changes, kept.trans shown⟩
    rw [List.map_cons, performAll?, List.foldlM_cons, done]
    exact later

/-- With the standard schema, all that has been done since a checkpoint can be undone: the list shows what it showed
then, nothing is pending and no member is dirty. The models of the time before can still be edited, but the source
does not take note of it. -/
theorem cancelAll_of_works (checkpoint : s.Checkpoint) (standard : s.schema = .standard) (works : s.Works t) :
    ∃ u, t.cancelAll = .ok u ∧ u.entities = s.entities ∧ u.changes = {} ∧
      (∀ id ∈ u.data, u.holds Model.isDirty id = false) ∧
      ∀ edits : List (ModelId × ModelCommand), (∀ edit ∈ edits, edit.1 < t.models.length) →
        ∃ v, u.performAll? (edits.map fun edit => .edit edit.1 edit.2) = some v ∧ v.changes = {} ∧
          v.entities = s.entities := by
  obtain ⟨origin, schema⟩ := Prod.mk.inj works.ground
  obtain ⟨u, undone, restored⟩ := cancelAll_restored (schema.trans standard)
  have shown : u.entities = s.entities := by
    rw [restored.entities, origin, checkpoint.origin standard]
  refine ⟨u, undone, shown, restored.changes, restored.clean, fun edits old => ?_⟩
  have outside : ∀ edit ∈ edits, edit.1 ∉ u.data := fun edit listed member =>
    Nat.not_lt.2 (restored.fresh edit.1 member) (old edit listed)
  obtain ⟨v, done, changes, entities⟩ := performAll?_outside outside
  exact ⟨v, done, changes.trans restored.changes, entities.trans shown⟩

end Source

namespace Session

/-- A sync of a session that succeeds leaves its source at a checkpoint. -/
theorem checkpoint_of_runSync (s : Session) (free : s.stopAt = 0) (owner : Owner) (tasks : List SyncTask) :
    ∃ (failure : Option SourceError) (t : Session),
      s.runSync owner tasks = t.complete owner (failure.elim (.ok []) .error) ∧
        (failure = none → t.source.Checkpoint) := by
  obtain ⟨log, failure, source, provider, ids, run, -, done⟩ := s.exists_run_of_runSync free owner tasks
  exact ⟨failure, { s with source, provider, ids }, done, run.checkpoint⟩

end Session

namespace Source

variable {s t : Source}

theorem fetched?_checkpoint {rows : List Entity} (found : fetched? rows = some s) :
    s.Checkpoint ∧ s.schema = .standard := by
  obtain ⟨⟨ids, t⟩, loaded, rfl⟩ := Option.map_eq_some_iff.1 found
  have done := ok_of_toOption loaded
  refine ⟨.fetched done, ?_⟩
  obtain ⟨u, enrolled, rfl⟩ := load_ok done
  rw [(replace_frame _ _).1.rest, enrolled.rest]
  rfl

theorem Works.performAll? {u : Source} {commands : List SourceCommand} (h : s.Works t)
    (unaccepted : ∀ command ∈ commands, command ≠ .submit) (done : t.performAll? commands = some u) : s.Works u := by
  induction commands generalizing t with
  | nil =>
    cases done
    exact h
  | cons command rest ih =>
    rw [Source.performAll?, List.foldlM_cons] at done
    obtain ⟨v, hv, later⟩ := Option.bind_eq_some_iff.1 done
    obtain ⟨⟨reply, w⟩, performed, rfl⟩ := Option.map_eq_some_iff.1 hv
    refine ih (h.perform (unaccepted command (.head _)) (ok_of_toOption performed)) ?_ later
    exact fun c hc => unaccepted c (.tail _ hc)

theorem works_of_worked? {rows : List Entity} {commands : List SourceCommand} (found : worked? rows commands = some t)
    (unaccepted : ∀ command ∈ commands, command ≠ .submit) :
    ∃ s : Source, s.Checkpoint ∧ s.schema = .standard ∧ s.Works t := by
  obtain ⟨s, fetched, done⟩ := Option.bind_eq_some_iff.1 found
  obtain ⟨checkpoint, standard⟩ := fetched?_checkpoint fetched
  exact ⟨s, checkpoint, standard, Works.none.performAll? unaccepted done⟩

/-- Of two rows one is edited and one is removed, and a third one is added; then all this is undone. -/
theorem cancelAll_of_works_sample : ∃ s t u : Source, s.Checkpoint ∧ s.Works t ∧ s.entities.length = 2 ∧
    t.changes.added = [2] ∧ t.changes.updated = [0] ∧ t.changes.removed = [1] ∧ t.cancelAll = .ok u ∧
    u.entities = s.entities ∧ u.changes = {} ∧ (∀ id ∈ u.data, u.holds Model.isDirty id = false) ∧
    ∃ v, u.performAll? [.edit 0 (.set "name" (.str "d"))] = some v ∧ v.changes = {} ∧ v.entities = s.entities := by
  have shown : ((fetched? [namedRow 1, namedRow 2]).bind fun s =>
      (s.performAll? [.edit 0 (.set "name" (.str "b")), .removeAt 1, .add (.entity [("name", .str "c")])]).map fun t =>
        (s.data.length, t.changes.added, t.changes.updated, t.changes.removed, decide (0 < t.models.length))) =
          some (2, [2], [0], [1], true) := by decide +kernel
  obtain ⟨s, fetched, rest⟩ := Option.bind_eq_some_iff.1 shown
  obtain ⟨t, done, facts⟩ := Option.map_eq_some_iff.1 rest
  simp only [Prod.mk.injEq, decide_eq_true_eq] at facts
  obtain ⟨two, added, updated, removed, known⟩ := facts
  obtain ⟨checkpoint, standard⟩ := fetched?_checkpoint fetched
  have works : s.Works t := Works.none.performAll? (by simp) done
  obtain ⟨u, undone, shown, changes, clean, later⟩ := cancelAll_of_works checkpoint standard works
  refine ⟨s, t, u, checkpoint, works, by rw [entities, List.length_map, two], added, updated, removed, undone, shown,
    changes, clean, later [(0, .set "name" (.str "d"))] ?_⟩
  intro edit listed
  rw [List.mem_singleton.1 listed]
  exact known

end Source

end RecordSync
