import RecordSync.Proofs.Model.Dirty
import RecordSync.Proofs.Source.Members
import RecordSync.Source.Command
import RecordSync.Source.Sync

/-!
# Reachable sources

The states that a source can get into, by local commands, by pages that are fetched and by syncs. Syncs are taken apart
into their calls, so that anything else can happen between a call and its answer, and the provider answers as it likes.
-/

set_option autoImplicit false

namespace RecordSync

namespace SourceCommand

def items : SourceCommand → List Item
  | .add item | .insert _ item => [item]
  | .splice _ _ items | .setData items => items
  | _ => []

def staying (s : Source) : SourceCommand → List ModelId
  | .splice index count _ => s.data.take index ++ s.data.drop (index + count)
  | .setData _ => []
  | _ => s.data

/-- The models that a command brings in are distinct, and none is a member that stays. -/
structure Fresh (s : Source) (command : SourceCommand) : Prop where
  distinct : (Item.handles command.items).Nodup
  outside : ∀ id ∈ Item.handles command.items, id ∉ command.staying s

end SourceCommand

def SyncNext.source : SyncNext → Source
  | .finished source | .failed _ source | .call _ _ source => source

namespace Source

/-- The states of a source whose commands are the `allowed` ones. -/
inductive Reachable (allowed : Source → SourceCommand → Prop) : Source → Prop where
  | start {fields : VirtualFields} (schema : EntityRules) (composed : fields.Composed) (autoSync : Bool)
      (paginator : Paginator) : Reachable allowed (.empty schema fields autoSync paginator)
  | make {s : Source} {uuid : String} {schema : EntityRules} {fields : VirtualFields} {value : Json} {tracked : Tracked}
      (ids : IdSupply) (h : Reachable allowed s) (composed : fields.Composed)
      (built : Tracked.build uuid schema fields value = .ok tracked) :
      Reachable allowed { s with ids, models := s.models ++ [tracked] }
  | perform {s t : Source} {command : SourceCommand} {reply : SourceReply} (h : Reachable allowed s)
      (ok : allowed s command) (known : ∀ id ∈ Item.handles command.items, id < s.models.length)
      (done : s.perform command = .ok (reply, t)) : Reachable allowed t
  | load {s t : Source} {collection : Collection} {ids : List ModelId} (h : Reachable allowed s)
      (done : s.load collection = .ok (ids, t)) : Reachable allowed t
  | advance {s : Source} (tasks : List SyncTask) (h : Reachable allowed s) :
      Reachable allowed (s.syncNext tasks).source
  /-- The provider accepts a call, however long ago it was made. -/
  | accept {s : Source} (call : SyncCall) (answer : call.request.Answer) (h : Reachable allowed s) :
      Reachable allowed (s.accept call answer)
  | ask {s : Source} (filter : Option FilterGroup) (sort : Option (List SortDescriptor)) (paginator : Paginator)
      (scheduled : Nat) (h : Reachable allowed s) :
      Reachable allowed { s with filter, sort, paginator, scheduled }

theorem Reachable.mono {allowed permitted : Source → SourceCommand → Prop} {s : Source} (h : s.Reachable allowed)
    (weaker : ∀ s command, allowed s command → permitted s command) : s.Reachable permitted := by
  induction h with
  | start schema composed autoSync paginator => exact .start schema composed autoSync paginator
  | make ids _ composed built ih => exact .make ids ih composed built
  | perform _ ok known done ih => exact .perform ih (weaker _ _ ok) known done
  | load _ done ih => exact .load ih done
  | advance tasks _ ih => exact .advance tasks ih
  | accept call answer _ ih => exact .accept call answer ih
  | ask filter sort paginator scheduled _ ih => exact .ask filter sort paginator scheduled ih

def performAll? (s : Source) (commands : List SourceCommand) : Option Source :=
  commands.foldlM (fun s command => (s.perform command).toOption.map (·.2)) s

theorem Reachable.performAll? {allowed : Source → SourceCommand → Prop} {s t : Source} {commands : List SourceCommand}
    (h : s.Reachable allowed) (ok : ∀ command ∈ commands, ∀ u, allowed u command)
    (brought : ∀ command ∈ commands, Item.handles command.items = []) (done : s.performAll? commands = some t) :
    t.Reachable allowed := by
  induction commands generalizing s with
  | nil =>
    cases done
    exact h
  | cons command rest ih =>
    rw [Source.performAll?, List.foldlM_cons] at done
    obtain ⟨u, hu, later⟩ := Option.bind_eq_some_iff.1 done
    obtain ⟨⟨reply, v⟩, performed, rfl⟩ := Option.map_eq_some_iff.1 hu
    have known : ∀ id ∈ Item.handles command.items, id < s.models.length := by simp [brought command (.head _)]
    refine ih (h.perform (ok command (.head _) s) known (ok_of_toOption performed)) ?_ ?_ later
    · exact fun c hc => ok c (.tail _ hc)
    · exact fun c hc => brought c (.tail _ hc)

/-- Going on to the next call only takes clean models off the updated ones, and notes what the provider knows. -/
theorem syncNext_source (s : Source) (tasks : List SyncTask) : ∃ updated origin,
    (s.syncNext tasks).source = { s with changes := { s.changes with updated }, origin } ∧
      updated.Sublist s.changes.updated := by
  -- With or without a usable key the source is left alone.
  have keyed (m : Model) (call : PrimaryKey → SyncCall) (rest : List SyncTask) :
      (s.keyedCall m call rest).source = s := by
    unfold keyedCall
    split <;> rfl
  induction tasks generalizing s with
  | nil => exact ⟨s.changes.updated, s.entities, rfl, .refl _⟩
  | cons task rest ih =>
    have same : ∃ updated origin, s = { s with changes := { s.changes with updated }, origin } ∧
        updated.Sublist s.changes.updated := ⟨s.changes.updated, s.origin, rfl, .refl _⟩
    cases task with
    | create id =>
      rw [syncNext]
      split
      · exact same
      · exact ih s keyed
    | update id =>
      rw [syncNext]
      split
      · exact ih s keyed
      · split
        · exact ih s keyed
        · split
          · refine (ih { s with changes := { s.changes with updated := s.changes.updated.erase id } } ?_).imp ?_
            · intro m call rest
              unfold keyedCall
              split <;> rfl
            · rintro updated ⟨origin, shape, sub⟩
              exact ⟨origin, shape, sub.trans List.erase_sublist⟩
          · rw [keyed]
            exact same
    | remove id =>
      rw [syncNext]
      split
      · exact ih s keyed
      · split
        · exact ih s keyed
        · rw [keyed]
          exact same

inductive Effect (s : Source) (command : SourceCommand) : Source → Prop where
  | nothing : Effect s command s
  | exchange {ids : List ModelId} {t : Source} (index count : Nat) (enrolled : s.Enrolled command.items ids t)
      (staying : ∀ id ∈ s.data.take index ++ s.data.drop (index + count), id ∈ command.staying s) :
      Effect s command (t.exchange index count ids).2
  | setData {items : List Item} {ids : List ModelId} {t : Source} (same : command = .setData items)
      (enrolled : s.Enrolled command.items ids t) : Effect s command (t.replace ids)
  | cancelAll {ids : List ModelId} {t : Source} (same : command = .cancelAll)
      (enrolled : s.Enrolled (s.origin.map .entity) ids t) : Effect s command (t.replace ids)
  | cancel {id : ModelId} (same : command = .cancel id) : Effect s command (s.cancel id)
  | submit (same : command = .submit) : Effect s command s.submit
  | edit {id : ModelId} {change : ModelCommand} {w : Written (Option Bool)} {t : Source}
      (same : command = .edit id change)
      (written : s.write id (fun tracked => tracked.model.perform tracked.fields change) = some (w, t)) :
      Effect s command t

theorem splice_ok {s t : Source} {index count : Nat} {items : List Item} {removed : List ModelId}
    (h : s.splice index count items = .ok (removed, t)) :
    ∃ ids u, s.Enrolled items ids u ∧ t = (u.exchange index count ids).2 := by
  obtain ⟨⟨ids, u⟩, enrolled, made⟩ := ok_of_bind h
  exact ⟨ids, u, enrolled_of_enrollAll enrolled, congrArg Prod.snd (Except.ok.inj made).symm⟩

theorem insert_ok {s t : Source} {index : Nat} {item : Item} {id : ModelId}
    (h : s.insert index item = .ok (id, t)) : ∃ ids u, s.Enrolled [item] ids u ∧ t = (u.exchange index 0 ids).2 := by
  obtain ⟨⟨first, u⟩, enrolled, made⟩ := ok_of_bind h
  cases made
  have all : s.enrollAll [item] = .ok ([id], u) := by
    rw [enrollAll, enrolled]
    rfl
  exact ⟨[id], u, enrolled_of_enrollAll all, rfl⟩

theorem enrolled_nil (s : Source) : s.Enrolled [] [] s :=
  enrolled_of_enrollAll rfl

theorem effect_of_perform {s t : Source} {command : SourceCommand} {reply : SourceReply}
    (h : s.perform command = .ok (reply, t)) : s.Effect command t := by
  have cut (index : Nat) : ∀ id ∈ s.data.take index ++ s.data.drop (index + 1), id ∈ s.data := by
    intro id hid
    rcases List.mem_append.1 hid with hid | hid
    · exact List.mem_of_mem_take hid
    · exact List.mem_of_mem_drop hid
  have uncut (index : Nat) : ∀ id ∈ s.data.take index ++ s.data.drop (index + 0), id ∈ s.data := by
    intro id hid
    rwa [Nat.add_zero, List.take_append_drop] at hid
  have leaves (p : ModelId → Bool) (items : command.items = []) (staying : command.staying s = s.data)
      (result : t = (s.removeFirst p).2) : s.Effect command t := by
    rw [result]
    refine removeFirst_preserves .nothing (fun index => ?_) p
    exact .exchange index 1 (items ▸ enrolled_nil s) (staying ▸ cut index)
  cases command with
  | add item =>
    obtain ⟨⟨id, v⟩, done, made⟩ := ok_of_bind h
    cases made
    obtain ⟨ids, u, enrolled, rfl⟩ := insert_ok done
    exact .exchange _ 0 enrolled (uncut _)
  | insert index item =>
    obtain ⟨⟨id, v⟩, done, made⟩ := ok_of_bind h
    cases made
    obtain ⟨ids, u, enrolled, rfl⟩ := insert_ok done
    exact .exchange _ 0 enrolled (uncut _)
  | splice index count items =>
    obtain ⟨⟨removed, v⟩, done, made⟩ := ok_of_bind h
    cases made
    obtain ⟨ids, u, enrolled, rfl⟩ := splice_ok done
    exact .exchange _ _ enrolled fun _ hid => hid
  | remove id =>
    cases h
    exact leaves (· == id) rfl rfl rfl
  | removeKey key =>
    cases h
    exact leaves (s.hasKey key) rfl rfl rfl
  | removeAt index =>
    cases h
    exact @Effect.exchange s (.removeAt index) [] s index 1 (enrolled_nil s) (cut index)
  | setData items =>
    obtain ⟨v, done, made⟩ := ok_of_bind h
    cases made
    obtain ⟨⟨ids, u⟩, enrolled, made⟩ := ok_of_bind done
    cases made
    exact .setData rfl (enrolled_of_enrollAll enrolled)
  | cancelAll =>
    obtain ⟨v, done, made⟩ := ok_of_bind h
    cases made
    obtain ⟨⟨ids, u⟩, wrapped, made⟩ := ok_of_bind done
    cases made
    exact .cancelAll rfl (enrolled_of_wrapAll (ok_of_mapError wrapped))
  | cancel id =>
    cases h
    exact .cancel rfl
  | submit =>
    cases h
    exact .submit rfl
  | edit id change =>
    simp only [perform] at h
    split at h
    · cases h
      exact .nothing
    · next w u written =>
      cases h
      exact .edit rfl written

theorem load_ok {s t : Source} {collection : Collection} {ids : List ModelId}
    (h : s.load collection = .ok (ids, t)) :
    ∃ u, s.Enrolled (collection.data.map .entity) ids u ∧
      t = { u with total := collection.total.getD u.total, extra := collection.extra,
                   origin := collection.data }.replace ids := by
  obtain ⟨⟨listed, u⟩, wrapped, made⟩ := ok_of_bind h
  cases made
  exact ⟨u, enrolled_of_wrapAll (ok_of_mapError wrapped), rfl⟩

theorem rebind_model?_self (s : Source) (id : ModelId) (saved : Entity) :
    (s.rebind id saved).model? id = (s.model? id).map fun m => (m.rebase saved).model := by
  rw [rebind, model?_mapModel, if_pos rfl]

theorem rebind_model?_of_ne {s : Source} {id other : ModelId} (ne : other ≠ id) (saved : Entity) :
    (s.rebind id saved).model? other = s.model? other := by
  rw [rebind, model?_mapModel, if_neg (Ne.symm ne)]

structure OfKind (kind : EntityRules → VirtualFields → Prop) (s : Source) : Prop where
  makes : kind s.schema s.fields
  tracked : ∀ tracked ∈ s.models, kind tracked.model.schema tracked.fields

namespace OfKind

variable {kind : EntityRules → VirtualFields → Prop} {s t : Source}

theorem rearranged (h : s.OfKind kind) (r : s.Rearranged t) : t.OfKind kind where
  makes := by
    rw [r.rest]
    exact h.makes
  tracked := by
    intro tracked ht
    have listed : tracked.unobserved ∈ s.models.map Tracked.unobserved := r.models ▸ List.mem_map_of_mem ht
    obtain ⟨old, hold, same⟩ := List.mem_map.1 listed
    have kept := h.tracked old hold
    have schema : old.model.schema = tracked.model.schema := congrArg (fun t => t.model.schema) same
    have fields : old.fields = tracked.fields := congrArg (fun t => t.fields) same
    rwa [schema, fields] at kept

theorem enrolled (h : s.OfKind kind) {items : List Item} {ids : List ModelId} (e : s.Enrolled items ids t) :
    t.OfKind kind where
  makes := by
    rw [e.rest]
    exact h.makes
  tracked := by
    intro tracked ht
    obtain ⟨built, models, fresh⟩ := e.grown
    rw [models] at ht
    rcases List.mem_append.1 ht with ht | ht
    · exact h.tracked tracked ht
    · obtain ⟨uuid, entity, -, hb⟩ := fresh tracked ht
      obtain ⟨schema, fields, -⟩ := tracked_of_build hb
      rw [schema, fields]
      exact h.makes

theorem mapModel (h : s.OfKind kind) (id : ModelId) {f : Model → Model}
    (keeps : ∀ m, s.model? id = some m → (f m).schema = m.schema) : (s.mapModel id f).OfKind kind where
  makes := h.makes
  tracked := by
    intro tracked ht
    obtain ⟨i, hi⟩ := List.mem_iff_getElem?.1 ht
    simp only [Source.mapModel, List.getElem?_modify] at hi
    obtain ⟨old, hold, same⟩ := Option.map_eq_some_iff.1 hi
    have kept := h.tracked old (List.mem_of_getElem? hold)
    split at same
    · next here =>
      rw [← same, keeps old.model (by rw [model?, here, hold]; rfl)]
      exact kept
    · rwa [← same]

theorem preserved (id : ModelId) : Preserved id (OfKind kind) where
  place := fun s old new found keeps h => h.mapModel id fun m hm => by
    rw [found, Option.some.injEq] at hm
    rw [← hm]
    exact keeps.schema
  track := fun s _ _ _ _ _ h => by
    rw [track_frame]
    exact ⟨h.makes, h.tracked⟩

theorem restore (h : s.OfKind kind) (id : ModelId) : (s.restore id).OfKind kind :=
  h.rearranged (restore_frame s id)

theorem cancel (h : s.OfKind kind) (id : ModelId) : (s.cancel id).OfKind kind := by
  refine cancel_preserves h (fun index => h.rearranged (exchange_frame s index 1 []).1) ?_ fun t ht => ht.restore id
  exact (preserved id).resetModel (fun t ht => ⟨ht.makes, ht.tracked⟩) h

theorem submit (h : s.OfKind kind) : s.submit.OfKind kind := by
  obtain ⟨u, origin, hu, result⟩ := submit_eq s
  have submitted : u.OfKind kind := by
    rw [hu]
    exact List.foldlRecOn _ _ h fun s hs id _ => hs.mapModel id fun _ _ => rfl
  rw [result]
  exact ⟨submitted.makes, submitted.tracked⟩

theorem effect (h : s.OfKind kind) {command : SourceCommand} (effect : s.Effect command t)
    (composed : ∀ tracked ∈ s.models, tracked.fields.Composed) : t.OfKind kind := by
  cases effect with
  | nothing => exact h
  | exchange index count e => exact (h.enrolled e).rearranged (exchange_frame _ index count _).1
  | setData _ e => exact (h.enrolled e).rearranged (replace_frame _ _).1
  | cancelAll _ e => exact (h.enrolled e).rearranged (replace_frame _ _).1
  | cancel _ => exact h.cancel _
  | submit _ => exact h.submit
  | edit _ written => exact (preserved _).perform composed written h

theorem accept (h : s.OfKind kind) (call : SyncCall) (answer : call.request.Answer) :
    (s.accept call answer).OfKind kind := by
  have rebound (id : ModelId) (saved : Entity) : (s.rebind id saved).OfKind kind :=
    h.mapModel id fun m _ => (m.rebase_keeps saved).schema
  cases call with
  | create id entity => exact ⟨(rebound id answer).makes, (rebound id answer).tracked⟩
  | update id key changes => exact ⟨(rebound id answer).makes, (rebound id answer).tracked⟩
  | remove id key => exact ⟨h.makes, h.tracked⟩

end OfKind

/-- In the table of a source all setters of virtual fields are composed of commands. -/
theorem Reachable.composed {allowed : Source → SourceCommand → Prop} {s : Source} (h : s.Reachable allowed) :
    s.OfKind fun _ fields => fields.Composed := by
  induction h with
  | start schema composed autoSync paginator => exact ⟨composed, by simp [empty]⟩
  | @make s uuid schema fields value tracked ids _ composed built ih =>
    refine ⟨ih.makes, fun other ho => ?_⟩
    rcases List.mem_append.1 ho with ho | ho
    · exact ih.tracked other ho
    · rw [List.mem_singleton.1 ho, (tracked_of_build built).2.1]
      exact composed
  | perform _ _ _ done ih => exact ih.effect (effect_of_perform done) ih.tracked
  | load _ done ih =>
    obtain ⟨u, enrolled, rfl⟩ := load_ok done
    have grown := ih.enrolled enrolled
    refine OfKind.rearranged ?_ (replace_frame _ _).1
    exact ⟨grown.makes, grown.tracked⟩
  | advance tasks _ ih =>
    obtain ⟨updated, origin, shape, -⟩ := syncNext_source _ tasks
    rw [shape]
    exact ⟨ih.makes, ih.tracked⟩
  | accept call answer _ ih => exact ih.accept call answer
  | ask filter sort paginator scheduled _ ih => exact ⟨ih.makes, ih.tracked⟩

end Source

end RecordSync
