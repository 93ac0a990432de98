import RecordSync.Proofs.Model.Rebase
import RecordSync.Proofs.Source.Following
import RecordSync.Proofs.Source.Sync

/-!
# Histories of a source

A history tells what has happened to a source, in order, with the calls that its syncs have made and the answers they
got. Anything can happen between a call and its answer; a sync that is not interrupted is a part of a history as well.
-/

set_option autoImplicit false

namespace RecordSync

inductive SourceEvent where
  | made
  | performed (command : SourceCommand) (members : List ModelId)
  | fetched (members : List ModelId)
  | advanced (call : Option SyncCall)
  | accepted (call : SyncCall) (answer : call.request.Answer)
  | asked

def SourceEvent.call? : SourceEvent → Option SyncCall
  | .advanced call => call
  | _ => none

def SyncNext.call? : SyncNext → Option SyncCall
  | .call made _ _ => some made
  | .finished _ | .failed _ _ => none

namespace Source

inductive Step : Source → SourceEvent → Source → Prop where
  | make {s : Source} {uuid : String} {schema : EntityRules} {fields : VirtualFields} {entity : Entity} {tracked : Tracked}
      (ids : IdSupply) (composed : fields.Composed) (ordered : KeyMap.Ordered entity)
      (built : Tracked.build uuid schema fields (.obj entity) = .ok tracked) :
      Step s .made { s with ids, models := s.models ++ [tracked] }
  | perform {s t : Source} {command : SourceCommand} {reply : SourceReply}
      (known : ∀ id ∈ Item.handles command.items, id < s.models.length)
      (ordered : ∀ entity, Item.entity entity ∈ command.items → KeyMap.Ordered entity)
      (done : s.perform command = .ok (reply, t)) : Step s (.performed command t.data) t
  | load {s t : Source} {collection : Collection} {ids : List ModelId}
      (ordered : ∀ row ∈ collection.data, KeyMap.Ordered row) (done : s.load collection = .ok (ids, t)) :
      Step s (.fetched t.data) t
  | advance {s : Source} (tasks : List SyncTask) : Step s (.advanced (s.syncNext tasks).call?) (s.syncNext tasks).source
  | accept {s : Source} (call : SyncCall) (answer : call.request.Answer) :
      Step s (.accepted call answer) (s.accept call answer)
  | ask {s : Source} (filter : Option FilterGroup) (sort : Option (List SortDescriptor)) (paginator : Paginator)
      (scheduled : Nat) : Step s .asked { s with filter, sort, paginator, scheduled }

/-- The states of a source with all that has happened to it. Which events are allowed may depend on what has happened
so far. -/
inductive History (allowed : List SourceEvent → Source → SourceEvent → Prop) : List SourceEvent → Source → Prop where
  | start {fields : VirtualFields} (schema : EntityRules) (composed : fields.Composed) (autoSync : Bool)
      (paginator : Paginator) : History allowed [] (.empty schema fields autoSync paginator)
  | next {log : List SourceEvent} {s t : Source} {event : SourceEvent} (h : History allowed log s)
      (ok : allowed log s event) (step : s.Step event t) : History allowed (log ++ [event]) t

variable {allowed : List SourceEvent → Source → SourceEvent → Prop}

theorem Step.reachable {s t : Source} {event : SourceEvent} {permitted : Source → SourceCommand → Prop}
    (step : s.Step event t) (ok : ∀ command members, event = .performed command members → permitted s command)
    (h : s.Reachable permitted) : t.Reachable permitted := by
  cases step with
  | make ids composed _ built => exact h.make ids composed built
  | perform known _ done => exact h.perform (ok _ _ rfl) known done
  | load _ done => exact h.load done
  | advance tasks => exact h.advance tasks
  | accept call answer => exact h.accept call answer
  | ask filter sort paginator scheduled => exact h.ask filter sort paginator scheduled

theorem History.reachable {log : List SourceEvent} {s : Source} {permitted : Source → SourceCommand → Prop}
    (h : History allowed log s)
    (ok : ∀ log s command members, allowed log s (.performed command members) → permitted s command) :
    s.Reachable permitted := by
  induction h with
  | start schema composed autoSync paginator => exact .start schema composed autoSync paginator
  | next _ allowed step ih => exact step.reachable (fun _ _ same => ok _ _ _ _ (same ▸ allowed)) ih

theorem History.mono {permitted : List SourceEvent → Source → SourceEvent → Prop} {log : List SourceEvent} {s : Source}
    (h : History allowed log s) (weaker : ∀ log s event, allowed log s event → permitted log s event) :
    History permitted log s := by
  induction h with
  | start schema composed autoSync paginator => exact .start schema composed autoSync paginator
  | next _ ok step ih => exact .next ih (weaker _ _ _ ok) step

theorem History.split {before after : List SourceEvent} {event : SourceEvent} {t : Source}
    (h : History allowed (before ++ event :: after) t) :
    ∃ s u, History allowed before s ∧ allowed before s event ∧ s.Step event u := by
  generalize whole : before ++ event :: after = log at h
  induction h generalizing after with
  | start => simp at whole
  | @next log s t last h ok step ih =>
    rcases List.eq_nil_or_concat after with rfl | ⟨rest, final, rfl⟩
    · obtain ⟨rfl, same⟩ := List.append_inj' whole rfl
      cases same
      exact ⟨s, t, h, ok, step⟩
    · rw [List.concat_eq_append, ← List.cons_append, ← List.append_assoc] at whole
      exact ih (List.append_inj' whole rfl).1

theorem History.perform {log : List SourceEvent} {s t : Source} {command : SourceCommand} {reply : SourceReply}
    (h : History allowed log s) (done : s.perform command = .ok (reply, t)) (alone : command.items = [])
    (ok : allowed log s (.performed command t.data)) : History allowed (log ++ [.performed command t.data]) t :=
  h.next ok (.perform (by simp [alone]) (by simp [alone]) done)

theorem History.performAll? {log : List SourceEvent} {s t : Source} {commands : List SourceCommand}
    (h : History allowed log s) (ok : ∀ command ∈ commands, ∀ log u members, allowed log u (.performed command members))
    (alone : ∀ command ∈ commands, command.items = []) (done : s.performAll? commands = some t) :
    ∃ events, History allowed (log ++ events) t := by
  induction commands generalizing log s with
  | nil =>
    cases done
    exact ⟨[], (List.append_nil log).symm ▸ h⟩
  | cons command rest ih =>
    rw [Source.performAll?, List.foldlM_cons] at done
    obtain ⟨u, hu, later⟩ := Option.bind_eq_some_iff.1 done
    obtain ⟨⟨reply, v⟩, performed, rfl⟩ := Option.map_eq_some_iff.1 hu
    have after := h.perform (ok_of_toOption performed) (alone command (.head _)) (ok command (.head _) _ _ _)
    obtain ⟨events, whole⟩ := ih after (fun c hc => ok c (.tail _ hc)) (fun c hc => alone c (.tail _ hc)) later
    exact ⟨_, List.append_assoc _ _ _ ▸ whole⟩

inductive Calls (s : Source) : SyncCall → Prop where
  | create {id : ModelId} (added : id ∈ s.changes.added) : Calls s (.create id (s.entity id))
  | update {id : ModelId} {m : Model} {key : PrimaryKey} (updated : id ∈ s.changes.updated)
      (found : s.model? id = some m) (dirty : m.isDirty = true) (keyed : keyOf m = .ok key) :
      Calls s (.update id key m.dirtyFields)
  | remove {id : ModelId} {m : Model} {key : PrimaryKey} (removed : id ∈ s.changes.removed)
      (found : s.model? id = some m) (keyed : keyOf m = .ok key) : Calls s (.remove id key)

def Awaits (s : Source) : SyncCall → Prop
  | .create id _ => id ∈ s.changes.added
  | .update id _ _ => id ∈ s.changes.updated
  | .remove id _ => id ∈ s.changes.removed

theorem Calls.awaits {s : Source} {call : SyncCall} (h : s.Calls call) : s.Awaits call := by
  cases h with
  | create added => exact added
  | update updated => exact updated
  | remove removed => exact removed

theorem accept_model?_of_ne {s : Source} {call : SyncCall} {other : ModelId} (ne : other ≠ call.task.id)
    (answer : call.request.Answer) : (s.accept call answer).model? other = s.model? other := by
  cases call with
  | create id entity => exact rebind_model?_of_ne ne answer
  | update id key changes => exact rebind_model?_of_ne ne answer
  | remove id key => rfl

theorem data_accept (s : Source) (call : SyncCall) (answer : call.request.Answer) :
    (s.accept call answer).data = s.data := by
  cases call <;> rfl

theorem data_syncNext (s : Source) (tasks : List SyncTask) : (s.syncNext tasks).source.data = s.data := by
  obtain ⟨updated, origin, shape, -⟩ := syncNext_source s tasks
  rw [shape]

/-- On its way to the next call a sync takes clean models off the updated ones, and does nothing else. -/
theorem syncNext_induct {P : Source → SyncNext → Prop}
    (finished : ∀ s : Source, P s (.finished { s with origin := s.entities }))
    (failed : ∀ s e, P s (.failed e s)) (call : ∀ s call rest, s.Calls call → P s (.call call rest s))
    (drop : ∀ (s : Source) (id : ModelId) (next : SyncNext), s.holds Model.isDirty id = false →
      P { s with changes := { s.changes with updated := s.changes.updated.erase id } } next → P s next)
    (s : Source) (tasks : List SyncTask) : P s (s.syncNext tasks) := by
  have keyed (s : Source) (m : Model) (f : PrimaryKey → SyncCall) (rest : List SyncTask)
      (calls : ∀ key, keyOf m = .ok key → s.Calls (f key)) : P s (s.keyedCall m f rest) := by
    unfold keyedCall
    split
    · next key found => exact call s _ rest (calls key found)
    · exact failed s _
  induction tasks generalizing s with
  | nil => exact finished s
  | cons task rest ih =>
    cases task with
    | create id =>
      rw [syncNext]
      split
      · next added => exact call s _ rest (.create (List.contains_iff_mem.1 added))
      · exact ih s
    | update id =>
      rw [syncNext]
      split
      · exact ih s
      · next m found =>
        split
        · exact ih s
        · next updated =>
          split
          · next clean =>
            refine drop s id _ ?_ (ih _)
            rw [holds_of_model? found]
            simpa using clean
          · next dirty =>
            refine keyed s m _ rest fun key ok => ?_
            exact .update (by simpa using updated) found (by simpa using dirty) ok
    | remove id =>
      rw [syncNext]
      split
      · exact ih s
      · next m found =>
        split
        · exact ih s
        · next removed => exact keyed s m _ rest fun key ok => .remove (by simpa using removed) found ok

theorem calls_of_syncNext {s t : Source} {tasks rest : List SyncTask} {call : SyncCall}
    (h : s.syncNext tasks = .call call rest t) : t.Calls call := by
  have made := syncNext_induct (P := fun _ next => ∀ call rest t, next = .call call rest t → t.Calls call)
    (fun _ _ _ _ none => by cases none) (fun _ _ _ _ _ none => by cases none)
    (fun s call rest calls _ _ _ same => by cases same; exact calls) (fun _ _ _ _ later => later) s tasks
  exact made call rest t h

/-- A sync that goes on to a call makes it of the source as it then is. -/
theorem Step.calls {s t : Source} {call : SyncCall} (step : s.Step (.advanced (some call)) t) : t.Calls call := by
  generalize same : SourceEvent.advanced (some call) = event at step
  cases step with
  | advance tasks =>
    rw [SourceEvent.advanced.injEq] at same
    cases next : s.syncNext tasks with
    | call made rest u =>
      rw [next] at same
      cases same
      exact calls_of_syncNext next
    | finished u | failed e u => rw [next] at same; cases same
  | _ => cases same

theorem clean_of_syncNext {s : Source} {tasks : List SyncTask} {id : ModelId} (updated : id ∈ s.changes.updated)
    (settled : id ∉ (s.syncNext tasks).source.changes.updated) : s.holds Model.isDirty id = false := by
  refine syncNext_induct (P := fun s next => id ∈ s.changes.updated → id ∉ next.source.changes.updated →
    s.holds Model.isDirty id = false) (fun _ listed unlisted => absurd listed unlisted)
    (fun _ _ listed unlisted => absurd listed unlisted) (fun _ _ _ _ listed unlisted => absurd listed unlisted)
    (fun s other next clean later listed unlisted => ?_) s tasks updated settled
  by_cases same : id = other
  · exact same ▸ clean
  · exact later ((List.mem_erase_of_ne same).2 listed) unlisted

theorem origin_syncNext (s : Source) (tasks : List SyncTask) :
    (s.syncNext tasks).source.origin = s.origin ∨ (s.syncNext tasks).source.origin = s.entities :=
  syncNext_induct (P := fun s next => next.source.origin = s.origin ∨ next.source.origin = s.entities)
    (fun _ => .inr rfl) (fun _ _ => .inl rfl) (fun _ _ _ _ => .inl rfl) (fun _ _ _ _ later => later) s tasks

/-- A whole sync is a part of a history, if nothing is against its calls and the answers they get at once. -/
theorem History.sync {log : List SourceEvent} {s t : Source} {tasks : List SyncTask} {issued : List Issued}
    {failure : Option SourceError} (advances : ∀ log s call, allowed log s (.advanced call))
    (accepts : ∀ log s call answer, History allowed log s → s.Awaits call → allowed log s (.accepted call answer))
    (h : History allowed log s) (run : s.SyncRun tasks issued failure t) :
    ∃ events, History allowed (log ++ events) t ∧ events.filterMap SourceEvent.call? = issued.map (·.call) := by
  have goes {log : List SourceEvent} {s : Source} (h : History allowed log s) (tasks : List SyncTask) :=
    h.next (advances log s (s.syncNext tasks).call?) (.advance tasks)
  induction run generalizing log with
  | @finished s t tasks next | @failed s t tasks _ next =>
    have after := goes h tasks
    rw [next] at after
    exact ⟨_, after, rfl⟩
  | @refused s t tasks rest call next e =>
    have after := goes h tasks
    rw [next] at after
    exact ⟨_, after, rfl⟩
  | @accepted s t u tasks rest call issued failure next answer later ih =>
    have after := goes h tasks
    rw [next] at after
    have answered := after.next (accepts _ _ call answer after (calls_of_syncNext next).awaits) (.accept call answer)
    obtain ⟨events, whole, calls⟩ := ih answered
    refine ⟨.advanced (some call) :: .accepted call answer :: events, ?_, ?_⟩
    · rw [List.append_assoc, List.append_assoc] at whole
      exact whole
    · rw [List.map_cons, ← calls]
      rfl

/-- The dirty fields of all models are accounted for, and what the provider knows is in key order. -/
structure Sound (s : Source) : Prop where
  accounted : ∀ id m, s.model? id = some m → m.Accounted
  origin : ∀ row ∈ s.origin, KeyMap.Ordered row

namespace Sound

variable {s t : Source}

theorem rearranged (h : s.Sound) (r : s.Rearranged t) : t.Sound where
  accounted := by
    intro id m found
    obtain ⟨old, before, same⟩ := r.models.model? found
    have accounted := h.accounted id old before
    have root : old.root = m.root := show old.unobserved.root = m.unobserved.root from congrArg Model.root same
    have dirty : old.dirty = m.dirty := show old.unobserved.dirty = m.unobserved.dirty from congrArg Model.dirty same
    have committed : old.committed = m.committed :=
      show old.unobserved.committed = m.unobserved.committed from congrArg Model.committed same
    refine ⟨root ▸ accounted.isObject, dirty ▸ accounted.nodup, fun name => ?_⟩
    rw [← dirty, accounted.mem_dirty, Model.Differs, Model.Differs, Model.field?, Model.field?, root, committed]
  origin := by
    rw [r.rest]
    exact h.origin

theorem of_same (h : s.Sound) (models : t.models = s.models) (origin : t.origin = s.origin) : t.Sound where
  accounted := by
    unfold Source.model?
    rw [models]
    exact h.accounted
  origin := origin ▸ h.origin

theorem append (h : s.Sound) {built : List Tracked} (ids : IdSupply)
    (accounted : ∀ tracked ∈ built, tracked.model.Accounted) :
    ({ s with ids, models := s.models ++ built } : Source).Sound where
  accounted := by
    intro id m found
    obtain ⟨tracked, listed, rfl⟩ := Option.map_eq_some_iff.1 found
    rcases List.mem_append.1 (List.mem_of_getElem? listed) with old | new
    · obtain ⟨i, hi⟩ := List.mem_iff_getElem?.1 old
      exact h.accounted i tracked.model (by rw [Source.model?, hi]; rfl)
    · exact accounted tracked new
  origin := h.origin

theorem accounted_of_built {uuid : String} {schema : EntityRules} {fields : VirtualFields} {entity : Entity}
    {tracked : Tracked} (ordered : KeyMap.Ordered entity)
    (built : Tracked.build uuid schema fields (.obj entity) = .ok tracked) : tracked.model.Accounted := by
  obtain ⟨m, hm, made⟩ := ok_of_bind built
  cases made
  exact Model.accounted_of_build ordered hm

theorem clean_of_built {uuid : String} {schema : EntityRules} {fields : VirtualFields} {entity : Entity} {tracked : Tracked}
    (built : Tracked.build uuid schema fields (.obj entity) = .ok tracked) : tracked.model.isDirty = false := by
  obtain ⟨m, hm, made⟩ := ok_of_bind built
  cases made
  obtain ⟨root, -, rfl⟩ := Model.build_eq hm
  rfl

theorem enrolled (h : s.Sound) {items : List Item} {ids : List ModelId} (e : s.Enrolled items ids t)
    (ordered : ∀ entity, Item.entity entity ∈ items → KeyMap.Ordered entity) : t.Sound := by
  obtain ⟨built, models, fresh⟩ := e.grown
  rw [e.rest, models]
  refine h.append t.ids fun tracked listed => ?_
  obtain ⟨uuid, entity, item, hb⟩ := fresh tracked listed
  exact accounted_of_built (ordered entity item) hb

theorem mapModel (h : s.Sound) (id : ModelId) {f : Model → Model} (keeps : ∀ m, m.Accounted → (f m).Accounted) :
    (s.mapModel id f).Sound where
  accounted := by
    intro other m found
    rw [model?_mapModel] at found
    split at found
    · obtain ⟨old, before, rfl⟩ := Option.map_eq_some_iff.1 found
      exact keeps old (h.accounted other old before)
    · exact h.accounted other m found
  origin := h.origin

theorem ordered_entities (h : s.Sound) : ∀ row ∈ s.entities, KeyMap.Ordered row := by
  intro row listed
  obtain ⟨id, -, rfl⟩ := List.mem_map.1 listed
  unfold Source.entity
  cases found : s.model? id with
  | none => exact List.Pairwise.nil
  | some m =>
    obtain ⟨fields, root, ordered⟩ := (h.accounted id m found).isObject
    show KeyMap.Ordered m.toEntity
    rwa [Model.toEntity_of_root root]

theorem accept (h : s.Sound) (call : SyncCall) (answer : call.request.Answer) : (s.accept call answer).Sound := by
  have rebound (id : ModelId) (saved : Entity) : (s.rebind id saved).Sound :=
    h.mapModel id fun _ accounted => Model.rebase_accounted accounted saved
  cases call with
  | create id entity => exact (rebound id answer).of_same rfl rfl
  | update id key changes => exact (rebound id answer).of_same rfl rfl
  | remove id key => exact h.of_same rfl rfl

theorem submit (h : s.Sound) : s.submit.Sound := by
  obtain ⟨u, -, hu, -⟩ := submit_eq s
  have submitted : u.Sound := by
    rw [hu]
    exact List.foldlRecOn _ _ h fun s hs id _ => hs.mapModel id fun _ => Model.submit_accounted
  have result : s.submit = { u with changes := {}, removedAt := [], origin := u.entities } := by
    rw [hu]
    rfl
  rw [result]
  exact ⟨submitted.accounted, submitted.ordered_entities⟩

theorem write (h : s.Sound) {α : Type} {id : ModelId} {f : Tracked → Written α} {w : Written α}
    (run : ∀ tracked, s.models[id]? = some tracked → Model.Run tracked.model (f tracked).signals (f tracked).model)
    (written : s.write id f = some (w, t)) : t.Sound := by
  obtain ⟨tracked, rfl, outcome⟩ := write_outcome run written
  refine ⟨fun other m found => ?_, ?_⟩
  · by_cases same : other = id
    · subst same
      rw [outcome.placed, Option.some.injEq] at found
      rw [← found]
      exact (run tracked outcome.found).accounted (h.accounted other _ outcome.model?)
    · rw [outcome.others other same] at found
      exact h.accounted other m found
  · rw [outcome.rest]
    exact h.origin

theorem cancel (h : s.Sound) (id : ModelId) : (s.cancel id).Sound := by
  refine cancel_preserves h (fun index => h.rearranged (exchange_frame s index 1 []).1) ?_ fun t ht =>
    ht.rearranged (restore_frame t id)
  unfold Source.resetModel
  split
  · exact h
  · next w t written =>
    exact (h.write (reset_run s id) written).of_same rfl rfl

theorem ordered_of_entities {rows : List Entity} (ordered : ∀ row ∈ rows, KeyMap.Ordered row) :
    ∀ entity, Item.entity entity ∈ rows.map Item.entity → KeyMap.Ordered entity := by
  intro entity listed
  obtain ⟨row, known, same⟩ := List.mem_map.1 listed
  cases same
  exact ordered entity known

theorem effect (h : s.Sound) {command : SourceCommand} (effect : s.Effect command t)
    (ordered : ∀ entity, Item.entity entity ∈ command.items → KeyMap.Ordered entity)
    (composed : ∀ tracked ∈ s.models, tracked.fields.Composed) : t.Sound := by
  cases effect with
  | nothing => exact h
  | exchange index count e => exact (h.enrolled e ordered).rearranged (exchange_frame _ index count _).1
  | setData _ e => exact (h.enrolled e ordered).rearranged (replace_frame _ _).1
  | cancelAll _ e =>
    exact (h.enrolled e (ordered_of_entities h.origin)).rearranged (replace_frame _ _).1
  | cancel _ => exact h.cancel _
  | submit _ => exact h.submit
  | edit _ written =>
    exact h.write (fun tracked found => Model.perform_run (composed tracked (List.mem_of_getElem? found)) _ _) written

theorem step (h : s.Sound) (composed : s.OfKind fun _ fields => fields.Composed) {event : SourceEvent}
    (step : s.Step event t) : t.Sound := by
  cases step with
  | make ids _ ordered built =>
    exact h.append ids fun tracked listed => List.mem_singleton.1 listed ▸ accounted_of_built ordered built
  | perform _ ordered done => exact h.effect (effect_of_perform done) ordered composed.tracked
  | @load _ collection _ ordered done =>
    obtain ⟨u, e, rfl⟩ := load_ok done
    have enrolled := h.enrolled e (ordered_of_entities ordered)
    have filled : ({ u with
        total := collection.total.getD u.total, extra := collection.extra, origin := collection.data } : Source).Sound :=
      ⟨enrolled.accounted, ordered⟩
    exact filled.rearranged (replace_frame _ _).1
  | advance tasks =>
    obtain ⟨updated, origin, shape, -⟩ := syncNext_source s tasks
    constructor
    · rw [shape]
      exact h.accounted
    · rcases origin_syncNext s tasks with same | same
      · exact same ▸ h.origin
      · exact same ▸ h.ordered_entities
  | accept call answer => exact h.accept call answer
  | ask filter sort paginator scheduled => exact h.of_same rfl rfl

theorem empty (schema : EntityRules) (fields : VirtualFields) (autoSync : Bool) (paginator : Paginator) :
    (Source.empty schema fields autoSync paginator).Sound where
  accounted := by simp [Source.empty, Source.model?]
  origin := by simp [Source.empty]

end Sound

theorem History.reachable_any {log : List SourceEvent} {s : Source} (h : History allowed log s) :
    s.Reachable fun _ _ => True :=
  h.reachable fun _ _ _ _ _ => trivial

theorem History.sound {log : List SourceEvent} {s : Source} (h : History allowed log s) : s.Sound := by
  induction h with
  | start schema _ autoSync paginator => exact .empty schema _ autoSync paginator
  | next h _ step ih => exact ih.step h.reachable_any.composed step

/-- No model is brought in that is a member already. -/
def Separate (_ : List SourceEvent) (s : Source) : SourceEvent → Prop
  | .performed command _ => command.Fresh s
  | _ => True

theorem Coherent.make {s : Source} (h : s.Coherent) {tracked : Tracked} (ids : IdSupply)
    (unobserved : tracked.model.observers = []) :
    ({ s with ids, models := s.models ++ [tracked] } : Source).Coherent := by
  refine h.of_same (by simp) rfl rfl rfl rfl (h.follows.append ?_)
  simpa using unobserved

theorem Coherent.load {s t : Source} (h : s.Coherent) {collection : Collection} {ids : List ModelId}
    (done : s.load collection = .ok (ids, t)) : t.Coherent := by
  obtain ⟨u, enrolled, rfl⟩ := load_ok done
  have follows := (enrolled.follows h.follows).of_same
    (t := { u with total := collection.total.getD u.total, extra := collection.extra, origin := collection.data })
    rfl rfl
  exact replace follows enrolled.nodup_of_entities fun id hid => enrolled.lt_of_entities hid

theorem Coherent.advance {s : Source} (h : s.Coherent) (tasks : List SyncTask) :
    (s.syncNext tasks).source.Coherent := by
  obtain ⟨updated, origin, shape, sub⟩ := syncNext_source s tasks
  rw [shape]
  have dropped := h.toConsistent.drop (.refl _) sub
  exact ⟨dropped.of_same (Nat.le_refl _) rfl rfl rfl (dropped.follows.of_same rfl rfl), h.nodup⟩

theorem Coherent.step {s t : Source} (h : s.Coherent) (composed : s.OfKind fun _ fields => fields.Composed)
    {log : List SourceEvent} {event : SourceEvent} (separate : Separate log s event) (step : s.Step event t) :
    t.Coherent := by
  cases step with
  | make ids _ _ built => exact h.make ids (tracked_of_build built).2.2
  | perform known _ done => exact h.effect (effect_of_perform done) separate known composed.tracked
  | load _ done => exact h.load done
  | advance tasks => exact h.advance tasks
  | accept call answer => exact h.accept call answer
  | ask filter sort paginator scheduled =>
    exact h.of_same (Nat.le_refl _) rfl rfl rfl rfl (h.follows.of_same rfl rfl)

theorem History.coherent {log : List SourceEvent} {s : Source} (h : History allowed log s)
    (separate : ∀ log s event, allowed log s event → Separate log s event) : s.Coherent := by
  induction h with
  | start schema _ autoSync paginator => exact .empty schema _ autoSync paginator
  | next h ok step ih => exact ih.step h.reachable_any.composed (separate _ _ _ ok) step

def fetched? (rows : List Entity) : Option Source :=
  ((empty .standard [] false .disabled).load { data := rows, total := none, extra := [] }).toOption.map (·.2)

theorem fetched?_history {rows : List Entity} {s : Source} (ordered : ∀ row ∈ rows, KeyMap.Ordered row)
    (ok : ∀ log s members, allowed log s (.fetched members)) (found : fetched? rows = some s) :
    History allowed [.fetched s.data] s := by
  obtain ⟨⟨ids, t⟩, loaded, rfl⟩ := Option.map_eq_some_iff.1 found
  have start : History allowed [] _ := .start .standard VirtualFields.composed_nil false .disabled
  exact start.next (ok _ _ _) (.load ordered (ok_of_toOption loaded))

def worked? (rows : List Entity) (commands : List SourceCommand) : Option Source :=
  (fetched? rows).bind fun s => s.performAll? commands

theorem worked?_history {rows : List Entity} {commands : List SourceCommand} {s : Source}
    (ordered : ∀ row ∈ rows, KeyMap.Ordered row) (fetches : ∀ log s members, allowed log s (.fetched members))
    (free : ∀ command ∈ commands, ∀ log s members, allowed log s (.performed command members))
    (alone : ∀ command ∈ commands, command.items = []) (found : worked? rows commands = some s) :
    ∃ log, History allowed log s := by
  obtain ⟨fetched, before, done⟩ := Option.bind_eq_some_iff.1 found
  obtain ⟨events, h⟩ := (fetched?_history ordered fetches before).performAll? free alone done
  exact ⟨_, h⟩

def namedRow (n : Int) : Entity := [("id", .num (.int n)), ("name", .str "a")]

theorem namedRow_ordered (n : Int) : KeyMap.Ordered (namedRow n) := by
  have ascending : "id" < "name" := by decide
  exact List.pairwise_pair.2 ascending

end Source

end RecordSync
