import RecordSync.Proofs.Model.Validity
import RecordSync.Proofs.Source.Reachable
import RecordSync.Source.Attempt
import RecordSync.Source.Session

/-!
# Failed operations

An operation on a collection first takes in all that it is given, which only enters models into the table, and nothing
can fail any more once it has begun to change the collection. So a failure leaves no trace in the collection, whichever
step fails and however models are made.
-/

set_option autoImplicit false

namespace RecordSync

/-- All of a collection is as it was: the list, what is pending, the snapshot, the totals, what the next fetch asks
for, and who is followed. Models may have been made, but those that were there have not been touched. -/
structure Source.Untouched (s t : Source) : Prop where
  rest : t = { s with ids := t.ids, models := t.models }
  grown : s.models <+: t.models

namespace Source.Untouched

variable {s t u : Source}

theorem refl (s : Source) : s.Untouched s := ⟨rfl, List.prefix_refl _⟩

theorem trans (h : s.Untouched t) (k : t.Untouched u) : s.Untouched u where
  rest := by rw [k.rest, h.rest]
  grown := h.grown.trans k.grown

end Source.Untouched

namespace Attempt

variable {α β : Type} {make : Factory}

theorem on_bind (attempt : Attempt α) (next : α → Attempt β) (s : Source) :
    (attempt >>= next).on s = match attempt.on s with
      | (.ok value, t) => (next value).on t
      | (.error e, t) => (.error e, t) := by
  show (match attempt.on s with | (outcome, t) => StateT.run (ExceptT.bindCont next outcome) t) = _
  rcases attempt.on s with ⟨_ | value, t⟩ <;> rfl

theorem on_modifyGet (f : Source → α × Source) (s : Source) :
    (modifyGet f : Attempt α).on s = (.ok (f s).1, (f s).2) := rfl

def Enters (attempt : Attempt α) : Prop := ∀ s : Source, s.Untouched (attempt.on s).2

def Sure (attempt : Attempt α) : Prop := ∀ s : Source, ∃ value t, attempt.on s = (.ok value, t)

/-- An attempt that fails only as long as nothing but the table has been touched. -/
def Careful (attempt : Attempt α) : Prop :=
  ∀ (s t : Source) (e : SourceError), attempt.on s = (.error e, t) → s.Untouched t

theorem enters_of (outcome : Except SourceError α) : Enters (of outcome) := Source.Untouched.refl

theorem enters_get : Enters get := Source.Untouched.refl

theorem enters_pure (value : α) : Enters (pure value) := Source.Untouched.refl

theorem Enters.bind {attempt : Attempt α} {next : α → Attempt β} (h : Enters attempt)
    (k : ∀ value, Enters (next value)) : Enters (attempt >>= next) := by
  intro s
  have first := h s
  rw [on_bind]
  generalize attempt.on s = reached at first ⊢
  rcases reached with ⟨_ | value, t⟩
  · exact first
  · exact first.trans (k value t)

theorem sure_pure (value : α) : Sure (pure value) := fun s => ⟨value, s, rfl⟩

theorem sure_modify (f : Source → Source) : Sure (modify f) := fun s => ⟨⟨⟩, f s, rfl⟩

theorem sure_modifyGet (f : Source → α × Source) : Sure (modifyGet f) := fun s => ⟨(f s).1, (f s).2, rfl⟩

theorem Sure.bind {attempt : Attempt α} {next : α → Attempt β} (h : Sure attempt) (k : ∀ value, Sure (next value)) :
    Sure (attempt >>= next) := by
  intro s
  obtain ⟨value, t, first⟩ := h s
  rw [on_bind, first]
  exact k value t

theorem Sure.careful {attempt : Attempt α} (h : Sure attempt) : Careful attempt := by
  intro s t e failed
  obtain ⟨value, u, done⟩ := h s
  rw [done] at failed
  cases failed

theorem Enters.then {attempt : Attempt α} {next : α → Attempt β} (h : Enters attempt)
    (k : ∀ value, Careful (next value)) : Careful (attempt >>= next) := by
  intro s t e failed
  have first := h s
  rw [on_bind] at failed
  generalize attempt.on s = reached at first failed
  rcases reached with ⟨_ | value, u⟩
  · cases failed
    exact first
  · exact first.trans (k value u t e failed)

theorem Careful.then {attempt : Attempt α} {next : α → Attempt β} (h : Careful attempt)
    (k : ∀ value, Sure (next value)) : Careful (attempt >>= next) := by
  intro s t e failed
  rw [on_bind] at failed
  cases first : attempt.on s with
  | mk outcome u =>
    rw [first] at failed
    cases outcome with
    | error cause =>
      cases failed
      exact h s t e first
    | ok value =>
      obtain ⟨result, v, done⟩ := k value u
      have passed : (next value).on u = (.error e, t) := failed
      rw [done] at passed
      cases passed

theorem enters_wrap (entity : Entity) : Enters (wrap make entity) := by
  intro s
  show s.Untouched { s with ids := _, models := s.models ++ _ }
  exact ⟨rfl, List.prefix_append _ _⟩

theorem enters_enroll (item : Item) : Enters (enroll make item) := by
  cases item with
  | entity entity => exact enters_wrap entity
  | model id => exact enters_pure id

theorem enters_enrollAll (items : List Item) : Enters (enrollAll make items) := by
  induction items with
  | nil => exact enters_pure []
  | cons item rest ih =>
    refine (enters_enroll item).bind fun id => ?_
    exact ih.bind fun later => enters_pure (id :: later)

theorem careful_splice (index count : Nat) (items : List Item) : Careful (splice make index count items) :=
  (enters_enrollAll items).then fun _ => (sure_modifyGet _).careful

theorem careful_insert (index : Nat) (item : Item) : Careful (insert make index item) :=
  (enters_enroll item).then fun id => ((sure_modify _).bind fun _ => sure_pure id).careful

theorem careful_add (item : Item) : Careful (add make item) :=
  enters_get.then fun s => careful_insert s.data.length item

theorem careful_setData (items : List Item) : Careful (setData make items) :=
  (enters_enrollAll items).then fun _ => (sure_modify _).careful

theorem careful_cancelAll : Careful (cancelAll make) :=
  enters_get.then fun _ => (enters_enrollAll _).then fun _ => (sure_modify _).careful

theorem careful_setFilters (filter : FilterInput) : Careful (setFilters filter) :=
  (enters_of _).then fun _ => (sure_modify _).careful

theorem careful_addFilter (item : FilterItem) : Careful (addFilter item) :=
  (enters_of _).then fun _ => ((sure_modify _).bind fun _ => sure_modify _).careful

theorem careful_receive (answer : Outcome Collection) : Careful (receive make answer) := by
  refine (enters_of _).then fun collection => (enters_enrollAll _).then fun ids => ?_
  -- From here on the totals, the snapshot and the list are written, and nothing can fail.
  exact ((sure_modify _).bind fun _ => (sure_modify _).bind fun _ => (sure_modify _).bind fun _ =>
    (sure_modify _).bind fun _ => sure_pure ids).careful

theorem careful_perform (command : SourceCommand) : Careful (perform make command) := by
  cases command with
  | add item => exact (careful_add item).then fun _ => sure_pure _
  | insert index item => exact (careful_insert index item).then fun _ => sure_pure _
  | splice index count items => exact (careful_splice index count items).then fun _ => sure_pure _
  | setData items => exact (careful_setData items).then fun _ => sure_pure _
  | cancelAll => exact careful_cancelAll.then fun _ => sure_pure _
  | remove id => exact ((sure_modifyGet _).bind fun _ => sure_pure _).careful
  | removeKey key => exact ((sure_modifyGet _).bind fun _ => sure_pure _).careful
  | removeAt index => exact ((sure_modifyGet _).bind fun _ => sure_pure _).careful
  | cancel id => exact ((sure_modify _).bind fun _ => sure_pure _).careful
  | submit => exact ((sure_modify _).bind fun _ => sure_pure _).careful
  | edit id command => exact (sure_modifyGet _).careful

/-- An attempt ends like a computation that keeps no source when it fails. -/
inductive ComesTo : Except SourceError (α × Source) → Except SourceError α × Source → Prop where
  | ok (value : α) (t : Source) : ComesTo (.ok (value, t)) (.ok value, t)
  | error (e : SourceError) (t : Source) : ComesTo (.error e) (.error e, t)

theorem ComesTo.bind {outcome : Except SourceError (α × Source)} {attempt : Attempt α} {s : Source}
    {step : α × Source → Except SourceError (β × Source)} {next : α → Attempt β} (h : ComesTo outcome (attempt.on s))
    (k : ∀ value t, outcome = .ok (value, t) → ComesTo (step (value, t)) ((next value).on t)) :
    ComesTo (outcome >>= step) ((attempt >>= next).on s) := by
  rw [on_bind]
  generalize attempt.on s = reached at h
  cases h with
  | ok value t => exact k value t rfl
  | error e t => exact .error e t

variable {s : Source} {fields : VirtualFields}

theorem comesTo_enroll (same : s.fields = fields) (item : Item) :
    ComesTo (s.enroll item) ((enroll (.wrapping fields) item).on s) := by
  cases item with
  | model id => exact .ok id s
  | entity entity =>
    subst same
    cases built : Tracked.build s.ids.next.1 s.schema s.fields (.obj entity) with
    | error e =>
      have refused : s.enroll (.entity entity) = .error (.model e) := by
        simp only [Source.enroll, Source.wrap, built]
        rfl
      have attempted : (enroll (.wrapping s.fields) (.entity entity)).on s =
          (.error (.model e), { s with ids := s.ids, models := s.models ++ [] }) := by
        show (Except.mapError _ (Factory.wrapping s.fields s.ids s.models s.schema entity).outcome, _) = _
        simp only [Factory.wrapping, built]
        rfl
      rw [refused, attempted]
      exact .error _ _
    | ok tracked =>
      have wrapped : s.enroll (.entity entity) =
          .ok (s.models.length, { s with ids := s.ids.next.2, models := s.models ++ [tracked] }) := by
        simp only [Source.enroll, Source.wrap, built]
        rfl
      have attempted : (enroll (.wrapping s.fields) (.entity entity)).on s =
          (.ok s.models.length, { s with ids := s.ids.next.2, models := s.models ++ [tracked] }) := by
        show (Except.mapError _ (Factory.wrapping s.fields s.ids s.models s.schema entity).outcome, _) = _
        simp only [Factory.wrapping, built]
        rfl
      rw [wrapped, attempted]
      exact .ok _ _

theorem comesTo_enrollAll (same : s.fields = fields) (items : List Item) :
    ComesTo (s.enrollAll items) ((enrollAll (.wrapping fields) items).on s) := by
  induction items generalizing s with
  | nil => exact .ok [] s
  | cons item rest ih =>
    refine (comesTo_enroll same item).bind fun id t entered => ?_
    have kept : t.fields = fields := by
      have alone : s.enrollAll [item] = .ok ([id], t) := by
        rw [Source.enrollAll, entered]
        rfl
      rw [(Source.enrolled_of_enrollAll alone).rest]
      exact same
    exact (ih kept).bind fun later u _ => .ok (id :: later) u

theorem comesTo_wrapAll (same : s.fields = fields) (entities : List Entity) :
    ComesTo ((s.wrapAll entities).mapError .model) ((wrapAll (.wrapping fields) entities).on s) := by
  rw [Source.wrapAll_eq_enrollAll]
  exact comesTo_enrollAll same _

theorem comesTo_insert (index : Nat) (item : Item) :
    ComesTo (s.insert index item) ((insert (.wrapping s.fields) index item).on s) :=
  (comesTo_enroll rfl item).bind fun id t _ => .ok id (t.exchange index 0 [id]).2

theorem comesTo_add (item : Item) : ComesTo (s.add item) ((add (.wrapping s.fields) item).on s) := by
  rw [add, on_bind]
  exact comesTo_insert s.data.length item

theorem comesTo_splice (index count : Nat) (items : List Item) :
    ComesTo (s.splice index count items) ((splice (.wrapping s.fields) index count items).on s) :=
  (comesTo_enrollAll rfl items).bind fun ids t _ => .ok (t.exchange index count ids).1 (t.exchange index count ids).2

theorem comesTo_receive (collection : Collection) :
    ComesTo (s.load collection) ((receive (.wrapping s.fields) (.ok collection)).on s) := by
  rw [receive, on_bind]
  exact (comesTo_wrapAll rfl collection.data).bind fun ids t _ => .ok ids _

theorem comesTo_perform (command : SourceCommand) :
    ComesTo (s.perform command) ((perform (.wrapping s.fields) command).on s) := by
  cases command with
  | add item =>
    simp only [Source.perform, perform]
    exact (comesTo_add item).bind fun id t _ => .ok _ t
  | insert index item =>
    simp only [Source.perform, perform]
    exact (comesTo_insert index item).bind fun id t _ => .ok _ t
  | splice index count items =>
    simp only [Source.perform, perform]
    exact (comesTo_splice index count items).bind fun removed t _ => .ok _ t
  | setData items =>
    simp only [Source.perform, perform, Source.setData, setData, bind_assoc, pure_bind]
    exact (comesTo_enrollAll rfl items).bind fun ids t _ => .ok _ (t.replace ids)
  | cancelAll =>
    simp only [Source.perform, perform, Source.cancelAll, cancelAll, bind_assoc, pure_bind]
    rw [on_bind]
    exact (comesTo_wrapAll rfl s.origin).bind fun ids t _ => .ok _ (t.replace ids)
  | remove id => exact .ok _ _
  | removeKey key => exact .ok _ _
  | removeAt index => exact .ok _ _
  | cancel id => exact .ok _ _
  | submit => exact .ok _ _
  | edit id command =>
    simp only [Source.perform, perform, on_modifyGet]
    generalize s.write id (fun tracked => tracked.model.perform tracked.fields command) = written
    rcases written with _ | ⟨w, t⟩
    · exact .ok _ _
    · exact .ok _ _

end Attempt

namespace CollectionOperation

def outcome (s : Source) : CollectionOperation → Except SourceError (SourceReply × Source)
  | .command c => s.perform c
  | .setFilters filter => do return (.done, ← s.setFilters filter)
  | .addFilter item => do return (.done, ← s.addFilter item)
  | .receive answer => do
    let collection ← answer.mapError .provider
    let (ids, s) ← s.load collection
    return (.models ids, s)

theorem outcome_receive (s : Source) (collection : Collection) : (receive (.ok collection)).outcome s =
    s.load collection >>= fun loaded => .ok (.models loaded.1, loaded.2) := rfl

theorem comesTo_outcome (s : Source) (operation : CollectionOperation) :
    Attempt.ComesTo (operation.outcome s) ((operation.attempt (.wrapping s.fields)).on s) := by
  cases operation with
  | command c => exact Attempt.comesTo_perform c
  | setFilters filter =>
    simp only [outcome, attempt, Source.setFilters, Attempt.setFilters]
    cases filter.normalize with
    | error e => exact .error _ _
    | ok normal => exact .ok _ _
  | addFilter item =>
    simp only [outcome, attempt, Source.addFilter, Attempt.addFilter]
    cases item.normalize with
    | error e => exact .error _ _
    | ok normal => exact .ok _ _
  | receive answer =>
    cases answer with
    | error e => exact .error _ _
    | ok collection =>
      exact (Attempt.comesTo_receive collection).bind fun ids t _ => .ok _ t

end CollectionOperation

/-- Whenever an operation fails, the collection is as it was before, whatever the factory makes of entities and
whatever the provider answers. -/
theorem CollectionOperation.untouched_of_error {make : Factory} {operation : CollectionOperation} {s t : Source}
    {e : SourceError} (failed : (operation.attempt make).on s = (.error e, t)) : s.Untouched t := by
  have careful : Attempt.Careful (operation.attempt make) := by
    cases operation with
    | command c => exact Attempt.careful_perform c
    | setFilters filter => exact (Attempt.careful_setFilters filter).then fun _ => Attempt.sure_pure _
    | addFilter item => exact (Attempt.careful_addFilter item).then fun _ => Attempt.sure_pure _
    | receive answer => exact (Attempt.careful_receive answer).then fun _ => Attempt.sure_pure _
  exact careful s t e failed

/-- Of two notes that are to take the place of a third one, the second has no title. The first one has been made by
then, but the third one stays where it is. -/
theorem CollectionOperation.untouched_of_error_splice : ∃ (s t : Source) (e : SourceError), s.data = [0] ∧
    ((CollectionOperation.command (.splice 0 1 [.entity [("title", .str "b")], .entity []])).attempt (.wrapping [])).on s =
      (.error e, t) ∧ t.models.length = 2 ∧ s.Untouched t := by
  have shown : ((Source.empty Model.note [] false .disabled).performAll? [.add (.entity [("title", .str "a")])]).map
      (fun s =>
        (s.data, match ((CollectionOperation.command (.splice 0 1 [.entity [("title", .str "b")], .entity []])).attempt
            (.wrapping [])).on s with
          | (.error _, t) => t.models.length
          | (.ok _, _) => 0)) = some ([0], 2) := by decide +kernel
  obtain ⟨s, -, facts⟩ := Option.map_eq_some_iff.1 shown
  obtain ⟨data, made⟩ := Prod.mk.inj facts
  split at made
  · next e t failed => exact ⟨s, t, e, data, failed, made, untouched_of_error failed⟩
  · cases made

namespace Session

theorem source_complete (s : Session) (owner : Owner) (completion : Completion) :
    (s.complete owner completion).source = s.source := by
  cases owner <;> cases completion <;> rfl

/-- A fetch takes its answer in by the operation on collections, whichever provider has given it. -/
theorem source_receive (s : Session) (owners : List Owner) (answer : Outcome Collection) :
    (s.receive owners answer).source =
      (((CollectionOperation.receive answer).outcome s.source).toOption.map (·.2)).getD s.source := by
  have completed (owners : List Owner) (completion : Completion) (s : Session) :
      (owners.foldl (fun s owner => s.complete owner completion) s).source = s.source := by
    induction owners generalizing s with
    | nil => rfl
    | cons owner rest ih => exact (ih _).trans (source_complete s owner completion)
  unfold receive
  rw [completed]
  cases answer with
  | error e => rfl
  | ok collection =>
    rw [CollectionOperation.outcome_receive]
    dsimp only
    cases s.source.load collection with
    | error e => rfl
    | ok loaded => rfl

theorem source_call (s : Session) (request : Request) : (s.call request).2.source = s.source := by
  unfold call
  split
  · rfl
  · split <;> rfl

/-- A fetch that gets no answer it can take in leaves the source as it was. -/
theorem source_startFetch (s : Session) (owner : Owner) : (s.startFetch owner).source = s.source ∨
    ∃ collection ids t, s.source.load collection = .ok (ids, t) ∧ (s.startFetch owner).source = t := by
  have unmoved := source_call { s with suspended := s.suspended.map supersede } (.fetch (some s.source.fetchParams))
  unfold startFetch
  dsimp only
  split
  · next called =>
    rw [called] at unmoved
    exact .inl unmoved
  · next answer u called =>
    rw [called] at unmoved
    rw [source_receive, show u.source = s.source from unmoved]
    cases answer with
    | error e => exact .inl rfl
    | ok collection =>
      rw [CollectionOperation.outcome_receive]
      cases loaded : s.source.load collection with
      | error e => exact .inl rfl
      | ok taken => exact .inr ⟨collection, taken.1, taken.2, loaded, rfl⟩

end Session

end RecordSync
