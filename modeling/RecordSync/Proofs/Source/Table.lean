import RecordSync.Proofs.Except
import RecordSync.Proofs.Model.Writes
import RecordSync.Source.Members

/-!
# The table of a source

What becomes of the table when a source starts or stops following a model, when models are entered, and when one
model is written to.
-/

set_option autoImplicit false

namespace RecordSync

def Model.unobserved (m : Model) : Model := { m with observers := [], nextObserver := 0 }

def Tracked.unobserved (t : Tracked) : Tracked := { t with model := t.model.unobserved }

namespace Source

theorem model?_mapModel (s : Source) (id : ModelId) (f : Model → Model) (other : ModelId) :
    (s.mapModel id f).model? other = if id = other then (s.model? other).map f else s.model? other := by
  simp only [model?, mapModel, List.getElem?_modify]
  split
  · cases s.models[other]? <;> rfl
  · simp

theorem length_mapModel (s : Source) (id : ModelId) (f : Model → Model) :
    (s.mapModel id f).models.length = s.models.length := by
  simp [mapModel]

theorem mapModel_self {s : Source} {id : ModelId} {m : Model} (h : s.model? id = some m) :
    s.mapModel id (fun _ => m) = s := by
  have same : s.models.modify id (fun t => { t with model := m }) = s.models := by
    refine List.ext_getElem? fun i => ?_
    rw [List.getElem?_modify]
    split
    · next here =>
      obtain ⟨tracked, found, rfl⟩ := Option.map_eq_some_iff.1 h
      rw [← here, found]
      rfl
    · exact id_map _
  rw [mapModel, same]

theorem lt_of_model? {s : Source} {id : ModelId} {m : Model} (h : s.model? id = some m) :
    id < s.models.length := by
  obtain ⟨tracked, ht, -⟩ := Option.map_eq_some_iff.1 h
  exact (List.getElem?_eq_some_iff.1 ht).1

theorem model?_of_lt {s : Source} {id : ModelId} (h : id < s.models.length) : ∃ m, s.model? id = some m :=
  ⟨_, by rw [model?, List.getElem?_eq_getElem h]; rfl⟩

def SameModels (s t : Source) : Prop := t.models.map Tracked.unobserved = s.models.map Tracked.unobserved

namespace SameModels

variable {s t u : Source}

theorem trans (h : s.SameModels t) (k : t.SameModels u) : s.SameModels u := Eq.trans k h

theorem length (h : s.SameModels t) : t.models.length = s.models.length := by
  have same := congrArg List.length h
  rwa [List.length_map, List.length_map] at same

theorem symm (h : s.SameModels t) : t.SameModels s := Eq.symm h

/-- What is read off a model without regard to its observers is the same. -/
theorem read (h : s.SameModels t) {α : Type} (f : Model → α) (blind : ∀ m, f m.unobserved = f m) (id : ModelId) :
    (t.model? id).map f = (s.model? id).map f := by
  have seen (s : Source) :
      (s.model? id).map f = (s.models.map Tracked.unobserved)[id]?.map fun t => f t.model := by
    rw [model?, List.getElem?_map, Option.map_map, Option.map_map]
    exact congrArg (s.models[id]?.map ·) (funext fun t => (blind t.model).symm)
  rw [seen, seen, h]

theorem model? (h : s.SameModels t) {id : ModelId} {m : Model} (found : t.model? id = some m) :
    ∃ old, s.model? id = some old ∧ old.unobserved = m.unobserved := by
  have same := h.read Model.unobserved (fun _ => rfl) id
  rw [found] at same
  exact Option.map_eq_some_iff.1 same.symm

theorem holds (h : s.SameModels t) (p : Model → Bool) (blind : ∀ m, p m.unobserved = p m) (id : ModelId) :
    t.holds p id = s.holds p id := by
  have same := h.read p blind id
  simp only [Source.holds]
  cases ht : t.model? id <;> cases hs : s.model? id <;> simp_all

theorem isDirty (h : s.SameModels t) (id : ModelId) : t.holds Model.isDirty id = s.holds Model.isDirty id :=
  h.holds Model.isDirty (fun _ => rfl) id

theorem isNew (h : s.SameModels t) (id : ModelId) : t.holds Model.isNew id = s.holds Model.isNew id :=
  h.holds Model.isNew (fun _ => rfl) id

end SameModels

structure Reobserved (s t : Source) : Prop where
  rest : t = { s with models := t.models, subscriptions := t.subscriptions }
  models : s.SameModels t

namespace Reobserved

variable {s t u : Source}

theorem refl (s : Source) : s.Reobserved s := ⟨rfl, rfl⟩

theorem trans (h : s.Reobserved t) (k : t.Reobserved u) : s.Reobserved u where
  rest := by rw [k.rest, h.rest]
  models := h.models.trans k.models

theorem data (h : s.Reobserved t) : t.data = s.data := by rw [h.rest]

theorem changes (h : s.Reobserved t) : t.changes = s.changes := by rw [h.rest]

theorem removedAt (h : s.Reobserved t) : t.removedAt = s.removedAt := by rw [h.rest]

theorem length (h : s.Reobserved t) : t.models.length = s.models.length := h.models.length

end Reobserved

structure Rearranged (s t : Source) : Prop where
  rest : t = { s with
    models := t.models, data := t.data, changes := t.changes, removedAt := t.removedAt,
    subscriptions := t.subscriptions, scheduled := t.scheduled }
  models : s.SameModels t

theorem Rearranged.refl (s : Source) : s.Rearranged s := ⟨rfl, rfl⟩

theorem Rearranged.trans {s t u : Source} (h : s.Rearranged t) (k : t.Rearranged u) : s.Rearranged u where
  rest := by rw [k.rest, h.rest]
  models := h.models.trans k.models

theorem Reobserved.rearranged {s t : Source} (h : s.Reobserved t) : s.Rearranged t where
  rest := by rw [h.rest]
  models := h.models

theorem reobserved_of_modify {s : Source} {id : ModelId} {f : Model → Model} (subscriptions : List (ModelId × Nat))
    (blind : ∀ tracked : Tracked, s.models[id]? = some tracked →
      ({ tracked with model := f tracked.model } : Tracked).unobserved = tracked.unobserved) :
    s.Reobserved { s.mapModel id f with subscriptions } where
  rest := rfl
  models := by
    refine List.ext_getElem? fun i => ?_
    simp only [mapModel, List.getElem?_map, List.getElem?_modify]
    by_cases same : id = i
    · subst same
      cases found : s.models[id]? with
      | none => simp
      | some tracked => simpa using blind tracked found
    · simp [same]

theorem detach_reobserved (s : Source) (id : ModelId) : s.Reobserved (s.detach id) := by
  unfold detach
  split
  · exact .refl s
  · exact reobserved_of_modify _ fun _ _ => rfl

theorem attach_reobserved (s : Source) (id : ModelId) : s.Reobserved (s.attach id) := by
  refine (detach_reobserved s id).trans ?_
  unfold attach
  dsimp only
  split
  · exact .refl _
  · next m found =>
    refine reobserved_of_modify _ fun tracked ht => ?_
    have same : tracked.model = m := by
      rw [model?, ht] at found
      exact Option.some.inj found
    rw [← same]
    rfl

theorem attachAll_reobserved (s : Source) (ids : List ModelId) : s.Reobserved (s.attachAll ids) := by
  unfold attachAll
  induction ids generalizing s with
  | nil => exact .refl s
  | cons id rest ih => exact (attach_reobserved s id).trans (ih _)

theorem detachAll_reobserved (s : Source) : s.Reobserved s.detachAll := by
  unfold detachAll
  generalize s.subscriptions.map (·.1) = ids
  induction ids generalizing s with
  | nil => exact .refl s
  | cons id rest ih => exact (detach_reobserved s id).trans (ih _)

theorem lookup_entry (rest : List (ModelId × Nat)) (id other : ModelId) (observer : Nat) :
    ((id, observer) :: rest).lookup other = if other = id then some observer else rest.lookup other := by
  rw [List.lookup_cons]
  by_cases same : other = id
  · simp [same]
  · rw [beq_false_of_ne same, if_neg same]

theorem lookup_without (subscriptions : List (ModelId × Nat)) (id other : ModelId) :
    (subscriptions.filter fun entry => entry.1 != id).lookup other =
      if other = id then none else subscriptions.lookup other := by
  induction subscriptions with
  | nil => simp
  | cons entry rest ih =>
    obtain ⟨k, observer⟩ := entry
    rw [lookup_entry]
    by_cases gone : k = id
    · subst gone
      rw [List.filter_cons_of_neg (by simp), ih]
      split <;> rfl
    · rw [List.filter_cons_of_pos (by simpa using gone), lookup_entry, ih]
      by_cases same : other = k
      · rw [if_pos same, if_pos same, if_neg (same ▸ gone)]
      · rw [if_neg same, if_neg same]

theorem lookup_append (subscriptions : List (ModelId × Nat)) (id other : ModelId) (observer : Nat) :
    (subscriptions ++ [(id, observer)]).lookup other =
      (subscriptions.lookup other).or (if other = id then some observer else none) := by
  induction subscriptions with
  | nil => rw [List.nil_append, lookup_entry]; rfl
  | cons entry rest ih =>
    obtain ⟨k, first⟩ := entry
    rw [List.cons_append, lookup_entry, lookup_entry, ih]
    split <;> rfl

theorem lookup_detach (s : Source) (id other : ModelId) :
    (s.detach id).subscriptions.lookup other = if other = id then none else s.subscriptions.lookup other := by
  unfold detach
  split
  · next unfollowed =>
    split
    · next same => rw [same, unfollowed]
    · rfl
  · exact lookup_without _ _ _

theorem lookup_attach_of_ne (s : Source) {id other : ModelId} (h : other ≠ id) :
    (s.attach id).subscriptions.lookup other = s.subscriptions.lookup other := by
  have detached : (s.detach id).subscriptions.lookup other = s.subscriptions.lookup other := by
    rw [lookup_detach, if_neg h]
  unfold attach
  dsimp only
  split
  · exact detached
  · show ((s.detach id).subscriptions ++ _).lookup other = _
    rw [lookup_append, if_neg h, Option.or_none, detached]

/-- Exactly these models are followed, each by one observer, and all other models have none. -/
structure Follows (s : Source) (members : ModelId → Prop) : Prop where
  followed : ∀ id, members id → ∃ m observer,
    s.model? id = some m ∧ s.subscriptions.lookup id = some observer ∧ m.observers = [observer]
  others : ∀ id, ¬ members id →
    s.subscriptions.lookup id = none ∧ ∀ m, s.model? id = some m → m.observers = []

namespace Follows

variable {s : Source} {members : ModelId → Prop}

theorem congr (h : s.Follows members) {others : ModelId → Prop} (same : ∀ id, members id ↔ others id) :
    s.Follows others where
  followed := fun id hm => h.followed id ((same id).2 hm)
  others := fun id hm => h.others id fun hin => hm ((same id).1 hin)

theorem lt (h : s.Follows members) {id : ModelId} (hm : members id) : id < s.models.length := by
  obtain ⟨m, -, found, -⟩ := h.followed id hm
  exact lt_of_model? found

theorem of_same (h : s.Follows members) {t : Source} (models : t.models = s.models)
    (subscriptions : t.subscriptions = s.subscriptions) : t.Follows members where
  followed := fun id hm => by
    rw [model?, models, subscriptions]
    exact h.followed id hm
  others := fun id hm => by
    rw [model?, models, subscriptions]
    exact h.others id hm

theorem detach (h : s.Follows members) (id : ModelId) :
    (s.detach id).Follows fun other => members other ∧ other ≠ id := by
  cases followed : s.subscriptions.lookup id with
  | none =>
    have unchanged : s.detach id = s := by rw [Source.detach, followed]
    rw [unchanged]
    refine h.congr fun other => ⟨fun hm => ⟨hm, ?_⟩, And.left⟩
    rintro rfl
    obtain ⟨-, observer, -, shown, -⟩ := h.followed other hm
    rw [followed] at shown
    cases shown
  | some observer =>
    have table (other : ModelId) : (s.detach id).model? other =
        if id = other then (s.model? other).map (·.dispose observer) else s.model? other := by
      rw [Source.detach, followed]
      exact model?_mapModel s id (·.dispose observer) other
    constructor
    · intro other ⟨hm, ne⟩
      rw [table, if_neg (Ne.symm ne), lookup_detach, if_neg ne]
      exact h.followed other hm
    · intro other hm
      rw [table, lookup_detach]
      by_cases same : other = id
      · subst same
        rw [if_pos rfl, if_pos rfl]
        refine ⟨rfl, fun m hmodel => ?_⟩
        obtain ⟨old, hold, rfl⟩ := Option.map_eq_some_iff.1 hmodel
        -- A member has this one observer and loses it; anyone else would not have been subscribed to.
        by_cases inside : members other
        · obtain ⟨m, o, found, shown, single⟩ := h.followed other inside
          rw [found, Option.some.injEq] at hold
          rw [followed, Option.some.injEq] at shown
          simp [Model.dispose, ← hold, single, shown]
        · have none := (h.others other inside).1
          rw [followed] at none
          cases none
      · rw [if_neg (Ne.symm same), if_neg same]
        exact h.others other fun inside => hm ⟨inside, same⟩

theorem attach (h : s.Follows members) {id : ModelId} (known : id < s.models.length) :
    (s.attach id).Follows fun other => other = id ∨ members other := by
  have detached := h.detach id
  have here : ¬ (members id ∧ id ≠ id) := fun hm => hm.2 rfl
  obtain ⟨m, found⟩ := model?_of_lt (s := s.detach id) ((detach_reobserved s id).length ▸ known)
  obtain ⟨unfollowed, alone⟩ := detached.others id here
  have attached : s.attach id = { (s.detach id).mapModel id (fun _ => m.observe.2) with
      subscriptions := (s.detach id).subscriptions ++ [(id, m.nextObserver)] } := by
    simp only [Source.attach, found]
    rfl
  have table (other : ModelId) : (s.attach id).model? other =
      if id = other then ((s.detach id).model? other).map (fun _ => m.observe.2)
      else (s.detach id).model? other := by
    rw [attached]
    exact model?_mapModel (s.detach id) id (fun _ => m.observe.2) other
  have looked (other : ModelId) : (s.attach id).subscriptions.lookup other =
      ((s.detach id).subscriptions.lookup other).or (if other = id then some m.nextObserver else none) := by
    rw [attached]
    exact lookup_append _ _ _ _
  constructor
  · intro other hm
    by_cases same : other = id
    · subst same
      refine ⟨m.observe.2, m.nextObserver, ?_, ?_, ?_⟩
      · rw [table, if_pos rfl, found]
        rfl
      · rw [looked, unfollowed, if_pos rfl]
        rfl
      · simp [Model.observe, alone m found]
    · rw [table, looked, if_neg (Ne.symm same), if_neg same, Option.or_none]
      exact detached.followed other ⟨hm.resolve_left same, same⟩
  · intro other hm
    have ne : other ≠ id := fun same => hm (.inl same)
    rw [table, looked, if_neg (Ne.symm ne), if_neg ne, Option.or_none]
    exact detached.others other fun inside => hm (.inr inside.1)

theorem attachAll (h : s.Follows members) {ids : List ModelId} (known : ∀ id ∈ ids, id < s.models.length) :
    (s.attachAll ids).Follows fun other => other ∈ ids ∨ members other := by
  induction ids generalizing s members with
  | nil => exact h.congr fun _ => by simp
  | cons id rest ih =>
    have later : ∀ other ∈ rest, other < (s.attach id).models.length := by
      intro other ho
      rw [(attach_reobserved s id).length]
      exact known other (.tail _ ho)
    refine (ih (h.attach (known id (.head _))) later).congr fun other => ?_
    simp only [List.mem_cons]
    constructor
    · rintro (hr | rfl | hm)
      · exact .inl (.inr hr)
      · exact .inl (.inl rfl)
      · exact .inr hm
    · rintro ((rfl | hr) | hm)
      · exact .inr (.inl rfl)
      · exact .inl hr
      · exact .inr (.inr hm)

theorem detachAll (h : s.Follows members) : s.detachAll.Follows fun _ => False := by
  have each : ∀ (ids : List ModelId) (t : Source) (others : ModelId → Prop), t.Follows others →
      (ids.foldl Source.detach t).Follows fun other => others other ∧ other ∉ ids := by
    intro ids
    induction ids with
    | nil => exact fun t others ht => ht.congr fun _ => by simp
    | cons id rest ih =>
      intro t others ht
      refine (ih _ _ (ht.detach id)).congr fun other => ?_
      simp only [List.mem_cons, not_or, and_assoc]
  refine (each _ s members h).congr fun id => ?_
  refine ⟨fun ⟨hm, unlisted⟩ => unlisted ?_, False.elim⟩
  obtain ⟨-, observer, -, shown, -⟩ := h.followed id hm
  obtain ⟨k, hk⟩ := List.lookup_eq_some_iff.1 shown
  obtain ⟨tail, split, -⟩ := hk
  rw [split]
  simp

theorem mapModel (h : s.Follows members) (id : ModelId) {f : Model → Model}
    (keeps : ∀ m, s.model? id = some m → (f m).observers = m.observers) : (s.mapModel id f).Follows members := by
  have table := model?_mapModel s id f
  constructor
  · intro other hm
    obtain ⟨m, observer, found, shown, single⟩ := h.followed other hm
    rw [table, found]
    by_cases same : id = other
    · subst same
      rw [if_pos rfl]
      exact ⟨f m, observer, rfl, shown, (keeps m found).trans single⟩
    · rw [if_neg same]
      exact ⟨m, observer, rfl, shown, single⟩
  · intro other hm
    obtain ⟨unfollowed, alone⟩ := h.others other hm
    refine ⟨unfollowed, fun m hmodel => ?_⟩
    rw [table] at hmodel
    by_cases same : id = other
    · subst same
      rw [if_pos rfl] at hmodel
      obtain ⟨old, hold, rfl⟩ := Option.map_eq_some_iff.1 hmodel
      exact (keeps old hold).trans (alone old hold)
    · rw [if_neg same] at hmodel
      exact alone m hmodel

theorem append (h : s.Follows members) {ids : IdSupply} {built : List Tracked}
    (fresh : ∀ tracked ∈ built, tracked.model.observers = []) :
    ({ s with ids, models := s.models ++ built } : Source).Follows members := by
  constructor
  · intro id hm
    obtain ⟨m, observer, found, shown⟩ := h.followed id hm
    refine ⟨m, observer, ?_, shown⟩
    rw [model?] at found ⊢
    rwa [List.getElem?_append_left (h.lt hm)]
  · intro id hm
    obtain ⟨unfollowed, alone⟩ := h.others id hm
    refine ⟨unfollowed, fun m hmodel => ?_⟩
    rw [model?] at hmodel
    by_cases known : id < s.models.length
    · rw [List.getElem?_append_left known] at hmodel
      exact alone m hmodel
    · rw [List.getElem?_append_right (Nat.le_of_not_lt known)] at hmodel
      obtain ⟨new, hnew, rfl⟩ := Option.map_eq_some_iff.1 hmodel
      exact fresh new (List.mem_of_getElem? hnew)

end Follows

end Source

def Item.handle? : Item → Option ModelId
  | .entity _ => none
  | .model id => some id

def Item.handles (items : List Item) : List ModelId := items.filterMap Item.handle?

@[simp] theorem Item.handles_nil : Item.handles [] = [] := rfl

@[simp] theorem Item.handles_entity (entity : Entity) (rest : List Item) :
    Item.handles (.entity entity :: rest) = Item.handles rest := rfl

@[simp] theorem Item.handles_model (id : ModelId) (rest : List Item) :
    Item.handles (.model id :: rest) = id :: Item.handles rest := rfl

theorem Item.handles_entities (entities : List Entity) : Item.handles (entities.map .entity) = [] := by
  induction entities with
  | nil => rfl
  | cons entity rest ih => exact ih

namespace Source

theorem tracked_of_build {uuid : String} {schema : EntityRules} {fields : VirtualFields} {value : Json} {tracked : Tracked}
    (h : Tracked.build uuid schema fields value = .ok tracked) :
    tracked.model.schema = schema ∧ tracked.fields = fields ∧ tracked.model.observers = [] := by
  unfold Tracked.build at h
  split at h
  · next entity =>
    cases built : Model.build uuid schema entity with
    | error e => rw [built] at h; cases h
    | ok m =>
      rw [built] at h
      cases h
      obtain ⟨root, -, rfl⟩ := Model.build_eq built
      exact ⟨rfl, rfl, rfl⟩
  · cases h

structure Enrolled (s : Source) (items : List Item) (ids : List ModelId) (t : Source) : Prop where
  rest : t = { s with ids := t.ids, models := t.models }
  grown : ∃ built, t.models = s.models ++ built ∧ ∀ tracked ∈ built, ∃ uuid entity,
    Item.entity entity ∈ items ∧ Tracked.build uuid s.schema s.fields (.obj entity) = .ok tracked
  mem_ids : ∀ id ∈ ids, id ∈ Item.handles items ∨ s.models.length ≤ id ∧ id < t.models.length
  nodup : (∀ id ∈ Item.handles items, id < s.models.length) → (Item.handles items).Nodup → ids.Nodup
  count : ∀ id, id < s.models.length → ids.count id = (Item.handles items).count id

theorem wrap_ok {s t : Source} {entity : Entity} {id : ModelId} (h : s.wrap entity = .ok (id, t)) :
    ∃ uuid tracked, Tracked.build uuid s.schema s.fields (.obj entity) = .ok tracked ∧ id = s.models.length ∧
      t = { s with ids := s.ids.next.2, models := s.models ++ [tracked] } := by
  obtain ⟨tracked, built, made⟩ := ok_of_bind h
  cases made
  exact ⟨_, tracked, built, rfl, rfl⟩

theorem enrollAll_cons {s t : Source} {item : Item} {rest : List Item} {ids : List ModelId}
    (h : s.enrollAll (item :: rest) = .ok (ids, t)) :
    ∃ id u later, s.enroll item = .ok (id, u) ∧ u.enrollAll rest = .ok (later, t) ∧ ids = id :: later := by
  obtain ⟨⟨id, u⟩, first, others⟩ := ok_of_bind h
  obtain ⟨⟨later, v⟩, rested, made⟩ := ok_of_bind others
  cases made
  exact ⟨id, u, later, first, rested, rfl⟩

theorem enrolled_of_enrollAll {s t : Source} {items : List Item} {ids : List ModelId}
    (h : s.enrollAll items = .ok (ids, t)) : s.Enrolled items ids t := by
  induction items generalizing s ids with
  | nil =>
    cases h
    exact ⟨rfl, ⟨[], by simp⟩, by simp, fun _ _ => List.nodup_nil, fun _ _ => rfl⟩
  | cons item rest ih =>
    obtain ⟨id, u, later, first, others, rfl⟩ := enrollAll_cons h
    have enrolled := ih others
    obtain ⟨built, models, fresh⟩ := enrolled.grown
    cases item with
    | model handle =>
      cases first
      refine ⟨enrolled.rest, ⟨built, models, ?_⟩, ?_, ?_, ?_⟩
      · intro tracked ht
        obtain ⟨uuid, entity, listed, hb⟩ := fresh tracked ht
        exact ⟨uuid, entity, .tail _ listed, hb⟩
      · intro other ho
        rcases List.mem_cons.1 ho with rfl | ho
        · exact .inl (.head _)
        · exact (enrolled.mem_ids other ho).imp_left (.tail _)
      · intro known nodup
        obtain ⟨alone, nodup⟩ := List.nodup_cons.1 nodup
        refine List.nodup_cons.2 ⟨fun again => ?_, enrolled.nodup (fun o ho => known o (.tail _ ho)) nodup⟩
        rcases enrolled.mem_ids id again with listed | ⟨above, -⟩
        · exact alone listed
        · exact Nat.not_lt.2 above (known id (.head _))
      · intro other old
        rw [Item.handles_model, List.count_cons, List.count_cons, enrolled.count other old]
    | entity entity =>
      -- The new entry stands behind all handles and before all later entries.
      obtain ⟨uuid, tracked, hb, rfl, rfl⟩ := wrap_ok (ok_of_mapError first)
      have longer : s.models.length < t.models.length := by
        rw [models]
        simp only [List.length_append, List.length_singleton]
        omega
      refine ⟨by rw [enrolled.rest], ⟨tracked :: built, by simp [models], ?_⟩, ?_, ?_, ?_⟩
      · intro other ho
        rcases List.mem_cons.1 ho with rfl | ho
        · exact ⟨uuid, entity, .head _, hb⟩
        · obtain ⟨uuid, entity, listed, hb⟩ := fresh other ho
          exact ⟨uuid, entity, .tail _ listed, hb⟩
      · intro other ho
        rcases List.mem_cons.1 ho with rfl | ho
        · exact .inr ⟨Nat.le_refl _, longer⟩
        · refine (enrolled.mem_ids other ho).imp_right fun within => within.imp_left fun above => ?_
          rw [List.length_append, List.length_singleton] at above
          exact Nat.le_of_succ_le above
      · intro known nodup
        have wider : ∀ o ∈ Item.handles rest, o < (s.models ++ [tracked]).length := by
          intro o ho
          rw [List.length_append, List.length_singleton]
          exact Nat.lt_succ_of_lt (known o ho)
        refine List.nodup_cons.2 ⟨fun again => ?_, enrolled.nodup wider nodup⟩
        rcases enrolled.mem_ids _ again with listed | ⟨above, -⟩
        · exact Nat.lt_irrefl _ (known _ listed)
        · rw [List.length_append, List.length_singleton] at above
          exact Nat.not_succ_le_self _ above
      · intro other old
        have wider : other < (s.models ++ [tracked]).length := by
          rw [List.length_append, List.length_singleton]
          exact Nat.lt_succ_of_lt old
        rw [Item.handles_entity, ← enrolled.count other wider, List.count_cons_of_ne (Nat.ne_of_gt old)]

theorem Enrolled.length_le {s t : Source} {items : List Item} {ids : List ModelId} (h : s.Enrolled items ids t) :
    s.models.length ≤ t.models.length := by
  obtain ⟨built, models, -⟩ := h.grown
  rw [models, List.length_append]
  omega

theorem Enrolled.model? {s t : Source} {items : List Item} {ids : List ModelId} (h : s.Enrolled items ids t)
    {id : ModelId} (inside : id < s.models.length) : t.model? id = s.model? id := by
  obtain ⟨built, models, -⟩ := h.grown
  rw [Source.model?, Source.model?, models, List.getElem?_append_left inside]

theorem Enrolled.lt {s t : Source} {items : List Item} {ids : List ModelId} (h : s.Enrolled items ids t)
    (known : ∀ id ∈ Item.handles items, id < s.models.length) {id : ModelId} (hid : id ∈ ids) :
    id < t.models.length := by
  rcases h.mem_ids id hid with listed | ⟨-, below⟩
  · exact Nat.lt_of_lt_of_le (known id listed) h.length_le
  · exact below

theorem Enrolled.nodup_of_entities {s t : Source} {entities : List Entity} {ids : List ModelId}
    (h : s.Enrolled (entities.map .entity) ids t) : ids.Nodup := by
  have none := Item.handles_entities entities
  exact h.nodup (by simp [none]) (by simp [none])

theorem Enrolled.lt_of_entities {s t : Source} {entities : List Entity} {ids : List ModelId}
    (h : s.Enrolled (entities.map .entity) ids t) {id : ModelId} (hid : id ∈ ids) : id < t.models.length := by
  have none := Item.handles_entities entities
  exact h.lt (by simp [none]) hid

theorem Enrolled.follows {s t : Source} {items : List Item} {ids : List ModelId} (h : s.Enrolled items ids t)
    {members : ModelId → Prop} (follows : s.Follows members) : t.Follows members := by
  obtain ⟨built, models, fresh⟩ := h.grown
  rw [h.rest, models]
  refine follows.append fun tracked ht => ?_
  obtain ⟨uuid, entity, -, hb⟩ := fresh tracked ht
  exact (tracked_of_build hb).2.2

theorem wrapAll_eq_enrollAll (s : Source) (entities : List Entity) :
    (s.wrapAll entities).mapError .model = s.enrollAll (entities.map .entity) := by
  induction entities generalizing s with
  | nil => rfl
  | cons entity rest ih =>
    simp only [wrapAll, List.map_cons, enrollAll, enroll]
    cases s.wrap entity with
    | error e => rfl
    | ok first =>
      show (first.2.wrapAll rest >>= fun later => .ok (first.1 :: later.1, later.2)).mapError .model =
        first.2.enrollAll (rest.map .entity) >>= fun later => .ok (first.1 :: later.1, later.2)
      rw [← ih first.2]
      cases first.2.wrapAll rest <;> rfl

theorem enrolled_of_wrapAll {s t : Source} {entities : List Entity} {ids : List ModelId}
    (h : s.wrapAll entities = .ok (ids, t)) : s.Enrolled (entities.map .entity) ids t := by
  have enrolls := wrapAll_eq_enrollAll s entities
  rw [h] at enrolls
  exact enrolled_of_enrollAll enrolls.symm

end Source

end RecordSync
