import RecordSync.Proofs.Session.Syncing
import RecordSync.Proofs.Source.Rollback

/-!
# Fetches in order

After a fetch the members stand in the order in which the provider sorts the request that is stored. For a field, a
single criterion and a list of criteria with directions of their own this is the order that was asked for. A criterion
of a list that has no direction is sorted in ascending order, whatever direction was given with the list.
-/

set_option autoImplicit false

namespace RecordSync

def EntityRules.accepted? (s : EntityRules) (entity : Entity) : Option Entity :=
  match s.validate (.obj entity) [] with
  | (.obj fields, []) => some fields
  | _ => none

theorem EntityRules.accepted?_standard (entity : Entity) : standard.accepted? entity = some entity := rfl

theorem Source.accepted_of_standard {s : Source} (standard : s.schema = .standard) (rows : List Entity) :
    ∀ row ∈ rows, (s.schema.accepted? row).isSome := by
  intro row _
  rw [standard, EntityRules.accepted?_standard]
  rfl

theorem build_of_accepted {schema : EntityRules} {entity fields : Entity} (accepted : schema.accepted? entity = some fields)
    (uuid : String) (virtual : VirtualFields) :
    ∃ tracked, Tracked.build uuid schema virtual (.obj entity) = .ok tracked ∧ tracked.model.toEntity = fields := by
  unfold EntityRules.accepted? at accepted
  split at accepted
  · rename_i shown valid
    cases accepted
    refine ⟨⟨⟨uuid, schema, .obj fields, fields, [], [], 0⟩, virtual⟩, ?_, rfl⟩
    simp only [Tracked.build, Model.build, valid]
    rfl
  · cases accepted

namespace Source

variable {s : Source}

/-- Rows that are accepted are wrapped one after the other, and the models show what the schema has made of them. -/
theorem wrapAll_of_accepted {rows : List Entity} (accepted : ∀ row ∈ rows, (s.schema.accepted? row).isSome) :
    ∃ ids t, s.wrapAll rows = .ok (ids, t) ∧
      ids.map (fun id => some (t.entity id)) = rows.map s.schema.accepted? := by
  obtain ⟨ids, t, wrapped, shown⟩ :=
    wrapAll_of_builds (P := fun row m => some m.toEntity = s.schema.accepted? row) fun row listed uuid => by
      obtain ⟨entity, made⟩ := Option.isSome_iff_exists.1 (accepted row listed)
      obtain ⟨tracked, built, same⟩ := build_of_accepted made uuid s.fields
      exact ⟨tracked, built, by rw [same, made]⟩
  refine ⟨ids, t, wrapped, ?_⟩
  clear wrapped accepted
  induction shown with
  | nil => rfl
  | cons first _ ih =>
    obtain ⟨m, found, same⟩ := first
    rw [List.map_cons, List.map_cons, ih, Source.entity, found, ← same]
    rfl

theorem load_of_accepted {collection : Collection}
    (accepted : ∀ row ∈ collection.data, (s.schema.accepted? row).isSome) :
    ∃ ids t, s.load collection = .ok (ids, t) ∧ t.data = ids ∧ t.origin = collection.data ∧
      t.entities.map some = collection.data.map s.schema.accepted? := by
  obtain ⟨ids, u, wrapped, shown⟩ := wrapAll_of_accepted accepted
  let taken := { u with total := collection.total.getD u.total, extra := collection.extra, origin := collection.data }
  have loaded : s.load collection = .ok (ids, taken.replace ids) := by
    rw [load, wrapped]
    rfl
  obtain ⟨moved, data, -, -⟩ := replace_frame taken ids
  refine ⟨ids, taken.replace ids, loaded, data, by rw [moved.rest], ?_⟩
  rw [entities_replace, List.map_map]
  exact shown

end Source

namespace Session

/-- With nothing under way, a fetch of rows that are accepted takes them in as the provider sorts them. -/
theorem fetch_accepted {s : Session} {r : Rows} (provider : s.provider = .rows r) (stopAt : s.stopAt = 0)
    (suspended : s.suspended = none) (outcomes : s.outcomes = []) (filter : s.source.filter = none)
    (paginator : s.source.paginator = .disabled)
    (accepted : ∀ row ∈ r.entities, (s.source.schema.accepted? row).isSome) :
    ∃ members t, s.run .fetch = (some (.ok members), t) ∧ t.source.data = members ∧
      t.source.origin = orderRows r.entities (.ofStored s.source.sort) .asc ∧
      t.source.entities.map some =
        (orderRows r.entities (.ofStored s.source.sort) .asc).map s.source.schema.accepted? := by
  obtain ⟨collection, selected, data⟩ :=
    r.select_whole s.source.fetchParams filter (Source.page_of_disabled paginator)
  replace data : collection.data = orderRows r.entities (.ofStored s.source.sort) .asc := data
  have perm := perm_orderRows r.entities (.ofStored s.source.sort) .asc
  rw [← data] at perm
  obtain ⟨members, t, loaded, listed, origin, shown⟩ :=
    Source.load_of_accepted fun row taken => accepted row (perm.mem_iff.1 taken)
  have result : s.run .fetch = (some (.ok members), { s with source := t }) := by
    rw [run, startOperation, startFetch_rows provider stopAt suspended, selected, receive_loaded loaded]
    exact pickUp_complete (s := { s with source := t }) outcomes (.ok members)
  rw [data] at origin shown
  exact ⟨members, _, result, listed, origin, shown⟩

/-- After a request has been set and the rows have been fetched, the members are the rows in the order of the request.
The direction that was given does not reach the criteria of a list. -/
theorem entities_of_sorted_fetch (source : Source) (r : Rows) (ids : IdSupply) (sort : SortInput) (dir : SortDir)
    (filter : source.filter = none) (paginator : source.paginator = .disabled)
    (accepted : ∀ row ∈ r.entities, (source.schema.accepted? row).isSome) :
    ∃ members t, (Session.start (source.setSort sort dir) (.rows r) ids).run .fetch = (some (.ok members), t) ∧
      t.source.data = members ∧ t.source.origin = orderRows r.entities sort (sort.storedDir dir) ∧
      t.source.entities.map some =
        (orderRows r.entities sort (sort.storedDir dir)).map source.schema.accepted? := by
  obtain ⟨members, t, result, listed, origin, shown⟩ :=
    fetch_accepted (s := Session.start (source.setSort sort dir) (.rows r) ids) rfl rfl rfl rfl filter paginator accepted
  have order := orderRows_ofStored r.entities sort dir
  exact ⟨members, t, result, listed, origin.trans order, shown.trans (congrArg _ order)⟩

def counted : Rows := { primary := "id", entities := [[("id", .num (.int 1))], [("id", .num (.int 2))]] }

def undirected : SortInput := .many [{ field := some ["id"], comparator := none, dir := none }]

theorem orderRows_undirected :
    orderRows counted.entities undirected .asc = counted.entities ∧
      orderRows counted.entities undirected .desc = counted.entities.reverse := by
  constructor
  · show sortRows [_, _] [_] .asc = _
    rw [sortRows_pair, if_pos (by decide +kernel)]
    rfl
  · show sortRows [_, _] [_] .desc = _
    rw [sortRows_pair, if_neg (by decide +kernel)]
    rfl

/-- In descending order, a field and a list. -/
theorem entities_of_sorted_fetch_counted :
    (∃ members t, (Session.start ((Source.empty .standard [] false .disabled).setSort (.field "id") .desc)
        (.rows counted) .keys).run .fetch = (some (.ok members), t) ∧
      t.source.data = members ∧ t.source.origin = counted.entities.reverse) ∧
    ∃ members t, (Session.start ((Source.empty .standard [] false .disabled).setSort undirected .desc)
        (.rows counted) .keys).run .fetch = (some (.ok members), t) ∧
      t.source.data = members ∧ t.source.origin = counted.entities := by
  constructor
  · obtain ⟨members, t, result, listed, origin, -⟩ := entities_of_sorted_fetch
      (Source.empty .standard [] false .disabled) counted .keys (.field "id") .desc rfl rfl
      (Source.accepted_of_standard rfl _)
    refine ⟨members, t, result, listed, origin.trans ?_⟩
    show sortRows [_, _] [_] .desc = _
    rw [sortRows_pair, if_neg (by decide +kernel)]
    rfl
  · obtain ⟨members, t, result, listed, origin, -⟩ := entities_of_sorted_fetch
      (Source.empty .standard [] false .disabled) counted .keys undirected .desc rfl rfl
      (Source.accepted_of_standard rfl _)
    exact ⟨members, t, result, listed, origin.trans orderRows_undirected.1⟩

/-- In descending order, a list whose criterion has no direction is not what was asked for, although the numbers of the
rows are compared consistently. -/
theorem not_sorted_of_undirected_list : ¬ ∀ (source : Source) (r : Rows) (ids : IdSupply) (sort : SortInput)
    (dir : SortDir), sort.ConsistentOn r.entities → source.filter = none → source.paginator = .disabled →
      source.schema = .standard →
      ∃ members t, (Session.start (source.setSort sort dir) (.rows r) ids).run .fetch = (some (.ok members), t) ∧
        t.source.data = members ∧ t.source.entities = orderRows r.entities sort dir := by
  intro always
  have consistent : undirected.ConsistentOn counted.entities := by
    intro dir ds listed d hd
    cases listed
    rw [List.mem_singleton.1 hd]
    decide +kernel
  obtain ⟨members, t, result, -, asked⟩ :=
    always (Source.empty .standard [] false .disabled) counted .keys undirected .desc consistent rfl rfl rfl
  obtain ⟨others, u, same, -, -, shown⟩ := fetch_accepted
    (s := Session.start ((Source.empty .standard [] false .disabled).setSort undirected .desc) (.rows counted) .keys)
    rfl rfl rfl rfl rfl rfl (Source.accepted_of_standard rfl _)
  rw [result] at same
  cases same
  rw [asked, orderRows_undirected.2] at shown
  have equal := shown.trans (congrArg _ orderRows_undirected.1)
  cases equal

end Session

end RecordSync
