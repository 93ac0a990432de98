import RecordSync.Proofs.Session.Syncing

/-!
# Convergence with rows in memory

Rows that are told apart by their keys are fetched, and from then on the list is edited in ways that spare these keys.
However fetches and syncs come in between, every sync succeeds, and right after it the rows are equal to the members.
-/

set_option autoImplicit false

namespace RecordSync

/-- The key of every row, read as a primary key, matches that row and no other. -/
def Rows.ToldApart (r : Rows) : Prop :=
  ∀ (i : Nat) (row : Entity), r.entities[i]? = some row →
    ∃ key, (KeyMap.get? row r.primary).bind PrimaryKey.ofValue? = some key ∧
      ∀ (j : Nat) (other : Entity), r.entities[j]? = some other → (r.hasKey key other = true ↔ j = i)

theorem Rows.ToldApart.distinct {r : Rows} (h : r.ToldApart)
    (truthy : ∀ row ∈ r.entities, Json.truthy (KeyMap.get? row r.primary) = true) : PrimaryKey.Distinct r.keys where
  usable := by
    intro value hv
    obtain ⟨row, hrow, rfl⟩ := List.mem_map.1 hv
    obtain ⟨i, hi⟩ := List.mem_iff_getElem?.1 hrow
    obtain ⟨key, read, only⟩ := h i row hi
    exact ⟨truthy row hrow, key, read, (only i row hi).2 rfl⟩
  apart := by
    have misses (i j : Nat) (a b : Entity) (hi : r.entities[i]? = some a) (hj : r.entities[j]? = some b) (ne : j ≠ i) :
        PrimaryKey.Misses (KeyMap.get? a r.primary) (KeyMap.get? b r.primary) := by
      obtain ⟨key, read, only⟩ := h i a hi
      intro other same
      rw [PrimaryKey.ofField?, read, Option.some.injEq] at same
      have missed : ¬ r.hasKey key b = true := fun found => ne ((only j b hj).1 found)
      rw [← same]
      simpa [Rows.hasKey] using missed
    rw [Rows.keys, List.pairwise_map, List.pairwise_iff_getElem]
    intro i j hi hj lt
    have first := List.getElem?_eq_getElem hi
    have second := List.getElem?_eq_getElem hj
    exact ⟨misses i j _ _ first second (Nat.ne_of_gt lt), misses j i _ _ second first (Nat.ne_of_lt lt)⟩

namespace Session

/-- Nothing is under way, and the source is at rest over the rows. -/
structure Settled (s : Session) (r : Rows) : Prop extends Serves s r where
  suspended : s.suspended = none
  waiting : s.waiting = []
  failed : s.failed = none
  outcomes : s.outcomes = []
  atRest : s.source.AtRest r.entities

/-- The rows are equal to the members, in some order. -/
def Agrees (s : Session) : Prop :=
  ∃ rows, s.provider = .rows rows ∧ ∃ listed, listed.Perm s.source.entities ∧
    List.Forall₂ (fun row entity => (Json.obj row == .obj entity) = true) rows.entities listed

theorem Serves.keyed {s : Session} {r : Rows} (h : s.Serves r) :
    ∀ row ∈ r.entities, Json.truthy (KeyMap.get? row "id") = true := by
  intro row hrow
  rw [← h.primary]
  exact (h.distinct.usable _ (List.mem_map_of_mem hrow)).1

namespace Settled

variable {s : Session} {r : Rows}

theorem perform (h : s.Settled r) {command : SourceCommand} {reply : SourceReply} {source : Source}
    (gentle : command.Gentle s.source) (done : s.source.perform command = .ok (reply, source)) :
    ({ s with source } : Session).Settled r where
  toServes := h.with_source source
  suspended := h.suspended
  waiting := h.waiting
  failed := h.failed
  outcomes := h.outcomes
  atRest := h.atRest.perform h.keyed gentle done

/-- A sync runs to its end at once, and the rows and the members agree. -/
theorem startSync (h : s.Settled r) (owner : Owner) :
    ∃ (t : Session) (r' : Rows), s.startSync owner = t.complete owner (.ok []) ∧ t.Settled r' ∧ t.Agrees := by
  obtain ⟨stored, inStep⟩ := h.atRest.inStep
  have idle : s.isSyncing = false := by rw [isSyncing, h.suspended]
  obtain ⟨t, done, goesOn, origin⟩ := runSync_working ⟨h.toServes, inStep⟩ s.source.covered_syncTasks owner
  obtain ⟨r', stored', working⟩ := goesOn.working
  obtain ⟨listed, echoes, perm⟩ := working.inStep.settle goesOn.covered.nil
  have frame := goesOn.frame
  refine ⟨t, r', ?_, ⟨working.toServes, ?_, ?_, ?_, ?_, ⟨stored', working.inStep⟩, listed, echoes, origin ▸ perm⟩,
    r', working.provider, listed, perm, echoes.imp fun _ _ echo => echo.equal⟩
  · rw [Session.startSync, idle]
    exact done
  · rw [frame]; exact h.suspended
  · rw [frame]; exact h.waiting
  · rw [frame]; exact h.failed
  · rw [frame]; exact h.outcomes

theorem sync (h : s.Settled r) :
    ∃ r', (s.run .sync).1 = some (.ok []) ∧ (s.run .sync).2.Settled r' ∧ (s.run .sync).2.Agrees := by
  obtain ⟨t, r', done, settled, agrees⟩ := h.startSync .caller
  have result : s.run .sync = (some (.ok []), t) := by
    rw [run, startOperation, done]
    exact pickUp_complete settled.outcomes (.ok [])
  rw [result]
  exact ⟨r', rfl, settled, agrees⟩

theorem settle (h : s.Settled r) :
    ∃ r', s.settle.1 = none ∧ s.settle.2.Settled r' ∧ (0 < s.source.scheduled → s.settle.2.Agrees) := by
  -- A sync in the background leaves the session settled again, so the next one starts like the first.
  have each (count : Nat) (t : Session) (r : Rows) (ht : t.Settled r) :
      ∃ r', ((List.replicate count Owner.background).foldl Session.startSync t).Settled r' ∧
        (t.Agrees ∨ 0 < count → ((List.replicate count Owner.background).foldl Session.startSync t).Agrees) := by
    induction count generalizing t r with
    | zero => exact ⟨r, ht, fun either => either.resolve_right (Nat.lt_irrefl 0)⟩
    | succ count ih =>
      obtain ⟨u, r', done, settled, agrees⟩ := ht.startSync .background
      obtain ⟨last, rested, agree⟩ := ih u r' settled
      rw [List.replicate_succ, List.foldl_cons, done]
      exact ⟨last, rested, fun _ => agree (.inl agrees)⟩
  obtain ⟨stored, inStep⟩ := h.atRest.inStep
  have started : ({ s with source := { s.source with scheduled := 0 } } : Session).Settled r :=
    ⟨h.with_source _, h.suspended, h.waiting, h.failed, h.outcomes,
      ⟨stored, inStep.of_same s.source.origin 0⟩, h.atRest.origin⟩
  obtain ⟨r', settled, agrees⟩ := each s.source.scheduled _ r started
  refine ⟨r', settled.failed, ?_, fun some => agrees (.inr some)⟩
  exact ⟨⟨settled.provider, settled.stopAt, settled.primary, settled.distinct, settled.fresh⟩, settled.suspended,
    settled.waiting, rfl, settled.outcomes, settled.atRest⟩

end Settled

namespace Settled

variable {s : Session} {r : Rows}

theorem of_startFetch (h : s.Serves r) (suspended : s.suspended = none) (waiting : s.waiting = [])
    (failed : s.failed = none) (outcomes : s.outcomes = []) (plain : s.source.Plain) (coherent : s.source.Coherent)
    (intact : ∀ id m, s.source.model? id = some m → m.Intact) (ordered : ∀ row ∈ r.entities, KeyMap.Ordered row)
    (owner : Owner) :
    ∃ (t : Session) (ids : List ModelId), s.startFetch owner = t.complete owner (.ok ids) ∧ t.Settled r := by
  obtain ⟨collection, selected, data⟩ :=
    r.select_whole s.source.fetchParams plain.filter (Source.page_of_disabled plain.paginator)
  have perm : collection.data.Perm r.entities := data ▸ perm_orderRows _ _ _
  obtain ⟨ids, source, loaded, atRest⟩ := Source.AtRest.of_load plain coherent intact h.keyed ordered perm
  have fetched : s.startFetch owner = ({ s with source } : Session).complete owner (.ok ids) := by
    rw [startFetch_rows h.provider h.stopAt suspended, selected, receive_loaded loaded]
  exact ⟨_, ids, fetched, h.with_source source, suspended, waiting, failed, outcomes, atRest⟩

theorem startFetch (h : s.Settled r) (owner : Owner) :
    ∃ (t : Session) (ids : List ModelId), s.startFetch owner = t.complete owner (.ok ids) ∧ t.Settled r := by
  obtain ⟨stored, inStep⟩ := h.atRest.inStep
  exact of_startFetch h.toServes h.suspended h.waiting h.failed h.outcomes inStep.toPlain inStep.coherent inStep.intact
    h.atRest.ordered owner

theorem fetch_run {t : Session} {ids : List ModelId} (done : s.startFetch .caller = t.complete .caller (.ok ids))
    (settled : t.Settled r) : (s.run .fetch).2.Settled r := by
  have result : s.run .fetch = (some (.ok ids), t) := by
    rw [run, startOperation, done]
    exact pickUp_complete settled.outcomes (.ok ids)
  rw [result]
  exact settled

theorem run (h : s.Settled r) (operation : Operation) : ∃ r', (s.run operation).2.Settled r' := by
  obtain ⟨t, ids, done, settled⟩ := h.startFetch .caller
  cases operation with
  | sync =>
    obtain ⟨r', -, synced, -⟩ := h.sync
    exact ⟨r', synced⟩
  | fetch => exact ⟨r, fetch_run done settled⟩
  | fetchInit =>
    have same : s.run .fetchInit = s.run .fetch := by
      rw [Session.run, startOperation, startFetchInit, h.suspended]
      rfl
    rw [same]
    exact ⟨r, fetch_run done settled⟩

end Settled

def fetched (r : Rows) (ids : IdSupply) (autoSync : Bool) (sort : Option (List SortDescriptor)) : Session :=
  ((Session.start { Source.empty .standard [] autoSync .disabled with sort } (.rows r) ids).run .fetch).2

/-- What may become of a session: gentle commands are carried out, operations are run, and what was scheduled is
settled. -/
inductive Later (s : Session) : Session → Prop where
  | now : Later s s
  | perform {t : Session} {command : SourceCommand} {reply : SourceReply} {source : Source} (h : Later s t)
      (gentle : command.Gentle t.source) (done : t.source.perform command = .ok (reply, source)) :
      Later s { t with source }
  | run {t : Session} (operation : Operation) (h : Later s t) : Later s (t.run operation).2
  | settle {t : Session} (h : Later s t) : Later s t.settle.2

theorem settled_fetched {r : Rows} {ids : IdSupply} (primary : r.primary = "id")
    (ordered : ∀ row ∈ r.entities, KeyMap.Ordered row) (apart : r.ToldApart)
    (truthy : ∀ row ∈ r.entities, Json.truthy (KeyMap.get? row r.primary) = true) (fresh : ids.FreshFor r.keys)
    (autoSync : Bool) (sort : Option (List SortDescriptor)) : (fetched r ids autoSync sort).Settled r := by
  have unsorted := Source.Coherent.empty .standard [] autoSync .disabled
  have coherent : ({ Source.empty .standard [] autoSync .disabled with sort } : Source).Coherent :=
    unsorted.of_same (Nat.le_refl _) rfl rfl rfl rfl (unsorted.follows.of_same rfl rfl)
  have plain : ({ Source.empty .standard [] autoSync .disabled with sort } : Source).Plain :=
    ⟨⟨⟨rfl, rfl⟩, by simp [Source.empty]⟩, rfl, rfl⟩
  have intact : ∀ id m, ({ Source.empty .standard [] autoSync .disabled with sort } : Source).model? id = some m →
      m.Intact := by simp [Source.model?, Source.empty]
  have serves : (Session.start { Source.empty .standard [] autoSync .disabled with sort } (.rows r) ids).Serves r :=
    ⟨rfl, rfl, primary, apart.distinct truthy, fresh⟩
  obtain ⟨t, listed, done, settled⟩ := Settled.of_startFetch serves rfl rfl rfl rfl plain coherent intact ordered
    .caller
  exact Settled.fetch_run done settled

theorem Later.settled {s t : Session} {r : Rows} (later : Later s t) (h : s.Settled r) : ∃ r', t.Settled r' := by
  induction later with
  | now => exact ⟨r, h⟩
  | perform _ gentle done ih =>
    obtain ⟨r', settled⟩ := ih
    exact ⟨r', settled.perform gentle done⟩
  | run operation _ ih =>
    obtain ⟨r', settled⟩ := ih
    exact settled.run operation
  | settle _ ih =>
    obtain ⟨r', settled⟩ := ih
    obtain ⟨r'', -, later, -⟩ := settled.settle
    exact ⟨r'', later⟩

theorem Later.performAll? {s t : Session} {commands : List SourceCommand} {source : Source} (h : Later s t)
    (gentle : ∀ command ∈ commands, ∀ u, command.Gentle u) (done : t.source.performAll? commands = some source) :
    Later s { t with source } := by
  induction commands generalizing t with
  | nil =>
    cases done
    exact h
  | cons command rest ih =>
    rw [Source.performAll?, List.foldlM_cons] at done
    obtain ⟨u, hu, later⟩ := Option.bind_eq_some_iff.1 done
    obtain ⟨⟨reply, v⟩, performed, rfl⟩ := Option.map_eq_some_iff.1 hu
    have first := h.perform (gentle command (.head _) _) (ok_of_toOption performed)
    exact @ih { t with source := v } first (fun c hc => gentle c (.tail _ hc)) later

/-- Over rows with truthy keys by which they are told apart, whatever has happened since the first fetch, a sync succeeds
and the rows are then equal to the members. So it is with syncs that were scheduled. -/
theorem agrees_after_sync {r : Rows} {ids : IdSupply} (primary : r.primary = "id")
    (ordered : ∀ row ∈ r.entities, KeyMap.Ordered row) (apart : r.ToldApart)
    (truthy : ∀ row ∈ r.entities, Json.truthy (KeyMap.get? row r.primary) = true) (fresh : ids.FreshFor r.keys)
    (autoSync : Bool) (sort : Option (List SortDescriptor)) {s : Session}
    (later : Later (fetched r ids autoSync sort) s) :
    ((s.run .sync).1 = some (.ok []) ∧ (s.run .sync).2.Agrees) ∧
      s.settle.1 = none ∧ (0 < s.source.scheduled → s.settle.2.Agrees) := by
  obtain ⟨r', settled⟩ := later.settled (settled_fetched primary ordered apart truthy fresh autoSync sort)
  obtain ⟨-, ok, -, agrees⟩ := settled.sync
  obtain ⟨-, none, -, scheduled⟩ := settled.settle
  exact ⟨⟨ok, agrees⟩, none, scheduled⟩

def numbered (n : Int) : Rows := { primary := "id", entities := [[("id", .num (.int n)), ("name", .str "a")]] }

theorem numbered_toldApart (n : Int) (found : (numbered n).hasKey (.number (clampSigned64 n))
    [("id", .num (.int n)), ("name", .str "a")] = true) : (numbered n).ToldApart := by
  intro i row hi
  obtain ⟨rfl, rfl⟩ : i = 0 ∧ row = [("id", .num (.int n)), ("name", .str "a")] := by
    cases i with
    | zero => exact ⟨rfl, (Option.some.inj hi).symm⟩
    | succ i => cases hi
  refine ⟨.number (clampSigned64 n), rfl, fun j other hj => ?_⟩
  cases j with
  | zero => rw [← Option.some.inj hj]; exact iff_of_true found rfl
  | succ j => cases hj

theorem numbered_fresh (n : Int) : IdSupply.keys.FreshFor (numbered n).keys := by
  intro number _ taken
  cases List.mem_singleton.1 taken

theorem numbered_ordered (n : Int) : ∀ row ∈ (numbered n).entities, KeyMap.Ordered row := by
  intro row listed
  cases List.mem_singleton.1 listed
  have ascending : "id" < "name" := by decide
  exact List.pairwise_pair.2 ascending

/-- The row is edited, and an entity is added. -/
theorem agrees_after_sync_sample : ∃ source,
    (fetched (numbered 1) .keys false none).source.performAll?
        [.edit 0 (.setAt ["name"] (.str "b")), .add (.entity [("name", .str "c")])] = some source ∧
      source.changes.added = [1] ∧ source.changes.updated = [0] ∧
      (({ fetched (numbered 1) .keys false none with source }).run .sync).1 = some (.ok []) ∧
      (({ fetched (numbered 1) .keys false none with source }).run .sync).2.Agrees := by
  have shown : ((fetched (numbered 1) .keys false none).source.performAll?
      [.edit 0 (.setAt ["name"] (.str "b")), .add (.entity [("name", .str "c")])]).map
        (fun source => (source.changes.added, source.changes.updated)) = some ([1], [0]) := by decide +kernel
  obtain ⟨source, done, facts⟩ := Option.map_eq_some_iff.1 shown
  simp only [Prod.mk.injEq] at facts
  have later := Later.now.performAll? (fun command hc u => ?_) done
  · obtain ⟨⟨ok, agrees⟩, -⟩ := agrees_after_sync rfl (numbered_ordered 1)
      (numbered_toldApart 1 (by decide +kernel)) (by decide +kernel) (numbered_fresh 1) false none later
    exact ⟨source, done, facts.1, facts.2, ok, agrees⟩
  · simp only [List.mem_cons, List.not_mem_nil, or_false] at hc
    rcases hc with rfl | rfl
    · exact ⟨⟨List.nodup_nil, by simp [SourceCommand.items]⟩, by simp [SourceCommand.items],
        by simp [ModelCommand.Spares]⟩
    · have gentle : (Item.entity [("name", .str "c")]).Gentle u := ⟨by simp [KeyMap.Ordered], rfl⟩
      exact ⟨⟨List.nodup_nil, by simp [SourceCommand.items]⟩, by simpa [SourceCommand.items] using gentle, trivial⟩

/-- A row whose key is zero. Its model counts as new, so that the edit is not noted. -/
theorem not_agrees_of_falsy_key : ¬ ∀ (r : Rows) (ids : IdSupply), r.primary = "id" →
    (∀ row ∈ r.entities, KeyMap.Ordered row) → r.ToldApart → ids.FreshFor r.keys →
      ∀ s, Later (fetched r ids false none) s → (s.run .sync).1 = some (.ok []) ∧ (s.run .sync).2.Agrees := by
  intro always
  have shown : ((fetched (numbered 0) .keys false none).source.performAll?
      [.edit 0 (.setAt ["name"] (.str "b"))]).map (fun source => (source.changes.added, source.changes.updated,
        source.changes.removed, source.entities.any fun entity =>
          Json.obj [("id", .num (.int 0)), ("name", .str "a")] == .obj entity)) = some ([], [], [], false) := by
    decide +kernel
  obtain ⟨source, done, facts⟩ := Option.map_eq_some_iff.1 shown
  simp only [Prod.mk.injEq] at facts
  obtain ⟨added, updated, removed, unequal⟩ := facts
  have later := Later.now.performAll? (fun command hc u => ?_) done
  · obtain ⟨-, rows, provider, listed, perm, equal⟩ := always (numbered 0) .keys rfl (numbered_ordered 0)
      (numbered_toldApart 0 (by decide +kernel)) (numbered_fresh 0) _ later
    have tasks : source.syncTasks = [] := by simp [Source.syncTasks, added, updated, removed]
    have started : ({ fetched (numbered 0) .keys false none with source } : Session).startSync .caller =
        ({ fetched (numbered 0) .keys false none with source := { source with origin := source.entities } } :
          Session).complete .caller (.ok []) := by
      rw [startSync, tasks]
      exact runSync_finished rfl
    have kept : (({ fetched (numbered 0) .keys false none with source } : Session).run .sync).2.provider =
        .rows (numbered 0) := by
      rw [run, startOperation, started]
      rfl
    have members : (({ fetched (numbered 0) .keys false none with source } : Session).run .sync).2.source.entities =
        source.entities := by
      rw [run, startOperation, started]
      rfl
    rw [kept, Provider.rows.injEq] at provider
    rw [members] at perm
    subst provider
    obtain ⟨entity, hentity, same⟩ := forall₂_exists_right equal (List.mem_singleton_self _)
    have missed := List.any_eq_false.1 unequal entity (perm.mem_iff.1 hentity)
    exact missed same
  · rw [List.mem_singleton.1 hc]
    exact ⟨⟨List.nodup_nil, by simp [SourceCommand.items]⟩, by simp [SourceCommand.items],
      by simp [ModelCommand.Spares]⟩

end Session

end RecordSync
