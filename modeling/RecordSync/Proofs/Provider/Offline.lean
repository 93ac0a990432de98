import RecordSync.Proofs.Provider.Traffic

/-!
# One snapshot for offline use

Several fetches may be on their way when the first answer comes back, and the server may have read different rows for
each of them. The rows of the first answer are kept for good. The answers that come later are discarded, and the fetches
they belong to are served from the kept rows as well.
-/

set_option autoImplicit false

namespace RecordSync

def Served.fetched? : Served → Option (FetchParams × Collection)
  | ⟨.fetch params, .ok collection⟩ => some (params.getD {}, collection)
  | _ => none

theorem Served.outcome_of_fetched? {params : Option FetchParams} {outcome : Outcome Collection} {asked : FetchParams}
    {collection : Collection} (fetched : Served.fetched? ⟨.fetch params, outcome⟩ = some (asked, collection)) :
    asked = params.getD {} ∧ outcome = .ok collection := by
  cases outcome with
  | ok given =>
    cases fetched
    exact ⟨rfl, rfl⟩
  | error e => cases fetched

/-- Every fetch that succeeded was given the selection of these rows. -/
def Rows.Serve (rows : Rows) (replies : List Reply) : Prop :=
  ∀ r ∈ replies, ∀ params collection, r.served.fetched? = some (params, collection) →
    rows.select params = .ok collection

namespace Snapshot

variable {s : Snapshot}

theorem absorbChange_offline {α : Type} (offline : s.policy = .offline) (outcome : Outcome α) :
    s.absorbChange outcome = s := by
  cases outcome <;> simp [absorbChange, afterChange, offline]

/-- A fetch that a layer answers by itself is given a selection of its rows. -/
theorem select_of_answer? {request : Request} {outcome : Outcome request.Answer} {asked : FetchParams}
    {given : Collection} (held : s.answer? request = some outcome)
    (fetched : Served.fetched? ⟨request, outcome⟩ = some (asked, given)) :
    ∃ rows, s.rows = some rows ∧ rows.select asked = .ok given := by
  cases request with
  | fetch params =>
    obtain ⟨rows, kept, selected⟩ := Option.map_eq_some_iff.1 held
    obtain ⟨rfl, rfl⟩ := Served.outcome_of_fetched? fetched
    exact ⟨rows, kept, selected⟩
  | get key => cases fetched
  | _ => cases held

/-- What a layer for offline use makes of an answer: it takes over the rows that a fetch brings if it has none, and the
fetch is given a selection of what the layer has then. Otherwise it stays as it is. -/
theorem absorb_offline (offline : s.policy = .offline) {ids later : IdSupply} {request : Request}
    {outcome : Outcome request.toServer.Answer} {reply : Outcome request.Answer} {layer : Snapshot}
    (absorbed : s.absorb ids request outcome = (reply, layer, later)) :
    (layer = s ∧ Served.fetched? ⟨request, reply⟩ = none) ∨
      ∃ params collection, (⟨request, outcome⟩ : (request : Request) × Outcome request.toServer.Answer) =
          ⟨.fetch params, .ok collection⟩ ∧
        let rows := s.rows.getD (Rows.ofEntities s.primary collection.data ids).1
        layer = { s with rows := some rows } ∧
          ∀ asked given, Served.fetched? ⟨request, reply⟩ = some (asked, given) → rows.select asked = .ok given := by
  cases request with
  | fetch params =>
    cases outcome with
    | ok collection =>
      let collection : Collection := collection
      have keep (fresh : Rows) : s.keep fresh = s.rows.getD fresh := by simp only [keep, offline]
      cases absorbed
      refine .inr ⟨params, collection, rfl, by rw [keep]; rfl, fun asked given fetched => ?_⟩
      obtain ⟨rfl, selected⟩ := Served.outcome_of_fetched? fetched
      rw [← keep]
      exact selected
    | error e =>
      cases absorbed
      exact .inl ⟨rfl, rfl⟩
  | get key =>
    cases absorbed
    exact .inl ⟨rfl, rfl⟩
  | create entity =>
    cases absorbed
    exact .inl ⟨absorbChange_offline offline _, rfl⟩
  | update key changes =>
    cases absorbed
    exact .inl ⟨absorbChange_offline offline _, rfl⟩
  | remove key =>
    cases absorbed
    exact .inl ⟨absorbChange_offline offline _, rfl⟩

end Snapshot

namespace Traffic

variable {t u : Traffic} {event : TrafficEvent} {rows : Rows}

def fetches (t : Traffic) : List Request := t.sent.filter (·.kind == .fetch)

/-- The answer that comes back at a place has the rows that the server read at a moment. -/
def Brings (t : Traffic) (place moment : Nat) (rows : Rows) : Prop :=
  ∃ params asked collection, t.underWay[place]? = some ⟨.fetch params, asked, some (moment, .ok collection)⟩ ∧
    rows = (Rows.ofEntities t.layer.primary collection.data t.ids).1

structure Single (t : Traffic) : Prop where
  offline : t.layer.policy = .offline
  served : ∀ r ∈ t.replies, ∀ params collection, r.served.fetched? = some (params, collection) →
    ∃ rows, t.layer.rows = some rows ∧ rows.select params = .ok collection

namespace Single

theorem clear (h : t.Single) : t.layer.clear = t.layer := by
  simp only [Snapshot.clear, Snapshot.afterChange, h.offline]

/-- Rows that are held stay, and no fetch goes to the server any more. -/
theorem stays (h : t.Single) (moves : t.Moves event u) (held : t.layer.rows = some rows) :
    u.layer.rows = some rows ∧ u.fetches = t.fetches := by
  cases moves with
  | cleared => exact ⟨h.clear.symm ▸ held, rfl⟩
  | @sent request absent =>
    refine ⟨held, ?_⟩
    have change : (request.kind == .fetch) = false := by
      cases request with
      | fetch params => simp [Snapshot.answer?, held] at absent
      | _ => rfl
    simp [fetches, change]
  | answered back absorbed =>
    rcases Snapshot.absorb_offline h.offline absorbed with ⟨rfl, -⟩ | ⟨params, collection, -, rfl, -⟩
    · exact ⟨held, rfl⟩
    · exact ⟨by rw [held, Option.getD_some], rfl⟩
  | _ => exact ⟨held, rfl⟩

theorem takes (h : t.Single) (moves : t.Moves event u) (empty : t.layer.rows = none)
    (held : u.layer.rows = some rows) :
    ∃ place moment, event = .answer place ∧ t.Brings place moment rows ∧ u.fetches = t.fetches := by
  cases moves with
  | cleared => simp [h.clear, empty] at held
  | @answered request place asked carried outcome back reply layer ids absorbed =>
    rcases Snapshot.absorb_offline h.offline absorbed with ⟨rfl, -⟩ | ⟨params, collection, same, rfl, -⟩
    · simp [empty] at held
    · cases same
      rw [empty, Option.getD_none] at held
      cases held
      exact ⟨place, carried, rfl, ⟨params, asked, collection, back, rfl⟩, rfl⟩
  | _ => simp [empty] at held

theorem brings (h : t.Single) (empty : t.layer.rows = none) {place moment : Nat} (brings : t.Brings place moment rows) :
    (t.step (.answer place)).layer.rows = some rows := by
  obtain ⟨params, asked, collection, back, rfl⟩ := brings
  simp [Traffic.step, answer, back, Snapshot.absorb, Snapshot.keep, h.offline, empty]

theorem step (h : t.Single) (moves : t.Moves event u) : u.Single := by
  have served : ∀ r ∈ t.replies, ∀ params collection, r.served.fetched? = some (params, collection) →
      ∃ rows, u.layer.rows = some rows ∧ rows.select params = .ok collection := by
    intro r listed params collection fetched
    obtain ⟨rows, held, selected⟩ := h.served r listed params collection fetched
    exact ⟨rows, (h.stays moves held).1, selected⟩
  cases moves with
  | cleared => exact ⟨h.clear.symm ▸ h.offline, served⟩
  | replied held =>
    refine ⟨h.offline, List.forall_mem_append.2 ⟨served, List.forall_mem_singleton.2 ?_⟩⟩
    exact fun params collection fetched => Snapshot.select_of_answer? held fetched
  | answered back absorbed =>
    rcases Snapshot.absorb_offline h.offline absorbed with ⟨rfl, failed⟩ | ⟨params, collection, -, rfl, selected⟩
    · refine ⟨h.offline, List.forall_mem_append.2 ⟨served, List.forall_mem_singleton.2 ?_⟩⟩
      simp [failed]
    · refine ⟨h.offline, List.forall_mem_append.2 ⟨served, List.forall_mem_singleton.2 ?_⟩⟩
      exact fun asked given fetched => ⟨_, rfl, selected asked given fetched⟩
  | _ => exact ⟨h.offline, served⟩

theorem start (primary : String) (server : Provider) (ids : IdSupply) :
    (Traffic.start ⟨.offline, primary, none⟩ server ids).Single :=
  ⟨rfl, List.forall_mem_nil _⟩

theorem after (h : t.Single) (events : List TrafficEvent) : (t.after events).Single :=
  after_induct h step events

theorem stays_after (h : t.Single) (held : t.layer.rows = some rows) (events : List TrafficEvent) :
    (t.after events).layer.rows = some rows ∧ (t.after events).fetches = t.fetches := by
  have kept {v w : Traffic} {event : TrafficEvent}
      (h : v.Single ∧ v.layer.rows = some rows ∧ v.fetches = t.fetches) (moves : v.Moves event w) :
      w.Single ∧ w.layer.rows = some rows ∧ w.fetches = t.fetches := by
    obtain ⟨single, held, same⟩ := h
    obtain ⟨stays, fetches⟩ := single.stays moves held
    exact ⟨single.step moves, stays, fetches.trans same⟩
  exact (after_induct ⟨h, held, rfl⟩ kept events).2

/-- Either the layer stays empty, or there is an answer that brings its rows. -/
theorem empty_or_takes (h : t.Single) (empty : t.layer.rows = none) (events : List TrafficEvent) :
    (t.after events).layer.rows = none ∨
      ∃ before place later, events = before ++ .answer place :: later ∧ (t.after before).layer.rows = none ∧
        ∃ moment rows, (t.after before).Brings place moment rows ∧
          (t.after (before ++ [.answer place])).layer.rows = some rows ∧
          (t.after (before ++ [.answer place])).fetches = (t.after before).fetches := by
  induction events generalizing t with
  | nil => exact .inl empty
  | cons event events ih =>
    have moves := t.moves_step event
    cases held : (t.step event).layer.rows with
    | none =>
      refine (ih (h.step moves) held).imp_right ?_
      rintro ⟨before, place, later, rfl, first⟩
      exact ⟨event :: before, place, later, rfl, first⟩
    | some rows =>
      obtain ⟨place, moment, rfl, brings, fetches⟩ := h.takes moves empty held
      exact .inr ⟨[], place, events, rfl, empty, moment, rows, brings, held, fetches⟩

theorem not_brings (h : t.Single) {before later : List TrafficEvent} {place moment : Nat}
    (empty : (t.after (before ++ .answer place :: later)).layer.rows = none) :
    ¬(t.after before).Brings place moment rows := by
  intro brings
  rw [after_append] at empty
  cases held : (t.after before).layer.rows with
  | some others =>
    have kept := (h.after before).stays_after held (.answer place :: later)
    exact Option.some_ne_none others (kept.1.symm.trans empty)
  | none =>
    have came := (h.after before).brings held brings
    have kept := ((h.after before).step (moves_step _ _)).stays_after came later
    exact Option.some_ne_none rows (kept.1.symm.trans empty)

end Single

/-- Whatever passes through a layer for offline use, in whatever order: no fetch succeeds before an answer with rows has
come back. All of them are served from the rows of the first one, which stay from then on, and no fetch goes to the
server any more. -/
theorem fetches_from_first_rows (primary : String) (server : Provider) (ids : IdSupply) (events : List TrafficEvent) :
    let t := Traffic.start ⟨.offline, primary, none⟩ server ids
    ((∀ before place later, events = before ++ .answer place :: later →
        ∀ moment rows, ¬(t.after before).Brings place moment rows) ∧
      (t.after events).layer.rows = none ∧ ∀ r ∈ (t.after events).replies, r.served.fetched? = none) ∨
      ∃ before place later, events = before ++ .answer place :: later ∧ (t.after before).layer.rows = none ∧
        ∃ moment rows, (t.after before).Brings place moment rows ∧ (t.after before).ReadAt primary moment rows ∧
          (∀ further, (t.after (before ++ .answer place :: further)).layer.rows = some rows ∧
            (t.after (before ++ .answer place :: further)).fetches = (t.after before).fetches) ∧
          rows.Serve (t.after events).replies := by
  intro t
  have single : t.Single := .start primary server ids
  rcases single.empty_or_takes rfl events with
    empty | ⟨before, place, later, rfl, empty, moment, rows, brings, held, same⟩
  · refine .inl ⟨?_, empty, fun r listed => Option.eq_none_iff_forall_ne_some.2 fun fetched given => ?_⟩
    · rintro before place later rfl moment rows
      exact single.not_brings empty
    obtain ⟨rows, held, -⟩ := (single.after events).served r listed _ _ given
    simp [empty] at held
  · have stays (further : List TrafficEvent) :
        (t.after (before ++ .answer place :: further)).layer.rows = some rows ∧
          (t.after (before ++ .answer place :: further)).fetches = (t.after before).fetches := by
      rw [List.append_cons, after_append, ← same]
      exact (single.after _).stays_after held further
    refine .inr ⟨before, place, later, rfl, empty, moment, rows, brings, ?_, stays, ?_⟩
    · obtain ⟨params, asked, collection, back, rfl⟩ := brings
      have recorded : (t.after before).Recorded primary :=
        recorded_after ⟨.offline, primary, none⟩ rfl server ids before
      have waiting := recorded.underWay _ (List.mem_of_getElem? back)
      exact ⟨collection, _, (waiting.listed moment _ rfl).2, by rw [recorded.key]⟩
    · intro r listed params collection fetched
      obtain ⟨kept, others, selected⟩ := (single.after _).served r listed params collection fetched
      cases (stays later).1.symm.trans others
      exact selected

/-- A row is created between two fetches. The answer to the second one is the first to come back, and both fetches show
the new row, as does a third one, which does not go to the server. -/
theorem fetches_from_first_rows_overtaken :
    let t := (start ⟨.offline, "id", none⟩ (.rows ⟨"id", [[("id", .num (.int 1))]]⟩) .keys).after
      [.ask (.fetch none), .carry 0, .ask (.create [("id", .num (.int 2))]), .carry 1, .ask (.fetch none), .carry 2,
        .answer 2, .answer 0, .ask (.fetch none)]
    (t.replies.filterMap (·.served.fetched?)).map (·.2.total) = [some 2, some 2, some 2] ∧ t.fetches.length = 2 ∧
      ∃ rows, t.layer.rows = some rows ∧ rows.Serve t.replies := by
  intro t
  have totals : (t.replies.filterMap (·.served.fetched?)).map (·.2.total) = [some 2, some 2, some 2] := by
    decide +kernel
  have asked : t.fetches.length = 2 := by decide +kernel
  refine ⟨totals, asked, ?_⟩
  rcases fetches_from_first_rows "id" (.rows ⟨"id", [[("id", .num (.int 1))]]⟩) .keys
      [.ask (.fetch none), .carry 0, .ask (.create [("id", .num (.int 2))]), .carry 1, .ask (.fetch none), .carry 2,
        .answer 2, .answer 0, .ask (.fetch none)] with
    ⟨-, -, unserved⟩ | ⟨before, place, later, same, -, moment, rows, -, -, stays, serve⟩
  · have none : t.replies.filterMap (·.served.fetched?) = [] := List.filterMap_eq_nil_iff.2 unserved
    rw [none] at totals
    cases totals
  · refine ⟨rows, ?_, serve⟩
    have kept := (stays later).1
    rwa [← same] at kept

end Traffic

end RecordSync
