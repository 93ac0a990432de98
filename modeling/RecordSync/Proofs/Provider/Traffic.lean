import RecordSync.Provider.Traffic

/-!
# What overlapping requests are answered from

Every answer tells of something that the server did at a moment that is on record: it carried out that very request, or
it was asked for all of its rows, which the layer has kept since. With nothing in between, a request that is asked,
carried out and answered is an ordinary call.
-/

set_option autoImplicit false

namespace RecordSync

namespace Traffic

variable {t u : Traffic}

inductive Moves (t : Traffic) : TrafficEvent → Traffic → Prop where
  | idle {event : TrafficEvent} : Moves t event { t with now := t.now + 1 }
  | replied {request : Request} {outcome : Outcome request.Answer} (held : t.layer.answer? request = some outcome) :
      Moves t (.ask request) { t with
        now := t.now + 1, replies := t.replies ++ [⟨⟨request, outcome⟩, t.now, t.taken, t.now⟩] }
  | sent {request : Request} (absent : t.layer.answer? request = none) :
      Moves t (.ask request) { t with
        now := t.now + 1, sent := t.sent ++ [request], underWay := t.underWay ++ [⟨request, t.now, none⟩] }
  | carried {request : Request} {place asked : Nat} (waits : t.underWay[place]? = some ⟨request, asked, none⟩)
      {outcome : Outcome request.toServer.Answer} {server : Provider} {ids : IdSupply}
      (called : t.server.call t.ids request.toServer = (outcome, server, ids)) :
      Moves t (.carry place) { t with
        now := t.now + 1, server, ids
        underWay := t.underWay.set place ⟨request, asked, some (t.now, outcome)⟩
        journal := t.journal ++ [(t.now, ⟨request.toServer, outcome⟩)] }
  | answered {request : Request} {place asked carried : Nat} {outcome : Outcome request.toServer.Answer}
      (back : t.underWay[place]? = some ⟨request, asked, some (carried, outcome)⟩)
      {reply : Outcome request.Answer} {layer : Snapshot} {ids : IdSupply}
      (absorbed : t.layer.absorb t.ids request outcome = (reply, layer, ids)) :
      Moves t (.answer place) { t with
        now := t.now + 1, layer, ids
        taken := if request.brings outcome then t.origin request carried outcome else t.taken
        underWay := t.underWay.eraseIdx place
        replies := t.replies ++ [⟨⟨request, reply⟩, asked, t.origin request carried outcome, t.now⟩] }
  | cleared : Moves t .clear { t with now := t.now + 1, layer := t.layer.clear }
  | changed (server : Provider) : Moves t (.change server) { t with now := t.now + 1, server }

theorem moves_step (t : Traffic) (event : TrafficEvent) : t.Moves event (t.step event) := by
  cases event with
  | ask request =>
    cases held : t.layer.answer? request with
    | some outcome => simpa only [step, ask, held] using .replied held
    | none => simpa only [step, ask, held] using .sent held
  | carry place =>
    cases here : t.underWay[place]? with
    | none => simpa only [step, carry, here] using .idle
    | some p =>
      obtain ⟨request, asked, _ | _⟩ := p
      · simpa only [step, carry, here] using .carried here rfl
      · simpa only [step, carry, here] using .idle
  | answer place =>
    cases here : t.underWay[place]? with
    | none => simpa only [step, answer, here] using .idle
    | some p =>
      obtain ⟨request, asked, _ | ⟨carried, outcome⟩⟩ := p
      · simpa only [step, answer, here] using .idle
      · simpa only [step, answer, here] using .answered here rfl
  | clear => exact .cleared
  | change server => exact .changed server

theorem after_append (t : Traffic) (earlier later : List TrafficEvent) :
    t.after (earlier ++ later) = (t.after earlier).after later := List.foldl_append

/-- What holds at the start and is kept by every step holds after every run. -/
theorem after_induct {P : Traffic → Prop} (h : P t)
    (kept : ∀ {t u : Traffic} {event : TrafficEvent}, P t → t.Moves event u → P u)
    (events : List TrafficEvent) : P (t.after events) :=
  List.foldlRecOn events step h fun t h event _ => kept h (t.moves_step event)

/-- With no other request under way, asking, carrying out and answering is a call of the layer in front of its
server. -/
theorem after_undisturbed (t : Traffic) (idle : t.underWay = []) (request : Request) :
    let u := t.after [.ask request, .carry 0, .answer 0]
    let (outcome, provider, ids) := Provider.call (.snapshot t.layer t.server) t.ids request
    Provider.snapshot u.layer u.server = provider ∧ u.ids = ids ∧ u.underWay = [] ∧
      ∃ reply, u.replies = t.replies ++ [reply] ∧ reply.served = ⟨request, outcome⟩ := by
  cases held : t.layer.answer? request with
  | some outcome => simp [after, step, ask, carry, answer, idle, Provider.call, held]
  | none => simp [after, step, ask, carry, answer, idle, Provider.call, held]

end Traffic

inductive Served.TellsOf (primary : String) : Served → Served → Prop where
  | own {request : Request} (single : request.kind ≠ .fetch) (outcome : Outcome request.Answer) :
      TellsOf primary ⟨request, outcome⟩ ⟨request, outcome⟩
  | failed (params : Option FetchParams) (e : ProviderError) :
      TellsOf primary ⟨.fetch params, .error e⟩ ⟨.fetch none, .error e⟩
  | selected (params : Option FetchParams) (collection : Collection) (ids : IdSupply) :
      TellsOf primary ⟨.fetch params, (Rows.ofEntities primary collection.data ids).1.select (params.getD {})⟩
        ⟨.fetch none, .ok collection⟩
  | found (key : PrimaryKey) (collection : Collection) (ids : IdSupply) :
      TellsOf primary ⟨.get key, .ok ((Rows.ofEntities primary collection.data ids).1.find? key)⟩
        ⟨.fetch none, .ok collection⟩

theorem Snapshot.keep_cases (s : Snapshot) (fresh : Rows) :
    s.keepsOwn = true ∧ s.rows = some (s.keep fresh) ∨ s.keepsOwn = false ∧ s.keep fresh = fresh := by
  obtain ⟨_ | _, primary, _ | rows⟩ := s <;> simp [keepsOwn, keep]

theorem Snapshot.afterChange_cases (s : Snapshot) : s.afterChange = s ∨ s.afterChange = { s with rows := none } := by
  obtain ⟨_ | _, primary, rows⟩ := s <;> simp [afterChange]

theorem Snapshot.absorbChange_cases {α : Type} (s : Snapshot) (outcome : Outcome α) :
    s.absorbChange outcome = s ∨ s.absorbChange outcome = { s with rows := none } := by
  cases outcome with
  | ok answer => exact s.afterChange_cases
  | error e => exact .inl rfl

/-- At some moment the server was asked for all of its rows, and these are they. -/
def Traffic.ReadAt (t : Traffic) (primary : String) (moment : Nat) (rows : Rows) : Prop :=
  ∃ collection ids, (moment, ⟨.fetch none, .ok collection⟩) ∈ t.journal ∧
    rows = (Rows.ofEntities primary collection.data ids).1

structure Passage.Recorded (p : Passage) (t : Traffic) : Prop where
  past : p.asked < t.now
  listed : ∀ moment outcome, p.carried = some (moment, outcome) →
    p.asked < moment ∧ (moment, ⟨p.request.toServer, outcome⟩) ∈ t.journal

structure Reply.Recorded (r : Reply) (primary : String) (t : Traffic) : Prop where
  past : r.answered < t.now
  carried_lt : r.carried < r.answered
  asked_le : r.asked ≤ r.answered
  tells : ∃ served, (r.carried, served) ∈ t.journal ∧ r.served.TellsOf primary served

namespace Traffic

variable {t u : Traffic} {event : TrafficEvent} {primary : String}

structure Recorded (t : Traffic) (primary : String) : Prop where
  key : t.layer.primary = primary
  past : ∀ entry ∈ t.journal, entry.1 < t.now
  ordered : t.journal.Pairwise (·.1 < ·.1)
  underWay : ∀ p ∈ t.underWay, p.Recorded t
  rows : ∀ rows, t.layer.rows = some rows → t.ReadAt primary t.taken rows
  replies : ∀ r ∈ t.replies, r.Recorded primary t

structure Grows (t u : Traffic) : Prop where
  now : t.now ≤ u.now
  journal : t.journal ⊆ u.journal

namespace Grows

variable (h : t.Grows u)
include h

theorem readAt {moment : Nat} {rows : Rows} (read : t.ReadAt primary moment rows) : u.ReadAt primary moment rows := by
  obtain ⟨collection, ids, listed, same⟩ := read
  exact ⟨collection, ids, h.journal listed, same⟩

theorem passage {p : Passage} (recorded : p.Recorded t) : p.Recorded u where
  past := Nat.lt_of_lt_of_le recorded.past h.now
  listed moment outcome carried := (recorded.listed moment outcome carried).imp_right fun listed => h.journal listed

theorem reply {r : Reply} (recorded : r.Recorded primary t) : r.Recorded primary u where
  past := Nat.lt_of_lt_of_le recorded.past h.now
  carried_lt := recorded.carried_lt
  asked_le := recorded.asked_le
  tells := by
    obtain ⟨served, listed, tells⟩ := recorded.tells
    exact ⟨served, h.journal listed, tells⟩

end Grows

theorem Moves.grows (moves : t.Moves event u) : t.Grows u := by
  cases moves with
  | carried waits called => exact ⟨Nat.le_succ _, List.subset_append_left _ _⟩
  | _ => exact ⟨Nat.le_succ _, List.Subset.refl _⟩

theorem Recorded.unique (h : t.Recorded primary) {moment : Nat} {a b : Served} (first : (moment, a) ∈ t.journal)
    (second : (moment, b) ∈ t.journal) : a = b := by
  have ordered := h.ordered
  generalize t.journal = journal at first second ordered
  induction journal with
  | nil => cases first
  | cons entry rest ih =>
    obtain ⟨before, ordered⟩ := List.pairwise_cons.1 ordered
    rcases List.mem_cons.1 first with rfl | first <;> rcases List.mem_cons.1 second with same | second
    · cases same
      rfl
    · exact absurd (before _ second) (Nat.lt_irrefl _)
    · exact absurd (same ▸ before _ first) (Nat.lt_irrefl _)
    · exact ih first second ordered

theorem recorded_start (layer : Snapshot) (empty : layer.rows = none) (server : Provider) (ids : IdSupply) :
    (start layer server ids).Recorded layer.primary where
  key := rfl
  past := List.forall_mem_nil _
  ordered := .nil
  underWay := List.forall_mem_nil _
  rows rows held := by
    rw [start, empty] at held
    cases held
  replies := List.forall_mem_nil _

/-- What the layer can answer by itself tells of when its rows were read. -/
theorem Recorded.held (h : t.Recorded primary) {request : Request} {outcome : Outcome request.Answer}
    (held : t.layer.answer? request = some outcome) :
    t.layer.rows.isSome = true ∧
      ∃ served, (t.taken, served) ∈ t.journal ∧ Served.TellsOf primary ⟨request, outcome⟩ served := by
  cases request with
  | fetch params =>
    obtain ⟨rows, kept, rfl⟩ := Option.map_eq_some_iff.1 held
    obtain ⟨collection, ids, listed, rfl⟩ := h.rows rows kept
    exact ⟨by rw [kept]; rfl, _, listed, .selected params collection ids⟩
  | get key =>
    obtain ⟨rows, kept, rfl⟩ := Option.map_eq_some_iff.1 held
    obtain ⟨collection, ids, listed, rfl⟩ := h.rows rows kept
    exact ⟨by rw [kept]; rfl, _, listed, .found key collection ids⟩
  | _ => cases held

/-- What a layer makes of an answer that comes back tells of when the server did it. -/
theorem Recorded.absorb (h : t.Recorded primary) {request : Request} {carried : Nat}
    {outcome : Outcome request.toServer.Answer} (listed : (carried, ⟨request.toServer, outcome⟩) ∈ t.journal)
    {reply : Outcome request.Answer} {layer : Snapshot} {ids : IdSupply}
    (absorbed : t.layer.absorb t.ids request outcome = (reply, layer, ids)) :
    layer.primary = primary ∧
      (∀ rows, layer.rows = some rows →
        t.ReadAt primary (if request.brings outcome then t.origin request carried outcome else t.taken) rows) ∧
      ∃ served, (t.origin request carried outcome, served) ∈ t.journal ∧
        Served.TellsOf primary ⟨request, reply⟩ served := by
  have change {α : Type} (outcome : Outcome α) : (t.layer.absorbChange outcome).primary = primary ∧
      ∀ rows, (t.layer.absorbChange outcome).rows = some rows → t.ReadAt primary t.taken rows := by
    rcases t.layer.absorbChange_cases outcome with same | dropped
    · rw [same]
      exact ⟨h.key, h.rows⟩
    · rw [dropped]
      exact ⟨h.key, nofun⟩
  cases request with
  | fetch params =>
    cases outcome with
    | error e =>
      cases absorbed
      exact ⟨h.key, h.rows, _, listed, .failed params e⟩
    | ok collection =>
      let collection : Collection := collection
      let fresh := Rows.ofEntities t.layer.primary collection.data t.ids
      have taken : t.layer.absorb t.ids (.fetch params) (.ok collection) =
        ((t.layer.keep fresh.1).select (params.getD {}), { t.layer with rows := some (t.layer.keep fresh.1) },
          fresh.2) := rfl
      cases taken.symm.trans absorbed
      have read : t.ReadAt primary (t.origin (.fetch params) carried (.ok collection)) (t.layer.keep fresh.1) := by
        rw [origin, Request.brings, Bool.true_and]
        rcases t.layer.keep_cases fresh.1 with ⟨own, rows⟩ | ⟨others, rows⟩
        · rw [own]
          exact h.rows _ rows
        · rw [others, rows]
          exact ⟨collection, t.ids, listed, by rw [← h.key]⟩
      refine ⟨h.key, ?_, ?_⟩
      · rintro rows ⟨⟩
        exact read
      · obtain ⟨other, ids, listed, rows⟩ := read
        rw [rows]
        exact ⟨_, listed, .selected params other ids⟩
  | get key =>
    cases absorbed
    exact ⟨h.key, h.rows, _, listed, .own (by simp [Request.kind]) _⟩
  | create entity =>
    cases absorbed
    exact ⟨(change _).1, (change _).2, _, listed, .own (by simp [Request.kind]) _⟩
  | update key changes =>
    cases absorbed
    exact ⟨(change _).1, (change _).2, _, listed, .own (by simp [Request.kind]) _⟩
  | remove key =>
    cases absorbed
    exact ⟨(change _).1, (change _).2, _, listed, .own (by simp [Request.kind]) _⟩

theorem Recorded.step (h : t.Recorded primary) (moves : t.Moves event u) : u.Recorded primary := by
  have grows := moves.grows
  have passages : ∀ p ∈ t.underWay, p.Recorded u := fun p listed => grows.passage (h.underWay p listed)
  have replies : ∀ r ∈ t.replies, r.Recorded primary u := fun r listed => grows.reply (h.replies r listed)
  have rows : ∀ rows, t.layer.rows = some rows → u.ReadAt primary t.taken rows :=
    fun rows held => grows.readAt (h.rows rows held)
  have past : ∀ entry ∈ t.journal, entry.1 < t.now + 1 := fun entry listed => Nat.lt_succ_of_lt (h.past entry listed)
  cases moves with
  | idle => exact ⟨h.key, past, h.ordered, passages, rows, replies⟩
  | changed server => exact ⟨h.key, past, h.ordered, passages, rows, replies⟩
  | cleared =>
    rcases t.layer.afterChange_cases with same | dropped
    · exact ⟨(congrArg _ same).trans h.key, past, h.ordered, passages,
        fun kept held => rows kept ((congrArg _ same).symm.trans held), replies⟩
    · exact ⟨(congrArg _ dropped).trans h.key, past, h.ordered, passages,
        fun kept held => (nomatch (congrArg _ dropped).symm.trans held), replies⟩
  | replied held =>
    refine ⟨h.key, past, h.ordered, passages, rows, List.forall_mem_append.2 ⟨replies, List.forall_mem_singleton.2 ?_⟩⟩
    obtain ⟨-, served, listed, tells⟩ := h.held held
    exact ⟨Nat.lt_succ_self _, h.past _ listed, Nat.le_refl _, served, listed, tells⟩
  | sent absent =>
    refine ⟨h.key, past, h.ordered, List.forall_mem_append.2 ⟨passages, List.forall_mem_singleton.2 ?_⟩, rows, replies⟩
    exact ⟨Nat.lt_succ_self _, nofun⟩
  | @carried request place asked waits outcome server ids called =>
    have waiting := h.underWay _ (List.mem_of_getElem? waits)
    refine ⟨h.key, List.forall_mem_append.2 ⟨past, List.forall_mem_singleton.2 (Nat.lt_succ_self _)⟩, ?_, ?_, rows,
      replies⟩
    · rw [List.pairwise_append]
      exact ⟨h.ordered, List.pairwise_singleton _ _, fun entry listed last here =>
        List.mem_singleton.1 here ▸ h.past entry listed⟩
    · intro p listed
      rcases List.mem_or_eq_of_mem_set listed with old | rfl
      · exact passages p old
      · refine ⟨Nat.lt_succ_of_lt waiting.past, ?_⟩
        rintro moment outcome ⟨⟩
        exact ⟨waiting.past, List.mem_append_right _ (.head _)⟩
  | @answered request place asked carried outcome back reply layer ids absorbed =>
    have waiting := h.underWay _ (List.mem_of_getElem? back)
    obtain ⟨lt, listed⟩ := waiting.listed carried outcome rfl
    obtain ⟨key, read, served, known, tells⟩ := h.absorb listed absorbed
    refine ⟨key, past, h.ordered, fun p listed => passages p (List.mem_of_mem_eraseIdx listed), ?_,
      List.forall_mem_append.2 ⟨replies, List.forall_mem_singleton.2 ?_⟩⟩
    · exact fun rows held => grows.readAt (read rows held)
    · exact ⟨Nat.lt_succ_self _, h.past _ known, Nat.le_of_lt waiting.past, served, known, tells⟩

theorem recorded_after (layer : Snapshot) (empty : layer.rows = none) (server : Provider) (ids : IdSupply)
    (events : List TrafficEvent) : ((start layer server ids).after events).Recorded layer.primary :=
  after_induct (recorded_start layer empty server ids) Recorded.step events

end Traffic

end RecordSync
