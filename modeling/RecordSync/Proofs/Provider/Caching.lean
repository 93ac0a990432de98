import RecordSync.Proofs.Provider.Rows
import RecordSync.Provider.Command

/-!
# Transparency of caches

A cache in front of rows in memory is not noticed. What it holds are the rows of the server as long as every row has a
key: a snapshot is taken with the keys that are there, an accepted change drops it, and a failed one leaves the server
as it was.
-/

set_option autoImplicit false

namespace RecordSync

def Rows.Keyed (r : Rows) : Prop := ∀ row ∈ r.entities, Json.truthy (KeyMap.get? row r.primary) = true

/-- An update that succeeds writes no falsy value under the primary key. -/
def Served.SparesKey (primary : String) (served : Served) : Prop :=
  ∀ key changes row, served = ⟨.update key changes, .ok row⟩ →
    ∀ value, (primary, value) ∈ changes → Json.truthy (some value) = true

theorem Entity.truthy_withKey (entity : Entity) (primary : String) (ids : IdSupply) :
    Json.truthy (KeyMap.get? (entity.withKey primary ids).1 primary) = true := by
  unfold withKey
  split
  · assumption
  · simp [KeyMap.get?_insert_self, Json.truthy, IdSupply.next, IdSupply.text_ne_empty]

namespace Rows

variable {r : Rows}

theorem Keyed.ofEntities (h : r.Keyed) (ids : IdSupply) : Rows.ofEntities r.primary r.entities ids = (r, ids) := by
  have kept (rows : List Entity) (h : ∀ row ∈ rows, Json.truthy (KeyMap.get? row r.primary) = true) :
      keyAll r.primary rows ids = (rows, ids) := by
    induction rows with
    | nil => rfl
    | cons row rest ih =>
      rw [List.forall_mem_cons] at h
      simp only [keyAll, Entity.withKey, h.1, if_true, ih h.2]
  rw [Rows.ofEntities, kept r.entities h]

inductive Turns (r : Rows) (ids : IdSupply) : (request : Request) → Outcome request.Answer → Rows → Prop where
  | kept {request : Request} (outcome : Outcome request.Answer) : Turns r ids request outcome r
  | create (entity : Entity) :
      Turns r ids (.create entity) (.ok (entity.withKey r.primary ids).1)
        { r with entities := r.entities ++ [(entity.withKey r.primary ids).1] }
  | update {key : PrimaryKey} {changes row : Entity} (found : r.find? key = some row) :
      Turns r ids (.update key changes) (.ok (KeyMap.union row changes))
        { r with entities := r.entities.set (r.entities.findIdx (r.hasKey key)) (KeyMap.union row changes) }
  | remove {key : PrimaryKey} {row : Entity} (found : r.find? key = some row) :
      Turns r ids (.remove key) (.ok ()) { r with entities := r.entities.eraseP (r.hasKey key) }

theorem turns_call (r : Rows) (ids : IdSupply) (request : Request) :
    r.Turns ids request (r.call ids request).1 (r.call ids request).2.1 := by
  cases request with
  | fetch params => exact .kept _
  | get key => exact .kept _
  | create entity => exact .create entity
  | update key changes =>
    cases found : r.find? key with
    | none => simpa only [Rows.call, found] using .kept _
    | some row => simpa only [Rows.call, found] using .update found
  | remove key =>
    cases found : r.find? key with
    | none => simpa only [Rows.call, found] using .kept _
    | some row => simpa only [Rows.call, found] using .remove found

namespace Turns

variable {ids : IdSupply} {request : Request} {outcome : Outcome request.Answer} {next : Rows}
  (turns : r.Turns ids request outcome next)
include turns

theorem primary : next.primary = r.primary := by cases turns <;> rfl

theorem of_error {e : ProviderError} (failed : outcome = .error e) : next = r := by
  cases turns with
  | kept outcome => rfl
  | create entity => cases failed
  | update found => cases failed
  | remove found => cases failed

theorem keyed (h : r.Keyed) (spared : Served.SparesKey r.primary ⟨request, outcome⟩) : next.Keyed := by
  cases turns with
  | kept outcome => exact h
  | create entity =>
    intro row listed
    rcases List.mem_append.1 listed with old | new
    · exact h row old
    · rw [List.mem_singleton.1 new]
      exact entity.truthy_withKey r.primary ids
  | update found =>
    intro row listed
    rcases List.mem_or_eq_of_mem_set listed with old | rfl
    · exact h row old
    · exact KeyMap.get?_union_of (P := fun value => Json.truthy value = true) (h _ (List.mem_of_find?_eq_some found))
        (spared _ _ _ rfl)
  | remove found => exact fun row listed => h row (List.mem_of_mem_eraseP listed)

end Turns

end Rows

/-- A cache that holds what the server holds, if anything. -/
structure Snapshot.Faithful (s : Snapshot) (r : Rows) : Prop where
  policy : s.policy = .cache
  primary : s.primary = r.primary
  rows : s.rows = none ∨ s.rows = some r

namespace Snapshot.Faithful

variable {s : Snapshot} {r : Rows} (h : s.Faithful r)
include h

theorem afterChange (other : Rows) (primary : other.primary = r.primary) : s.afterChange.Faithful other := by
  have dropped : s.afterChange = { s with rows := none } := by rw [Snapshot.afterChange, h.policy]
  rw [dropped]
  exact ⟨h.policy, h.primary.trans primary.symm, .inl rfl⟩

theorem absorbChange {α : Type} {outcome : Outcome α} {other : Rows} (primary : other.primary = r.primary)
    (failed : ∀ e, outcome = .error e → other = r) : (s.absorbChange outcome).Faithful other := by
  cases outcome with
  | ok answer => exact h.afterChange other primary
  | error e =>
    rw [failed e rfl]
    exact h

end Snapshot.Faithful

namespace Provider

variable {s : Snapshot} {r : Rows}

/-- A request has the outcome that it has without the cache, and the cache stays faithful. -/
theorem call_faithful (h : s.Faithful r) (keyed : r.Keyed) (ids : IdSupply) (request : Request) :
    ∃ s' : Snapshot, s'.Faithful (r.call ids request).2.1 ∧ (Provider.snapshot s (.rows r)).call ids request =
      ((r.call ids request).1, .snapshot s' (.rows (r.call ids request).2.1), (r.call ids request).2.2) := by
  have turns := r.turns_call ids request
  cases request with
  | fetch params =>
    rcases h.rows with empty | held
    · -- The snapshot that is taken consists of the rows themselves, since none of them lacks a key.
      obtain ⟨collection, all, data⟩ := r.select_whole {} rfl rfl
      have fresh : Rows.ofEntities s.primary collection.data ids = (r, ids) := by
        rw [data, h.primary]
        exact keyed.ofEntities ids
      have kept : s.keep r = r := by rw [Snapshot.keep, h.policy]
      refine ⟨{ s with rows := some r }, ⟨h.policy, h.primary, .inr rfl⟩, ?_⟩
      simp only [Provider.call, Snapshot.answer?, empty, Option.map_none, Request.toServer, Rows.call,
        Option.getD_none, all, Snapshot.absorb, fresh, kept]
    · refine ⟨s, h, ?_⟩
      simp only [Provider.call, Snapshot.answer?, held, Option.map_some, Rows.call]
  | get key =>
    refine ⟨s, h, ?_⟩
    rcases h.rows with empty | held
    · simp only [Provider.call, Snapshot.answer?, empty, Option.map_none, Request.toServer, Rows.call, Snapshot.absorb]
    · simp only [Provider.call, Snapshot.answer?, held, Option.map_some, Rows.call]
  | create entity => exact ⟨_, h.absorbChange turns.primary fun e => turns.of_error, rfl⟩
  | update key changes => exact ⟨_, h.absorbChange turns.primary fun e => turns.of_error, rfl⟩
  | remove key => exact ⟨_, h.absorbChange turns.primary fun e => turns.of_error, rfl⟩

theorem request_of_served {p : Provider} {ids : IdSupply} {commands : List ProviderCommand} {served : Served}
    (h : served ∈ (p.performAll ids commands).1) : .request served.request ∈ commands := by
  induction commands generalizing p ids with
  | nil => cases h
  | cons command commands ih =>
    cases command with
    | clear => exact .tail _ (ih h)
    | request request =>
      rcases List.mem_cons.1 h with rfl | later
      · exact .head _
      · exact .tail _ (ih later)

/-- A history through a faithful cache is the history of the rows themselves. -/
theorem performAll_faithful (h : s.Faithful r) (keyed : r.Keyed) (ids : IdSupply) (commands : List ProviderCommand)
    (spared : ∀ served ∈ ((Provider.rows r).performAll ids (commands.filter (·.isRequest))).1,
      served.SparesKey r.primary) :
    ∃ served r' ids' s', (Provider.rows r).performAll ids (commands.filter (·.isRequest)) = (served, .rows r', ids') ∧
      (Provider.snapshot s (.rows r)).performAll ids commands = (served, .snapshot s' (.rows r'), ids') := by
  induction commands generalizing s r ids with
  | nil => exact ⟨[], r, ids, s, rfl, rfl⟩
  | cons command commands ih =>
    cases command with
    | clear =>
      obtain ⟨served, r', ids', s', direct, cached⟩ := ih (h.afterChange r rfl) keyed ids spared
      refine ⟨served, r', ids', s', direct, ?_⟩
      simp only [performAll, perform, clear, Snapshot.clear, cached]
      rfl
    | request request =>
      have turns := r.turns_call ids request
      obtain ⟨u, faithful, called⟩ := call_faithful h keyed ids request
      have first : Served.SparesKey r.primary ⟨request, (r.call ids request).1⟩ := spared _ (.head _)
      obtain ⟨served, r', ids', s', direct, cached⟩ := ih faithful (turns.keyed keyed first) (r.call ids request).2.2
        fun other listed => turns.primary ▸ spared other (.tail _ listed)
      refine ⟨⟨request, (r.call ids request).1⟩ :: served, r', ids', s', ?_, ?_⟩
      · rw [List.filter_cons_of_pos rfl]
        simp only [performAll, perform, Provider.call, direct]
        rfl
      · simp only [performAll, perform, called, cached]
        rfl

/-- Through a cache the requests of a history have the same outcomes, generate the same keys and leave the same rows
behind as without it, however often the cache is cleared. -/
theorem performAll_cache (r : Rows) (ids : IdSupply) (commands : List ProviderCommand) (keyed : r.Keyed)
    (spared : ∀ served ∈ ((Provider.rows r).performAll ids (commands.filter (·.isRequest))).1,
      served.SparesKey r.primary) :
    ∃ served r' ids' s', (Provider.rows r).performAll ids (commands.filter (·.isRequest)) = (served, .rows r', ids') ∧
      (Provider.snapshot { policy := .cache, primary := r.primary, rows := none } (.rows r)).performAll ids commands =
        (served, .snapshot s' (.rows r'), ids') :=
  performAll_faithful ⟨rfl, rfl, .inl rfl⟩ keyed ids commands spared

def entry : Rows := { primary := "id", entities := [[("id", .num (.int 1)), ("name", .str "a")]] }

def edits : List ProviderCommand :=
  [.request (.fetch none), .request (.update (.number 1) [("name", .str "b")]), .request (.get (.number 1)), .clear,
    .request (.fetch none), .request (.remove (.number 2)), .request (.create [("name", .str "c")]),
    .request (.fetch none)]

theorem performAll_cache_edits : ∃ served r' ids' s',
    (Provider.rows entry).performAll .keys (edits.filter (·.isRequest)) = (served, .rows r', ids') ∧
      (Provider.snapshot { policy := .cache, primary := entry.primary, rows := none } (.rows entry)).performAll .keys
        edits = (served, .snapshot s' (.rows r'), ids') ∧ served.length = 7 ∧ r'.entities.length = 2 := by
  have keyed : entry.Keyed := by
    rw [Rows.Keyed]
    decide +kernel
  obtain ⟨served, r', ids', s', direct, cached⟩ := performAll_cache entry .keys edits keyed
    fun served listed key changes row same value written => by
      have requested := request_of_served listed
      rw [same] at requested
      obtain ⟨-, rfl⟩ : key = .number 1 ∧ changes = [("name", .str "b")] := by
        simpa [edits, ProviderCommand.isRequest] using requested
      simp [entry] at written
  have counts : (fun run : List Served × Provider × IdSupply => (run.1.length, run.2.1.rows?.map (·.entities.length)))
      ((Provider.rows entry).performAll .keys (edits.filter (·.isRequest))) = (7, some 2) := by decide +kernel
  rw [direct] at counts
  simp only [Provider.rows?, base, Option.map_some, Prod.mk.injEq, Option.some.injEq] at counts
  exact ⟨served, r', ids', s', direct, cached, counts⟩

end Provider

end RecordSync
