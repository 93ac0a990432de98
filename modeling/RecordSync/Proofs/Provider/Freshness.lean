import RecordSync.Proofs.Provider.Traffic

/-!
# Freshness of caches

An accepted change drops what a cache holds, so that a request asked after it is answered from what the server did after
it, with one exception: rows that the server read before the change are still on their way when the change comes back.
They are kept when they arrive, and serve whatever is asked from then on.
-/

set_option autoImplicit false

namespace RecordSync

def RequestKind.isChange : RequestKind → Bool
  | .fetch => false
  | .get => false
  | .create => true
  | .update => true
  | .remove => true

def Served.acceptedChange (served : Served) : Bool := served.request.kind.isChange && served.outcome.isOk

namespace Served

theorem not_acceptedChange_of_answer? {s : Snapshot} {request : Request} {outcome : Outcome request.Answer}
    (held : s.answer? request = some outcome) : acceptedChange ⟨request, outcome⟩ = false := by
  cases request with
  | fetch params => rfl
  | get key => rfl
  | _ => cases held

/-- No accepted change tells of the server being asked for its rows. -/
theorem TellsOf.not_acceptedChange {primary : String} {served entry : Served} (tells : served.TellsOf primary entry)
    (fetched : entry.request.kind = .fetch) : served.acceptedChange = false := by
  cases tells with
  | own single => exact absurd fetched single
  | failed => rfl
  | selected => rfl
  | found => rfl

theorem TellsOf.kind {primary : String} {served entry : Served} (tells : served.TellsOf primary entry)
    (fetch : served.request.kind = .fetch) : entry.request.kind = .fetch := by
  cases tells with
  | own single => exact absurd fetch single
  | failed => rfl
  | selected => rfl
  | found => rfl

end Served

namespace Snapshot

variable {s : Snapshot}

/-- What a cache makes of an answer: it takes rows over, it drops its own after an accepted change, and otherwise it
stays as it is. -/
theorem absorb_cases (cache : s.policy = .cache) {ids later : IdSupply} {request : Request}
    {outcome : Outcome request.toServer.Answer} {reply : Outcome request.Answer} {layer : Snapshot}
    (absorbed : s.absorb ids request outcome = (reply, layer, later)) :
    layer.policy = .cache ∧
      (request.brings outcome = true ∧ request.kind = .fetch ∨
        request.brings outcome = false ∧ (layer.rows = none ∨
          layer.rows = s.rows ∧ Served.acceptedChange ⟨request, reply⟩ = false)) := by
  have change {α : Type} (outcome : Outcome α) : (s.absorbChange outcome).policy = .cache ∧
      ((s.absorbChange outcome).rows = none ∨ (s.absorbChange outcome).rows = s.rows ∧ outcome.isOk = false) := by
    cases outcome with
    | ok answer => simp [absorbChange, afterChange, cache]
    | error e => exact ⟨cache, .inr ⟨rfl, rfl⟩⟩
  cases request with
  | fetch params =>
    cases outcome with
    | ok collection =>
      cases absorbed
      exact ⟨cache, .inl ⟨rfl, rfl⟩⟩
    | error e =>
      cases absorbed
      exact ⟨cache, .inr ⟨rfl, .inr ⟨rfl, rfl⟩⟩⟩
  | get key =>
    cases absorbed
    exact ⟨cache, .inr ⟨rfl, .inr ⟨rfl, rfl⟩⟩⟩
  | create entity =>
    cases absorbed
    exact ⟨(change _).1, .inr ⟨rfl, (change _).2⟩⟩
  | update key changes =>
    cases absorbed
    exact ⟨(change _).1, .inr ⟨rfl, (change _).2⟩⟩
  | remove key =>
    cases absorbed
    exact ⟨(change _).1, .inr ⟨rfl, (change _).2⟩⟩

end Snapshot

namespace Traffic

variable {t u : Traffic} {event : TrafficEvent} {primary : String}

def CameIn (t : Traffic) (read earlier later : Nat) : Prop :=
  ∃ late ∈ t.replies, late.served.request.kind = .fetch ∧ late.asked < late.carried ∧ late.carried = read ∧
    earlier < late.answered ∧ late.answered < later

theorem CameIn.mono {read earlier later after : Nat} (h : t.CameIn read earlier later)
    (replies : t.replies ⊆ u.replies) (le : later ≤ after) : u.CameIn read earlier after := by
  obtain ⟨late, listed, fetch, asked, carried, since, before⟩ := h
  exact ⟨late, replies listed, fetch, asked, carried, since, Nat.lt_of_lt_of_le before le⟩

structure Dropping (t : Traffic) : Prop where
  policy : t.layer.policy = .cache
  held : ∀ change ∈ t.replies, change.served.acceptedChange = true → t.layer.rows.isSome = true →
    t.CameIn t.taken change.answered t.now
  replies : ∀ r ∈ t.replies, r.asked < r.carried ∨ ∀ change ∈ t.replies, change.served.acceptedChange = true →
    change.answered < r.asked → t.CameIn r.carried change.answered r.asked

/-- Answers that were given before say the same about a change when there are more of them, since those are given
later. -/
theorem Dropping.earlier (h : t.Dropping) (recorded : t.Recorded primary) {fresh : Reply}
    (replies : u.replies = t.replies ++ [fresh]) (now : fresh.answered = t.now) :
    ∀ r ∈ t.replies, r.asked < r.carried ∨ ∀ change ∈ u.replies, change.served.acceptedChange = true →
      change.answered < r.asked → u.CameIn r.carried change.answered r.asked := by
  intro r listed
  refine (h.replies r listed).imp_right fun cameIn change known accepted before => ?_
  rw [replies] at known
  rcases List.mem_append.1 known with old | new
  · exact (cameIn change old accepted before).mono (replies ▸ List.subset_append_left _ _) (Nat.le_refl _)
  · have past := recorded.replies r listed
    rw [List.mem_singleton.1 new, now] at before
    exact absurd (Nat.lt_of_lt_of_le before past.asked_le) (Nat.lt_asymm past.past)

/-- An event that touches neither the layer nor the answers lets only time pass. -/
theorem Dropping.unchanged (h : t.Dropping) (layer : u.layer = t.layer) (taken : u.taken = t.taken)
    (replies : u.replies = t.replies) (now : t.now ≤ u.now) : u.Dropping where
  policy := by rw [layer, h.policy]
  held := by
    rw [layer, taken, replies]
    exact fun change listed accepted held =>
      (h.held change listed accepted held).mono (replies ▸ List.Subset.refl _) now
  replies := by
    rw [replies]
    intro r listed
    refine (h.replies r listed).imp_right fun cameIn change known accepted before => ?_
    exact (cameIn change known accepted before).mono (replies ▸ List.Subset.refl _) (Nat.le_refl _)

theorem Dropping.step (h : t.Dropping) (recorded : t.Recorded primary) (moves : t.Moves event u) : u.Dropping := by
  have grown {fresh : Reply} : t.replies ⊆ t.replies ++ [fresh] := List.subset_append_left _ _
  cases moves with
  | idle => exact h.unchanged rfl rfl rfl (Nat.le_succ _)
  | sent absent => exact h.unchanged rfl rfl rfl (Nat.le_succ _)
  | carried waits called => exact h.unchanged rfl rfl rfl (Nat.le_succ _)
  | changed server => exact h.unchanged rfl rfl rfl (Nat.le_succ _)
  | cleared =>
    have dropped : t.layer.clear = { t.layer with rows := none } := by
      simp only [Snapshot.clear, Snapshot.afterChange, h.policy]
    refine ⟨?_, fun change listed accepted held => ?_, h.replies⟩
    · simpa only [dropped] using h.policy
    · simp [dropped] at held
  | @replied request outcome held =>
    have read : Served.acceptedChange ⟨request, outcome⟩ = false := Served.not_acceptedChange_of_answer? held
    have rows : t.layer.rows.isSome = true := (recorded.held held).1
    refine ⟨h.policy, List.forall_mem_append.2 ⟨?_, ?_⟩, List.forall_mem_append.2 ⟨?_, ?_⟩⟩
    · exact fun change listed accepted rows => (h.held change listed accepted rows).mono grown (Nat.le_succ _)
    · simp [read]
    · exact h.earlier recorded rfl rfl
    · refine List.forall_mem_singleton.2 (.inr (List.forall_mem_append.2 ⟨?_, ?_⟩))
      · exact fun change listed accepted _ => (h.held change listed accepted rows).mono grown (Nat.le_refl _)
      · simp [read]
  | @answered request place asked carried outcome back reply layer ids absorbed =>
    have lt : asked < carried := ((recorded.underWay _ (List.mem_of_getElem? back)).listed carried outcome rfl).1
    have origin : t.origin request carried outcome = carried := by
      simp [Traffic.origin, Snapshot.keepsOwn, h.policy]
    obtain ⟨policy, ⟨brings, fetch⟩ | ⟨brings, dropped | ⟨same, refused⟩⟩⟩ := Snapshot.absorb_cases h.policy absorbed
    all_goals
      refine ⟨policy, List.forall_mem_append.2 ⟨?_, ?_⟩, List.forall_mem_append.2 ⟨h.earlier recorded rfl rfl,
        List.forall_mem_singleton.2 (.inl (by simpa only [origin] using lt))⟩⟩
    -- The rows that came in were kept after every change so far.
    · intro change listed accepted held
      simp only [brings, if_true]
      exact ⟨_, List.mem_append_right _ (.head _), fetch, by simpa only [origin] using lt, rfl,
        (recorded.replies change listed).past, Nat.lt_succ_self _⟩
    · simp [Served.acceptedChange, fetch, RequestKind.isChange]
    · simp [dropped]
    · simp [dropped]
    · intro change listed accepted held
      simp only [brings, Bool.false_eq_true, if_false]
      exact (h.held change listed accepted (same ▸ held)).mono grown (Nat.le_succ _)
    · simp [refused]

theorem dropping_after (primary : String) (server : Provider) (ids : IdSupply) (events : List TrafficEvent) :
    ((start ⟨.cache, primary, none⟩ server ids).after events).Dropping := by
  have both {t u : Traffic} {event : TrafficEvent} (h : t.Recorded primary ∧ t.Dropping) (moves : t.Moves event u) :
      u.Recorded primary ∧ u.Dropping := ⟨h.1.step moves, h.2.step h.1 moves⟩
  refine (after_induct ⟨recorded_start ⟨.cache, primary, none⟩ rfl server ids, rfl, ?_, ?_⟩ both events).2
  · exact List.forall_mem_nil _
  · exact List.forall_mem_nil _

/-- Whatever passes through a cache, in whatever order: what is read after a change was accepted tells of what the
server did after it made the change, or else of rows that the server read before and that came in in between. -/
theorem carried_after_change (primary : String) (server : Provider) (ids : IdSupply) (events : List TrafficEvent)
    {change read : Reply} :
    let t := (start ⟨.cache, primary, none⟩ server ids).after events
    change ∈ t.replies → change.served.acceptedChange = true →
    read ∈ t.replies → change.answered < read.asked →
      (∃ served, (read.carried, served) ∈ t.journal ∧ read.served.TellsOf primary served) ∧
        (change.carried < read.carried ∨
          read.carried < change.carried ∧ t.CameIn read.carried change.answered read.asked) := by
  intro t known accepted listed before
  have recorded : t.Recorded primary := recorded_after ⟨.cache, primary, none⟩ rfl server ids events
  have made := recorded.replies change known
  refine ⟨(recorded.replies read listed).tells, ?_⟩
  rcases (dropping_after primary server ids events).replies read listed with late | cameIn
  · exact .inl (Nat.lt_trans (Nat.lt_trans made.carried_lt before) late)
  · have cameIn := cameIn change known accepted before
    rcases Nat.lt_trichotomy read.carried change.carried with lt | eq | lt
    · exact .inr ⟨lt, cameIn⟩
    · -- What the server did then was to send its rows, and that is no change.
      obtain ⟨late, came, fetch, -, carried, -⟩ := cameIn
      obtain ⟨entry, made, tells⟩ := made.tells
      obtain ⟨other, sent, brought⟩ := (recorded.replies late came).tells
      cases recorded.unique made (eq ▸ carried ▸ sent)
      exact absurd accepted (by rw [tells.not_acceptedChange (brought.kind fetch)]; nofun)
    · exact .inl lt

/-- While a fetch is under way that the server has carried out, a row is created; then the rows come in, and another
fetch is answered from them. -/
def overtaken : Traffic :=
  (start ⟨.cache, "id", none⟩ (.rows ⟨"id", [[("id", .num (.int 1)), ("name", .str "a")]]⟩) .keys).after
    [.ask (.fetch none), .carry 0, .ask (.create [("name", .str "b")]), .carry 1, .answer 1, .answer 0,
      .ask (.fetch none)]

theorem length_overtaken : overtaken.replies.length = 3 := by decide +kernel

def overtakenChange : Reply := overtaken.replies.get ⟨0, by rw [length_overtaken]; decide⟩

def overtakenRead : Reply := overtaken.replies.get ⟨2, by rw [length_overtaken]; decide⟩

theorem overtaken_moments : overtakenChange.served.acceptedChange = true ∧
    overtakenChange.answered < overtakenRead.asked ∧ overtakenRead.carried < overtakenChange.carried := by
  decide +kernel

/-- One of two rows is served, and will be until the next change. -/
theorem stale_after_change : ∃ change ∈ overtaken.replies, ∃ read ∈ overtaken.replies,
    change.served.acceptedChange = true ∧ read.served.request.kind = .fetch ∧ change.answered < read.asked ∧
      read.carried < change.carried ∧ overtaken.layer.rows.map (·.entities.length) = some 1 ∧
      overtaken.server.rows?.map (·.entities.length) = some 2 := by
  refine ⟨overtakenChange, List.get_mem _ _, overtakenRead, List.get_mem _ _, overtaken_moments.1, ?_,
    overtaken_moments.2.1, overtaken_moments.2.2, ?_, ?_⟩
  all_goals decide +kernel

theorem carried_after_change_overtaken : ∃ change ∈ overtaken.replies, ∃ read ∈ overtaken.replies,
    change.served.acceptedChange = true ∧ change.answered < read.asked ∧
      (∃ served, (read.carried, served) ∈ overtaken.journal ∧ read.served.TellsOf "id" served) ∧
      (change.carried < read.carried ∨
        read.carried < change.carried ∧ overtaken.CameIn read.carried change.answered read.asked) :=
  ⟨overtakenChange, List.get_mem _ _, overtakenRead, List.get_mem _ _, overtaken_moments.1, overtaken_moments.2.1,
    carried_after_change "id" _ .keys _ (List.get_mem _ _) overtaken_moments.1 (List.get_mem _ _)
      overtaken_moments.2.1⟩

end Traffic

end RecordSync
