import RecordSync.Proofs.Source.Fetching

/-!
# Fetches of a session

A session has at most one fetch under way at a time, since all others run to their end at once. Starting, joining and
finishing it are steps of overlapping fetches, and the outcomes go to the same calls.
-/

set_option autoImplicit false

namespace RecordSync.Session

variable {s : Session} {f : Fetching} {owner : Nat → Owner}

def deliver (owner : Nat → Owner) (s : Session) (d : Delivery) : Session := s.complete (owner d.call) d.outcome

def restore (t s : Session) : Session := { t with failed := s.failed, outcomes := s.outcomes }

theorem restore_complete (s : Session) (owner : Owner) (outcome : Completion) :
    (s.complete owner outcome).restore s = s := by
  cases owner <;> cases outcome <;> rfl

theorem restore_deliver (s : Session) (owner : Nat → Owner) (deliveries : List Delivery) :
    (deliveries.foldl (deliver owner) s).restore s = s := by
  refine List.foldlRecOn (motive := fun u => u.restore s = s) deliveries (deliver owner) rfl fun u kept d _ => ?_
  calc (u.deliver owner d).restore s
    _ = ((u.deliver owner d).restore u).restore s := rfl
    _ = u.restore s := by rw [deliver, restore_complete]
    _ = s := kept

theorem receive_eq (s : Session) (calls : List Nat) (number : Nat) (outcome : Outcome Collection) :
    s.receive (calls.map owner) outcome =
      (calls.map fun call => ⟨call, number, (s.source.receive outcome).1⟩).foldl (deliver owner)
        { s with source := (s.source.receive outcome).2 } := by
  have handed (u : Session) (completion : Completion) :
      (calls.map owner).foldl (fun s owner => s.complete owner completion) u =
        (calls.map fun call => ⟨call, number, completion⟩).foldl (deliver owner) u := by
    rw [List.foldl_map, List.foldl_map]
    rfl
  cases outcome with
  | error e => exact handed s (.error (.provider e))
  | ok collection =>
    simp only [receive, Source.receive]
    cases s.source.load collection with
    | error e => exact handed s (.error e)
    | ok loaded => exact handed { s with source := loaded.2 } (.ok loaded.1)

/-- A call is stopped if it is the one to stop in, and has an outcome otherwise. -/
theorem call_cases (s : Session) (request : Request) :
    (∃ provider ids, s.stopAt = 1 ∧ s.call request = (none, { s with provider, ids, stopAt := 0 })) ∨
      ∃ outcome provider ids stopAt, stopAt ≤ s.stopAt ∧
        s.call request = (some outcome, { s with provider, ids, stopAt }) := by
  rw [call]
  split
  next outcome provider ids _ => exact .inr ⟨outcome, provider, ids, s.stopAt, Nat.le_refl _, rfl⟩
  next provider ids _ =>
    split
    next stops =>
      rw [Bool.and_eq_true, beq_iff_eq] at stops
      exact .inl ⟨provider, ids, stops.2, rfl⟩
    next => exact .inr ⟨_, _, _, _, Nat.sub_le _ _, rfl⟩

def Flies (suspended : Option Suspended) (f : Fetching) (owner : Nat → Owner) : Prop :=
  match suspended with
  | some (.fetch first params isLatest joiners) =>
    ∃ flight, f.underWay = [flight] ∧ flight.calls.map owner = first :: joiners ∧ f.isLast flight = isLatest ∧
      f.requests[flight.number]? = some params
  | _ => f.underWay = []

structure Runs (s : Session) (f : Fetching) (owner : Nat → Owner) : Prop where
  source : f.source = s.source
  flies : Flies s.suspended f owner
  quiet : s.suspended.isSome = true → s.stopAt = 0

theorem runs_start (source : Source) (provider : Provider) (ids : IdSupply) (owner : Nat → Owner) :
    (start source provider ids).Runs (.start source) owner := ⟨rfl, rfl, nofun⟩

structure Follows (s t : Session) (f g : Fetching) (owner : Nat → Owner) : Prop where
  runs : t.Runs g owner
  delivered : ∃ deliveries, g.deliveries = f.deliveries ++ deliveries ∧
    t = deliveries.foldl (deliver owner) (t.restore s)

def Begins (s t : Session) (f g : Fetching) (owner : Nat → Owner) : Prop :=
  Follows s t f g owner ∨ ∃ place outcome, Follows s t f (g.answer place outcome) owner

theorem follows_receive {u : Session} {g : Fetching} {flight : Flight} {place : Nat} {outcome : Outcome Collection}
    (back : g.underWay[place]? = some flight) (source : g.source = u.source)
    (flies : Flies u.suspended { g with underWay := g.underWay.eraseIdx place } owner)
    (quiet : u.suspended.isSome = true → u.stopAt = 0) (outcomes : u.restore s = u)
    (deliveries : g.deliveries = f.deliveries) :
    Follows s (u.receive (flight.calls.map owner) outcome) f (g.answer place outcome) owner := by
  let given : List Delivery := flight.calls.map fun call => ⟨call, flight.number, (u.source.receive outcome).1⟩
  let v : Session := { u with source := (u.source.receive outcome).2 }
  have received : u.receive (flight.calls.map owner) outcome = given.foldl (deliver owner) v :=
    u.receive_eq flight.calls flight.number outcome
  have rest : (given.foldl (deliver owner) v).restore v = v := v.restore_deliver owner given
  have answered : g.answer place outcome = { g with
      source := v.source, underWay := g.underWay.eraseIdx place, deliveries := g.deliveries ++ given } := by
    simp only [Fetching.answer, back, source]
    rfl
  have field {α : Type} (read : Session → α) : read ((given.foldl (deliver owner) v).restore v) = read v :=
    congrArg read rest
  have suspended : (given.foldl (deliver owner) v).suspended = u.suspended := field (·.suspended)
  have stopAt : (given.foldl (deliver owner) v).stopAt = u.stopAt := field (·.stopAt)
  rw [received, answered]
  refine ⟨⟨(field (·.source)).symm, ?_, ?_⟩, given, congrArg (· ++ given) deliveries, ?_⟩
  · rw [suspended]
    exact flies
  · rw [suspended, stopAt]
    exact quiet
  · have same : (given.foldl (deliver owner) v).restore s = v :=
      calc (given.foldl (deliver owner) v).restore s
        _ = ((given.foldl (deliver owner) v).restore v).restore s := rfl
        _ = v.restore s := by rw [rest]
        _ = { u.restore s with source := v.source } := rfl
        _ = v := by rw [outcomes]
    rw [same]

theorem Flies.fetch {suspended : Option Suspended} (h : Flies suspended f owner) :
    Flies (suspended.map supersede)
      { f.fetch with underWay := f.fetch.underWay.eraseIdx f.underWay.length } owner := by
  have erased : f.fetch.underWay.eraseIdx f.underWay.length = f.underWay := by
    simp [Fetching.fetch, List.eraseIdx_append_of_length_le]
  rw [erased]
  cases suspended with
  | none => exact h
  | some suspended =>
    cases suspended with
    | sync owner call rest => exact h
    | fetch first params isLatest joiners =>
      obtain ⟨flight, alone, calls, -, asked⟩ := h
      have known : flight.number < f.requests.length := (List.getElem?_eq_some_iff.1 asked).1
      refine ⟨flight, alone, calls, ?_, ?_⟩
      · simp [Fetching.isLast, Fetching.fetch, (Nat.ne_of_lt known).symm]
      · rw [← asked]
        exact List.getElem?_append_left known

theorem Runs.startFetch_begins (h : s.Runs f owner) : Begins s (s.startFetch (owner f.calls)) f f.fetch owner := by
  let v : Session := { s with suspended := s.suspended.map supersede }
  have params : f.source.fetchParams = s.source.fetchParams := by rw [h.source]
  rcases v.call_cases (.fetch (some s.source.fetchParams)) with
    ⟨provider, ids, stops, called⟩ | ⟨outcome, provider, ids, stopAt, le, called⟩
  · have idle : s.suspended = none := by
      cases busy : s.suspended with
      | none => rfl
      | some suspended =>
        have still : s.stopAt = 0 := h.quiet (by rw [busy]; rfl)
        exact absurd (still.symm.trans stops) (by decide)
    have alone : f.underWay = [] := by simpa only [idle, Flies] using h.flies
    have started : s.startFetch (owner f.calls) = { s with
        provider, ids, stopAt := 0, suspended := some (.fetch (owner f.calls) s.source.fetchParams true []) } := by
      simp only [startFetch, v] at called ⊢
      rw [called]
    rw [started]
    refine .inl ⟨⟨h.source, ⟨⟨f.requests.length, [f.calls]⟩, ?_, rfl, ?_, ?_⟩, fun _ => rfl⟩, [], ?_, rfl⟩
    · simp [Fetching.fetch, alone]
    · simp [Fetching.fetch, Fetching.isLast]
    · simp [Fetching.fetch, params]
    · simp [Fetching.fetch]
  · let u : Session := { v with provider, ids, stopAt }
    have started : s.startFetch (owner f.calls) = u.receive ([f.calls].map owner) outcome := by
      simp only [startFetch, v, u] at called ⊢
      rw [called]
      rfl
    have back : f.fetch.underWay[f.underWay.length]? = some ⟨f.requests.length, [f.calls]⟩ := by
      simp [Fetching.fetch]
    have quiet (busy : u.suspended.isSome = true) : u.stopAt = 0 := by
      have still : s.stopAt = 0 := h.quiet (by simpa [u, v] using busy)
      exact Nat.le_zero.1 (still ▸ le)
    rw [started]
    exact .inr ⟨_, outcome, follows_receive back h.source h.flies.fetch quiet rfl rfl⟩

/-- A fetch that makes do with another one joins the one that is suspended, unless a later one was started. -/
theorem Runs.startFetchInit_begins (h : s.Runs f owner) :
    Begins s (s.startFetchInit (owner f.calls)) f f.fetchInit owner := by
  have fetches (last : f.underWay.any f.isLast = false) : f.fetchInit = f.fetch := by
    simp only [Fetching.fetchInit, last, Bool.false_eq_true, if_false]
  cases busy : s.suspended with
  | none =>
    have alone : f.underWay = [] := by simpa only [busy, Flies] using h.flies
    rw [fetches (by simp [alone]), startFetchInit, busy]
    exact h.startFetch_begins
  | some suspended =>
    cases suspended with
    | sync first call rest =>
      have alone : f.underWay = [] := by simpa only [busy, Flies] using h.flies
      rw [fetches (by simp [alone]), startFetchInit, busy]
      exact h.startFetch_begins
    | fetch first params isLatest joiners =>
      have flies := h.flies
      rw [busy] at flies
      obtain ⟨flight, alone, calls, last, asked⟩ := flies
      cases isLatest with
      | false =>
        rw [fetches (by simp [alone, last]), startFetchInit, busy]
        exact h.startFetch_begins
      | true =>
        have joins : f.fetchInit = f.join := by simp [Fetching.fetchInit, alone, last]
        have joined : s.startFetchInit (owner f.calls) =
            { s with suspended := some (.fetch first params true (joiners ++ [owner f.calls])) } := by
          rw [startFetchInit, busy]
        rw [joins, joined]
        refine .inl ⟨⟨h.source, ⟨{ flight with calls := flight.calls ++ [f.calls] }, ?_, ?_, last, asked⟩, fun _ => ?_⟩,
          [], ?_, rfl⟩
        · simp [Fetching.join, alone, last]
        · simp [calls]
        · exact h.quiet (by rw [busy]; rfl)
        · simp [Fetching.join]

/-- The answer to the fetch that is suspended is an event, after which the syncs start that wait. -/
theorem Runs.release_follows (h : s.Runs f owner) (fetching : s.isFetching = true) :
    ∃ outcome t, s.release = t.startWaiting ∧ Follows s t f (f.answer 0 outcome) owner := by
  cases busy : s.suspended with
  | none => simp [isFetching, busy] at fetching
  | some suspended =>
    cases suspended with
    | sync first call rest => simp [isFetching, busy] at fetching
    | fetch first params isLatest joiners =>
      have flies := h.flies
      rw [busy] at flies
      obtain ⟨flight, alone, calls, -, -⟩ := flies
      let called := ({ s with suspended := none } : Session).finishCall (.fetch (some params))
      refine ⟨called.1, called.2.receive (first :: joiners) called.1, ?_, ?_⟩
      · rw [release, busy]
      · rw [← calls]
        refine follows_receive (f := f) (g := f) (by rw [alone]; rfl) h.source ?_ ?_ rfl rfl
        · simp [called, finishCall, Flies, alone]
        · simp [called, finishCall]

end RecordSync.Session
