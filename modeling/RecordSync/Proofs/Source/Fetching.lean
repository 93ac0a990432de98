import RecordSync.Source.Fetching

/-!
# Which fetch a call belongs to

Every call belongs to one fetch from its first moment on, and is given the outcome of that one. A fetch that makes do
with another one belongs to the fetch that was started last, as long as that one has no answer. Older fetches that are
still under way then are never joined.
-/

set_option autoImplicit false

namespace RecordSync.Fetching

variable {f g : Fetching} {event : FetchEvent} {call number : Nat}

inductive Moves (f : Fetching) : FetchEvent → Fetching → Prop where
  | idle {place : Nat} {outcome : Outcome Collection} (absent : f.underWay[place]? = none) :
      Moves f (.answer place outcome) f
  | started {event : FetchEvent} (asks : event = .fetch ∨ event = .fetchInit ∧ f.underWay.any f.isLast = false) :
      Moves f event f.fetch
  | joined (last : f.underWay.any f.isLast = true) : Moves f .fetchInit f.join
  | answered {place : Nat} {outcome : Outcome Collection} {flight : Flight}
      (back : f.underWay[place]? = some flight) {completion : Completion} {source : Source}
      (received : f.source.receive outcome = (completion, source)) :
      Moves f (.answer place outcome) { f with
        source
        underWay := f.underWay.eraseIdx place
        deliveries := f.deliveries ++ flight.calls.map fun call => ⟨call, flight.number, completion⟩ }
  | changed (source : Source) : Moves f (.change source) { f with source }

theorem moves_step (f : Fetching) (event : FetchEvent) : f.Moves event (f.step event) := by
  cases event with
  | fetch => exact .started (.inl rfl)
  | fetchInit =>
    cases last : f.underWay.any f.isLast with
    | true => simpa [step, fetchInit, last] using .joined last
    | false => simpa [step, fetchInit, last] using .started (.inr ⟨rfl, last⟩)
  | answer place outcome =>
    cases here : f.underWay[place]? with
    | none => simpa only [step, answer, here] using .idle here
    | some flight => simpa only [step, answer, here] using .answered here rfl
  | change source => exact .changed source

/-- What holds at the start and is kept by every step holds after every run. -/
theorem after_induct {P : Fetching → Prop} (h : P f)
    (kept : ∀ {f g : Fetching} {event : FetchEvent}, P f → f.Moves event g → P g) (events : List FetchEvent) :
    P (f.after events) := List.foldlRecOn events step h fun f h event _ => kept h (f.moves_step event)

inductive Belongs (f : Fetching) (call number : Nat) : Prop where
  | waits (flight : Flight) (listed : flight ∈ f.underWay) (same : flight.number = number) (waits : call ∈ flight.calls)
  | given (d : Delivery) (listed : d ∈ f.deliveries) (own : d.call = call) (same : d.number = number)

theorem belongs_fetch : f.fetch.Belongs call number ↔
    f.Belongs call number ∨ call = f.calls ∧ number = f.requests.length := by
  constructor
  · rintro (⟨flight, listed, same, waits⟩ | ⟨d, listed, own, same⟩)
    · rcases List.mem_append.1 listed with old | new
      · exact .inl (.waits flight old same waits)
      · cases List.mem_singleton.1 new
        exact .inr ⟨List.mem_singleton.1 waits, same.symm⟩
    · exact .inl (.given d listed own same)
  · rintro ((⟨flight, listed, same, waits⟩ | ⟨d, listed, own, same⟩) | ⟨rfl, rfl⟩)
    · exact .waits flight (List.mem_append_left _ listed) same waits
    · exact .given d listed own same
    · exact .waits _ (List.mem_append_right _ (.head _)) rfl (.head _)

theorem belongs_join : f.join.Belongs call number ↔ f.Belongs call number ∨
    call = f.calls ∧ ∃ flight ∈ f.underWay, f.isLast flight = true ∧ flight.number = number := by
  constructor
  · rintro (⟨flight, listed, same, waits⟩ | ⟨d, listed, own, same⟩)
    · obtain ⟨old, known, rfl⟩ := List.mem_map.1 listed
      cases last : f.isLast old with
      | false =>
        simp only [last, Bool.false_eq_true, if_false] at same waits
        exact .inl (.waits old known same waits)
      | true =>
        simp only [last, if_true] at same waits
        rcases List.mem_append.1 waits with before | now
        · exact .inl (.waits old known same before)
        · exact .inr ⟨List.mem_singleton.1 now, old, known, last, same⟩
    · exact .inl (.given d listed own same)
  · rintro ((⟨flight, listed, same, waits⟩ | ⟨d, listed, own, same⟩) | ⟨rfl, flight, listed, last, same⟩)
    · refine .waits _ (List.mem_map_of_mem listed) ?_ ?_
      · split <;> exact same
      · split
        · exact List.mem_append_left _ waits
        · exact waits
    · exact .given d listed own same
    · refine .waits _ (List.mem_map_of_mem listed) ?_ ?_
      · simpa only [last, if_true] using same
      · simp [last]

theorem belongs_answered {place : Nat} {flight : Flight} (back : f.underWay[place]? = some flight)
    {completion : Completion} {source : Source} :
    Belongs { f with
      source
      underWay := f.underWay.eraseIdx place
      deliveries := f.deliveries ++ flight.calls.map fun call => ⟨call, flight.number, completion⟩ } call number ↔
      f.Belongs call number := by
  constructor
  · rintro (⟨other, listed, same, waits⟩ | ⟨d, listed, own, same⟩)
    · exact .waits other (List.mem_of_mem_eraseIdx listed) same waits
    · rcases List.mem_append.1 listed with old | new
      · exact .given d old own same
      · obtain ⟨call, waits, rfl⟩ := List.mem_map.1 new
        exact .waits flight (List.mem_of_getElem? back) same (own ▸ waits)
  · rintro (⟨other, listed, same, waits⟩ | ⟨d, listed, own, same⟩)
    · obtain ⟨i, here⟩ := List.mem_iff_getElem?.1 listed
      by_cases at_place : i = place
      · subst at_place
        cases back.symm.trans here
        exact .given _ (List.mem_append_right _ (List.mem_map_of_mem waits)) rfl same
      · exact .waits other (List.mem_eraseIdx_iff_getElem?.2 ⟨i, at_place, here⟩) same waits
    · exact .given d (List.mem_append_left _ listed) own same

theorem belongs_changed {source : Source} : Belongs { f with source } call number ↔ f.Belongs call number := by
  constructor
  all_goals
    rintro (⟨flight, listed, same, waits⟩ | ⟨d, listed, own, same⟩)
    · exact .waits flight listed same waits
    · exact .given d listed own same

theorem Belongs.moves (h : f.Belongs call number) (moves : f.Moves event g) : g.Belongs call number := by
  cases moves with
  | idle absent => exact h
  | started asks => exact belongs_fetch.2 (.inl h)
  | joined last => exact belongs_join.2 (.inl h)
  | answered back received => exact (belongs_answered back).2 h
  | changed source => exact belongs_changed.2 h

theorem Belongs.after (h : f.Belongs call number) (events : List FetchEvent) : (f.after events).Belongs call number :=
  after_induct h Belongs.moves events

def numbers (f : Fetching) : List Nat := f.underWay.map (·.number)

theorem Belongs.waits_or_given (h : f.Belongs call number) :
    number ∈ f.numbers ∨ ∃ d ∈ f.deliveries, d.call = call := by
  rcases h with ⟨flight, listed, rfl, -⟩ | ⟨d, listed, own, -⟩
  · exact .inl (List.mem_map_of_mem listed)
  · exact .inr ⟨d, listed, own⟩

theorem numbers_join (f : Fetching) : f.join.numbers = f.numbers := by
  rw [numbers, join, List.map_map]
  exact List.map_congr_left fun flight _ => by
    dsimp only [Function.comp]
    split <;> rfl

structure Accounted (f : Fetching) : Prop where
  last : ∀ n, f.last = some n ↔ n + 1 = f.requests.length
  numbered : ∀ number ∈ f.numbers, number < f.requests.length
  apart : f.numbers.Nodup
  unanswered : ∀ d ∈ f.deliveries, d.number ∉ f.numbers
  agree : ∀ d ∈ f.deliveries, ∀ e ∈ f.deliveries, d.number = e.number → d.outcome = e.outcome
  known : ∀ {call number}, f.Belongs call number → call < f.calls ∧ number < f.requests.length
  single : ∀ {call number other}, f.Belongs call number → f.Belongs call other → number = other
  wanted : ∀ number < f.requests.length, ∃ call, f.Belongs call number

theorem accounted_start (source : Source) : (start source).Accounted where
  last n := ⟨nofun, nofun⟩
  numbered := List.forall_mem_nil _
  apart := .nil
  unanswered := List.forall_mem_nil _
  agree := List.forall_mem_nil _
  known := by rintro call number (⟨flight, ⟨⟩, -⟩ | ⟨d, ⟨⟩, -⟩)
  single := by rintro call number other (⟨flight, ⟨⟩, -⟩ | ⟨d, ⟨⟩, -⟩)
  wanted := nofun

namespace Accounted

/-- The fetch that can be joined is the one that was started last. -/
theorem isLast_iff (h : f.Accounted) {flight : Flight} :
    f.isLast flight = true ↔ flight.number + 1 = f.requests.length := by
  rw [isLast, beq_iff_eq]
  exact h.last _

theorem fetch (h : f.Accounted) : f.fetch.Accounted := by
  have length : f.fetch.requests.length = f.requests.length + 1 := List.length_append
  have numbers : f.fetch.numbers = f.numbers ++ [f.requests.length] := List.map_append
  refine ⟨fun n => ?_, ?_, ?_, fun d listed => ?_, h.agree, fun belongs => ?_, fun belongs too => ?_,
    fun number lt => ?_⟩
  · simp [Fetching.fetch, eq_comm]
  · rw [numbers, length]
    refine List.forall_mem_append.2 ⟨fun number listed => ?_, List.forall_mem_singleton.2 (Nat.lt_succ_self _)⟩
    exact Nat.lt_succ_of_lt (h.numbered number listed)
  · rw [numbers, List.nodup_append]
    refine ⟨h.apart, List.pairwise_singleton _ _, fun number listed last here => ?_⟩
    exact List.mem_singleton.1 here ▸ Nat.ne_of_lt (h.numbered number listed)
  · rw [numbers, List.mem_append, List.mem_singleton, not_or]
    exact ⟨h.unanswered d listed, Nat.ne_of_lt (h.known (.given d listed rfl rfl)).2⟩
  · rcases belongs_fetch.1 belongs with old | ⟨rfl, rfl⟩
    · exact (h.known old).imp Nat.lt_succ_of_lt fun lt => length ▸ Nat.lt_succ_of_lt lt
    · exact ⟨Nat.lt_succ_self _, length ▸ Nat.lt_succ_self _⟩
  · rcases belongs_fetch.1 belongs with old | ⟨rfl, rfl⟩ <;> rcases belongs_fetch.1 too with other | ⟨same, rfl⟩
    · exact h.single old other
    · exact absurd (h.known old).1 (same ▸ Nat.lt_irrefl _)
    · exact absurd (h.known other).1 (Nat.lt_irrefl _)
    · rfl
  · rcases Nat.lt_succ_iff_lt_or_eq.1 (length ▸ lt) with old | rfl
    · obtain ⟨call, belongs⟩ := h.wanted number old
      exact ⟨call, belongs_fetch.2 (.inl belongs)⟩
    · exact ⟨f.calls, belongs_fetch.2 (.inr ⟨rfl, rfl⟩)⟩

theorem join (h : f.Accounted) : f.join.Accounted := by
  refine ⟨h.last, ?_, ?_, ?_, h.agree, fun belongs => ?_, fun belongs too => ?_, fun number lt => ?_⟩
  · exact f.numbers_join ▸ h.numbered
  · exact f.numbers_join ▸ h.apart
  · exact f.numbers_join ▸ h.unanswered
  · rcases belongs_join.1 belongs with old | ⟨rfl, flight, listed, -, rfl⟩
    · exact (h.known old).imp_left Nat.lt_succ_of_lt
    · exact ⟨Nat.lt_succ_self _, h.numbered _ (List.mem_map_of_mem listed)⟩
  · rcases belongs_join.1 belongs with old | ⟨rfl, flight, -, last, rfl⟩ <;>
      rcases belongs_join.1 too with other | ⟨same, flight', -, last', rfl⟩
    · exact h.single old other
    · exact absurd (h.known old).1 (same ▸ Nat.lt_irrefl _)
    · exact absurd (h.known other).1 (Nat.lt_irrefl _)
    · exact Nat.succ.inj ((h.isLast_iff.1 last).trans (h.isLast_iff.1 last').symm)
  · obtain ⟨call, belongs⟩ := h.wanted number lt
    exact ⟨call, belongs_join.2 (.inl belongs)⟩

theorem not_mem_eraseIdx (h : f.Accounted) {place : Nat} {flight : Flight} (back : f.underWay[place]? = some flight) :
    flight.number ∉ (f.underWay.eraseIdx place).map (·.number) := by
  intro again
  obtain ⟨other, listed, same⟩ := List.mem_map.1 again
  obtain ⟨i, elsewhere, here⟩ := List.mem_eraseIdx_iff_getElem?.1 listed
  have first : f.numbers[i]? = some flight.number := by simp [numbers, here, same]
  have second : f.numbers[place]? = some flight.number := by simp [numbers, back]
  have inside : i < f.numbers.length := (List.getElem?_eq_some_iff.1 first).1
  exact elsewhere ((List.getElem?_inj inside h.apart).1 (first.trans second.symm))

theorem answered (h : f.Accounted) {place : Nat} {flight : Flight} (back : f.underWay[place]? = some flight)
    (completion : Completion) (source : Source) :
    Accounted { f with
      source
      underWay := f.underWay.eraseIdx place
      deliveries := f.deliveries ++ flight.calls.map fun call => ⟨call, flight.number, completion⟩ } := by
  have fewer : ((f.underWay.eraseIdx place).map (·.number)).Sublist f.numbers := (List.eraseIdx_sublist ..).map _
  have flown : flight.number ∈ f.numbers := List.mem_map_of_mem (List.mem_of_getElem? back)
  refine ⟨h.last, fun number listed => h.numbered number (fewer.subset listed), h.apart.sublist fewer, ?_, ?_,
    fun belongs => h.known ((belongs_answered back).1 belongs),
    fun belongs too => h.single ((belongs_answered back).1 belongs) ((belongs_answered back).1 too),
    fun number lt => (h.wanted number lt).imp fun call belongs => (belongs_answered back).2 belongs⟩
  · refine List.forall_mem_append.2 ⟨fun d listed again => h.unanswered d listed (fewer.subset again), ?_⟩
    exact List.forall_mem_map.2 fun call _ => h.not_mem_eraseIdx back
  · have old : ∀ d ∈ f.deliveries, d.number ≠ flight.number :=
      fun d listed same => h.unanswered d listed (same ▸ flown)
    refine List.forall_mem_append.2 ⟨fun d listed => List.forall_mem_append.2 ⟨h.agree d listed, ?_⟩,
      List.forall_mem_map.2 fun call _ => List.forall_mem_append.2 ⟨?_, ?_⟩⟩
    · exact List.forall_mem_map.2 fun call _ same => absurd same (old d listed)
    · exact fun e listed same => absurd same.symm (old e listed)
    · exact List.forall_mem_map.2 fun call _ _ => rfl

theorem step (h : f.Accounted) (moves : f.Moves event g) : g.Accounted := by
  cases moves with
  | idle absent => exact h
  | started asks => exact h.fetch
  | joined last => exact h.join
  | answered back received => exact h.answered back _ _
  | changed source =>
    exact ⟨h.last, h.numbered, h.apart, h.unanswered, h.agree, fun belongs => h.known (belongs_changed.1 belongs),
      fun belongs too => h.single (belongs_changed.1 belongs) (belongs_changed.1 too),
      fun number lt => (h.wanted number lt).imp fun call belongs => belongs_changed.2 belongs⟩

theorem after (h : f.Accounted) (events : List FetchEvent) : (f.after events).Accounted := after_induct h step events

/-- A call is given the outcome of the fetch it belongs to, and nothing else. -/
theorem given_iff (h : f.Accounted) (belongs : f.Belongs call number) (outcome : Completion) :
    (∃ d ∈ f.deliveries, d.call = call ∧ d.outcome = outcome) ↔
      ∃ d ∈ f.deliveries, d.number = number ∧ d.outcome = outcome := by
  constructor
  · rintro ⟨d, listed, own, same⟩
    exact ⟨d, listed, h.single (.given d listed own rfl) belongs, same⟩
  · rintro ⟨d, listed, own, same⟩
    rcases belongs with ⟨flight, open', number, waits⟩ | ⟨e, given, call, number⟩
    · exact absurd (List.mem_map_of_mem open') (number ▸ own ▸ h.unanswered d listed)
    · exact ⟨e, given, call, (h.agree e given d listed (number.trans own.symm)).trans same⟩

/-- If the fetch that was started last cannot be joined while others are under way, it has been answered before
them. -/
theorem overtaken (h : f.Accounted) (last : f.underWay.any f.isLast = false) :
    f.underWay = [] ∨ ∃ d ∈ f.deliveries, ∀ number ∈ f.numbers, number < d.number := by
  cases flying : f.underWay with
  | nil => exact .inl rfl
  | cons flight others =>
    have lt : flight.number < f.requests.length := h.numbered _ (List.mem_map_of_mem (flying ▸ .head _))
    obtain ⟨call, ⟨newest, listed, same, -⟩ | ⟨d, listed, -, same⟩⟩ :=
      h.wanted (f.requests.length - 1) (by omega)
    · have joinable : f.isLast newest = true := h.isLast_iff.2 (by omega)
      exact absurd joinable (by simpa using List.any_eq_false.1 last newest listed)
    · refine .inr ⟨d, listed, fun number waiting => ?_⟩
      have known := h.numbered number waiting
      have apart : d.number ≠ number := fun same => h.unanswered d listed (same ▸ waiting)
      omega

end Accounted

/-- A fetch that makes do with another one is given the outcome of one fetch, as soon as that one is answered. This is
the one that was started last, if it has no answer yet, and the provider is not asked again. Otherwise it is a new one:
no fetch is under way, or one that was started after all that are under way has been answered. -/
theorem fetchInit_belongs (source : Source) (events later : List FetchEvent) :
    let f := (start source).after events
    let g := f.step .fetchInit
    ∃ number,
      (number ∈ (g.after later).numbers ∨ ∃ d ∈ (g.after later).deliveries, d.call = f.calls) ∧
      (∀ outcome, (∃ d ∈ (g.after later).deliveries, d.call = f.calls ∧ d.outcome = outcome) ↔
        ∃ d ∈ (g.after later).deliveries, d.number = number ∧ d.outcome = outcome) ∧
      (number ∈ f.numbers ∧ number + 1 = f.requests.length ∧ g.requests = f.requests ∨
        number = f.requests.length ∧ g.requests = f.requests ++ [f.source.fetchParams] ∧
          (f.underWay = [] ∨ ∃ d ∈ f.deliveries, ∀ other ∈ f.numbers, other < d.number)) := by
  intro f g
  have accounted : f.Accounted := (accounted_start source).after events
  have record : (g.after later).Accounted := (accounted.step (f.moves_step .fetchInit)).after later
  cases last : f.underWay.any f.isLast with
  | true =>
    have joined : g = f.join := by simp only [g, step, fetchInit, last, if_true]
    obtain ⟨flight, listed, isLast⟩ := List.any_eq_true.1 last
    have belongs : g.Belongs f.calls flight.number := joined ▸ belongs_join.2 (.inr ⟨rfl, flight, listed, isLast, rfl⟩)
    refine ⟨flight.number, (belongs.after later).waits_or_given, record.given_iff (belongs.after later),
      .inl ⟨List.mem_map_of_mem listed, ?_, ?_⟩⟩
    · exact accounted.isLast_iff.1 isLast
    · rw [joined]
      rfl
  | false =>
    have fetched : g = f.fetch := by simp only [g, step, fetchInit, last, Bool.false_eq_true, if_false]
    have belongs : g.Belongs f.calls f.requests.length := fetched ▸ belongs_fetch.2 (.inr ⟨rfl, rfl⟩)
    refine ⟨f.requests.length, (belongs.after later).waits_or_given, record.given_iff (belongs.after later),
      .inr ⟨rfl, ?_, accounted.overtaken last⟩⟩
    rw [fetched]
    rfl

/-- Two fetches are started, and the second one is answered first. Then the first one is still under way, and a fetch
that makes do with another one asks the provider once more. -/
theorem fetchInit_asks_again :
    let f := (start (.empty .standard [] false .disabled)).after
      [.fetch, .fetch, .answer 1 (.ok { data := [], total := none, extra := [] })]
    f.numbers = [0] ∧ f.requests.length = 2 ∧ (f.step .fetchInit).requests.length = 3 := by
  decide +kernel

end RecordSync.Fetching
