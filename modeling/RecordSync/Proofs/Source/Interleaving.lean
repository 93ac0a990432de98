import RecordSync.Proofs.Source.Noting

/-!
# Edits during a sync

A sync waits for the answer to each call, and members may be edited in the meantime. An answer exchanges the committed
copy of the model that the call was about, and of no other. So an edit of any other model is told by a later call of
the sync, or is pending in the end. What is edited in the model of the very call is committed with the answer, without
having been told.
-/

set_option autoImplicit false

namespace RecordSync

def SyncCall.told : SyncCall → Entity
  | .create _ entity => entity
  | .update _ _ changes => changes
  | .remove _ _ => []

/-- A call of a sync, with the source as it was when the call was made and when the answer came. There is no answer to a
call that is refused. -/
structure Turn where
  call : SyncCall
  sent : Source
  answered : Source
  answer : Option call.request.Answer

def Turn.accepted (turn : Turn) : Bool := turn.answer.isSome

namespace Source

variable {s t u : Source} {id : ModelId}

inductive Edits : Source → Source → Prop where
  | none (s : Source) : Edits s s
  | next {s t u : Source} {id : ModelId} {change : ModelCommand} {reply : SourceReply} (member : id ∈ s.data)
      (overt : s.IsOvert id change) (done : s.perform (.edit id change) = .ok (reply, t)) (later : Edits t u) :
      Edits s u

/-- A sync from a list of tasks on, with edits while it waits: its turns, the failure that ends it if there is one, and
the source in the end. -/
inductive Interleaved : Source → List SyncTask → List Turn → Option SourceError → Source → Prop where
  | finished {s t : Source} {tasks : List SyncTask} (next : s.syncNext tasks = .finished t) :
      Interleaved s tasks [] none t
  | failed {s t : Source} {tasks : List SyncTask} {e : SourceError} (next : s.syncNext tasks = .failed e t) :
      Interleaved s tasks [] (some e) t
  | refused {s t u : Source} {tasks rest : List SyncTask} {call : SyncCall}
      (next : s.syncNext tasks = .call call rest t) (edits : t.Edits u) (e : ProviderError) :
      Interleaved s tasks [⟨call, t, u, none⟩] (some (.provider e)) u
  | accepted {s t u v : Source} {tasks rest : List SyncTask} {call : SyncCall} {turns : List Turn}
      {failure : Option SourceError} (next : s.syncNext tasks = .call call rest t) (edits : t.Edits u)
      (answer : call.request.Answer) (later : Interleaved (u.accept call answer) rest turns failure v) :
      Interleaved s tasks (⟨call, t, u, some answer⟩ :: turns) failure v

theorem SyncRun.interleaved {tasks : List SyncTask} {issued : List Issued} {failure : Option SourceError}
    (run : s.SyncRun tasks issued failure t) :
    ∃ turns, s.Interleaved tasks turns failure t ∧
      turns.map (fun turn => (turn.call, turn.accepted)) = issued.map fun call => (call.call, call.accepted) := by
  induction run with
  | finished next => exact ⟨_, .finished next, rfl⟩
  | failed next => exact ⟨_, .failed next, rfl⟩
  | refused next e => exact ⟨_, .refused next (.none _) e, rfl⟩
  | accepted next answer _ ih =>
    obtain ⟨turns, later, calls⟩ := ih
    exact ⟨_, .accepted next (.none _) answer later, by rw [List.map_cons, calls, List.map_cons]; rfl⟩

end Source

/-- A session that has stopped in a call of a sync, and goes on after some edits, carries out such a sync. -/
theorem Session.interleaved_of_release {s : Session} (free : s.stopAt = 0) {before sent : Source}
    {tasks rest : List SyncTask} {call : SyncCall} {owner : Owner}
    (suspended : s.suspended = some (.sync owner call rest))
    (next : before.syncNext tasks = .call call rest sent) (edits : sent.Edits s.source) :
    ∃ (answer : Option call.request.Answer) (later : List Turn) (failure : Option SourceError) (t : Session),
      before.Interleaved tasks (⟨call, sent, s.source, answer⟩ :: later) failure t.source ∧
        s.release = (t.complete owner (failure.elim (.ok []) .error)).startWaiting := by
  obtain ⟨outcome, provider, ids, finished⟩ : ∃ outcome provider ids,
      { s with suspended := none }.finishCall call.request = (outcome, { s with suspended := none, provider, ids }) :=
    ⟨_, _, _, rfl⟩
  rw [Session.release, suspended]
  dsimp only
  rw [finished]
  cases outcome with
  | error e =>
    exact ⟨none, [], some (.provider e), { s with suspended := none, provider, ids }, .refused next edits e, rfl⟩
  | ok answer =>
    obtain ⟨issued, failure, t, provider', ids', run, -, result⟩ := Session.exists_run_of_runSync
      { s with suspended := none, provider, ids, source := s.source.accept call answer } free owner rest
    obtain ⟨later, goesOn, -⟩ := run.interleaved
    refine ⟨some answer, later, failure,
      { s with suspended := none, source := t, provider := provider', ids := ids' },
      .accepted next edits answer goesOn, ?_⟩
    rw [← result]

namespace Source

variable {s t u : Source} {id : ModelId}

/-- No model was ever brought in that was a member already. -/
def Regular (s : Source) : Prop := ∃ log, History Separate log s

namespace Regular

theorem coherent (h : s.Regular) : s.Coherent := h.elim fun _ history => history.coherent fun _ _ _ ok => ok

theorem sound (h : s.Regular) : s.Sound := h.elim fun _ history => history.sound

theorem advance (h : s.Regular) (tasks : List SyncTask) : (s.syncNext tasks).source.Regular := by
  obtain ⟨log, history⟩ := h
  exact ⟨_, history.next (by exact trivial) (.advance tasks)⟩

theorem call {tasks rest : List SyncTask} {call : SyncCall} (h : s.Regular)
    (next : s.syncNext tasks = .call call rest t) : t.Regular := by
  have sent := h.advance tasks
  rwa [next] at sent

theorem accept (h : s.Regular) (call : SyncCall) (answer : call.request.Answer) : (s.accept call answer).Regular := by
  obtain ⟨log, history⟩ := h
  exact ⟨_, history.next (by exact trivial) (.accept call answer)⟩

theorem edit (h : s.Regular) {change : ModelCommand} {reply : SourceReply}
    (done : s.perform (.edit id change) = .ok (reply, t)) : t.Regular := by
  obtain ⟨log, history⟩ := h
  have fresh : Separate log s (.performed (.edit id change) t.data) := by constructor <;> simp [SourceCommand.items]
  exact ⟨_, history.perform done rfl fresh⟩

theorem edits (h : s.Regular) (edits : s.Edits t) : t.Regular := by
  induction edits with
  | none => exact h
  | next _ _ done _ ih => exact ih (h.edit done)

theorem interleaved (h : s.Regular) {tasks : List SyncTask} {turns : List Turn} {failure : Option SourceError}
    (run : s.Interleaved tasks turns failure t) : t.Regular := by
  induction run with
  | @finished s t tasks next | @failed s t tasks _ next =>
    have after := h.advance tasks
    rwa [next] at after
  | @refused s t u tasks rest call next edits e =>
    exact (h.call next).edits edits
  | @accepted s t u v tasks rest call turns failure next edits answer _ ih =>
    exact ih (((h.call next).edits edits).accept call answer)

end Regular

/-- The copy of a model that the provider is taken to have. -/
def committed? (s : Source) (id : ModelId) : Option Entity := (s.model? id).map Model.committed

/-- A member stays as the provider knows it, and its edits stay noted. -/
structure Retains (id : ModelId) (s t : Source) : Prop where
  data : t.data = s.data
  committed : t.committed? id = s.committed? id
  added : id ∈ t.changes.added ↔ id ∈ s.changes.added
  noted : s.Noted (· = id) → t.Noted (· = id)

namespace Retains

theorem refl (id : ModelId) (s : Source) : Retains id s s := ⟨rfl, rfl, .rfl, fun h => h⟩

theorem trans (h : Retains id s t) (k : Retains id t u) : Retains id s u where
  data := k.data.trans h.data
  committed := k.committed.trans h.committed
  added := k.added.trans h.added
  noted := fun noted => k.noted (h.noted noted)

theorem advance (s : Source) (tasks : List SyncTask) : Retains id s (s.syncNext tasks).source := by
  obtain ⟨updated, origin, shape, -⟩ := syncNext_source s tasks
  have noted (h : s.Noted (· = id)) := h.advance tasks
  rw [shape] at noted ⊢
  exact ⟨rfl, rfl, .rfl, noted⟩

theorem call {tasks rest : List SyncTask} {call : SyncCall} (next : s.syncNext tasks = .call call rest t) :
    Retains id s t := by
  have kept : Retains id s _ := .advance s tasks
  rwa [next] at kept

theorem accept {call : SyncCall} (ne : id ≠ call.task.id) (answer : call.request.Answer) :
    Retains id s (s.accept call answer) := by
  refine ⟨data_accept s call answer, ?_, ?_, fun noted => noted.accept call answer⟩
  · rw [committed?, committed?, accept_model?_of_ne ne]
  · cases call with
    | create other entity => exact List.mem_erase_of_ne ne
    | update other key changes => rfl
    | remove other key => rfl

/-- An edit of a member, and what is noted of it if it makes a difference. -/
theorem edit (coherent : s.Coherent) (sound : s.Sound) {other : ModelId} {change : ModelCommand} {reply : SourceReply}
    (overt : s.IsOvert other change) (done : s.perform (.edit other change) = .ok (reply, t)) (member : id ∈ s.data) :
    Retains id s t ∧ (t.model? id ≠ s.model? id → t.Noted (· = id)) := by
  have run := fun tracked found => (overt tracked found).run
  rw [Source.perform] at done
  split at done
  · cases done
    exact ⟨.refl id s, fun changed => absurd rfl changed⟩
  · next w v written =>
    cases done
    obtain ⟨tracked, same, outcome⟩ := write_outcome run written
    have data : t.data = s.data := by rw [outcome.rest]
    have added : t.changes.added = s.changes.added := by rw [outcome.rest]
    by_cases here : id = other
    · subst here
      have noted (before : t.model? id = s.model? id → s.Noted (· = id)) : t.Noted (· = id) := by
        rintro _ rfl notAdded edited
        rw [added] at notAdded
        exact mem_updated_of_edited coherent member notAdded (fun kept => before kept _ rfl notAdded) run
          (sound.accounted _) written edited
      refine ⟨⟨data, ?_, added ▸ .rfl, fun before => noted fun _ => before⟩,
        fun changed => noted fun kept => absurd kept changed⟩
      rw [committed?, committed?, outcome.placed, outcome.model?, same]
      exact congrArg some (overt tracked outcome.found).committed
    · have kept := outcome.others id here
      refine ⟨⟨data, ?_, added ▸ .rfl, ?_⟩, fun changed => absurd kept changed⟩
      · rw [committed?, committed?, kept]
      · rintro noted _ rfl notAdded edited
        rw [outcome.updated _ here]
        exact noted _ rfl (added ▸ notAdded) ((edited_congr kept).1 edited)

theorem edits (h : s.Regular) (edits : s.Edits t) (member : id ∈ s.data) :
    Retains id s t ∧ (t.model? id ≠ s.model? id → t.Noted (· = id)) := by
  induction edits with
  | none s => exact ⟨.refl id s, fun changed => absurd rfl changed⟩
  | @next s t u other change reply _ overt done _ ih =>
    obtain ⟨first, noted⟩ := edit h.coherent h.sound overt done member
    obtain ⟨later, last⟩ := ih (h.edit done) (first.data ▸ member)
    refine ⟨first.trans later, fun changed => ?_⟩
    by_cases kept : u.model? id = t.model? id
    · exact later.noted (noted (kept ▸ changed))
    · exact last kept

end Retains

/-- A call tells of all fields of its model in which the working copy is ahead of the committed one. -/
theorem Calls.told {call : SyncCall} (calls : s.Calls call) (coherent : s.Coherent) (sound : s.Sound)
    (member : call.task.id ∈ s.data) {m : Model} (found : s.model? call.task.id = some m) {name : String}
    (differs : m.Differs name) : KeyMap.get? call.told name = m.field? name := by
  have accounted := sound.accounted _ m found
  cases calls with
  | @create id added =>
    obtain ⟨fields, root, -⟩ := accounted.isObject
    replace found : s.model? id = some m := found
    have whole : s.entity id = fields := by
      rw [← Model.toEntity_of_root root, Source.entity, found]
      rfl
    show KeyMap.get? (s.entity id) name = m.field? name
    rw [whole, Model.field?_of_root root]
  | @update id other key _ here _ _ =>
    have same : other = m := Option.some.inj (here.symm.trans found)
    subst same
    show KeyMap.get? other.dirtyFields name = other.field? name
    rw [Model.get?_dirtyFields accounted, if_pos ((accounted.mem_dirty name).2 differs)]
  | remove removed _ _ => exact absurd member (coherent.removed_outside _ removed)

end Source

structure Turn.Tells (turn : Turn) (id : ModelId) (before : Source) : Prop where
  accepted : turn.accepted = true
  about : turn.call.task.id = id
  committed : turn.sent.committed? id = before.committed? id
  told : ∀ m name, turn.sent.model? id = some m → m.Differs name → KeyMap.get? turn.call.told name = m.field? name

def Untold (id : ModelId) (turns : List Turn) : Prop :=
  ∀ turn ∈ turns, turn.accepted = true → turn.call.task.id ≠ id

namespace Source

variable {s t : Source} {id : ModelId} {tasks : List SyncTask} {failure : Option SourceError}

/-- The first accepted call about a member tells of it; without one the member stays as it is known. -/
theorem Interleaved.told_or_retains {turns : List Turn} (run : s.Interleaved tasks turns failure t) (h : s.Regular)
    (member : id ∈ s.data) : (∃ turn ∈ turns, turn.Tells id s) ∨ Untold id turns ∧ Retains id s t := by
  induction run with
  | @finished s t tasks next | @failed s t tasks _ next =>
    have kept : Retains id s _ := .advance s tasks
    rw [next] at kept
    exact .inr ⟨List.forall_mem_nil _, kept⟩
  | @refused s t u tasks rest call next edits e =>
    have sent := h.call next
    have first : Retains id s t := .call next
    exact .inr ⟨by simp [Untold, Turn.accepted], first.trans (Retains.edits sent edits (first.data ▸ member)).1⟩
  | @accepted s t u v tasks rest call turns failure next edits answer later ih =>
    have sent := h.call next
    have first : Retains id s t := .call next
    replace member : id ∈ t.data := first.data ▸ member
    by_cases here : call.task.id = id
    · subst here
      refine .inl ⟨_, .head _, rfl, rfl, first.committed, fun m name found differs => ?_⟩
      exact (calls_of_syncNext next).told sent.coherent sent.sound member found differs
    · have during := (Retains.edits sent edits member).1.trans (.accept (Ne.symm here) answer)
      have after := first.trans during
      have regular := (sent.edits edits).accept call answer
      rcases ih regular (during.data ▸ member) with ⟨turn, listed, tells⟩ | ⟨untold, kept⟩
      · have committed := tells.committed.trans after.committed
        exact .inl ⟨turn, .tail _ listed, tells.accepted, tells.about, committed, tells.told⟩
      · exact .inr ⟨List.forall_mem_cons.2 ⟨fun _ => here, untold⟩, after.trans kept⟩

theorem Interleaved.after {earlier later : List Turn} {turn : Turn}
    (run : s.Interleaved tasks (earlier ++ turn :: later) failure t) (h : s.Regular) (member : id ∈ s.data) :
    turn.sent.Regular ∧ id ∈ turn.sent.data ∧ turn.sent.Edits turn.answered ∧
      ((∃ answer rest, turn.answer = some answer ∧
          (turn.answered.accept turn.call answer).Interleaved rest later failure t) ∨
        turn.answer = none ∧ later = [] ∧ t = turn.answered) := by
  generalize whole : earlier ++ turn :: later = turns at run
  induction run generalizing earlier with
  | finished | failed => simp at whole
  | @refused s t u tasks rest call next edits e =>
    have sent := h.call next
    have first : Retains id s t := .call next
    obtain ⟨rfl, same⟩ := List.append_eq_singleton_iff.1 whole |>.resolve_right (by simp)
    cases same
    exact ⟨sent, first.data ▸ member, edits, .inr ⟨rfl, rfl, rfl⟩⟩
  | @accepted s t u v tasks rest call turns failure next edits answer run ih =>
    have sent := h.call next
    have first : Retains id s t := .call next
    replace member : id ∈ t.data := first.data ▸ member
    cases earlier with
    | nil =>
      cases whole
      exact ⟨sent, member, edits, .inl ⟨answer, rest, rfl, run⟩⟩
    | cons head earlier =>
      have during := (Retains.edits sent edits member).1
      have data := data_accept u call answer
      exact ih ((sent.edits edits).accept call answer) (data ▸ during.data ▸ member) (List.cons.inj whole).2

/-- A member differs from what the provider had before only in edits that are pending. -/
structure Pends (id : ModelId) (before t : Source) : Prop where
  committed : t.committed? id = before.committed? id
  dirty : ∀ m name, t.model? id = some m → m.Differs name → name ∈ m.dirty
  pending : ∀ m, t.model? id = some m → m.isDirty = true → id ∈ before.changes.added ∨ m.isNew = false →
    id ∈ t.changes.added ∨ id ∈ t.changes.updated

theorem Retains.pends (h : Retains id s t) (sound : t.Sound) (noted : t.Noted (· = id)) : Pends id s t where
  committed := h.committed
  dirty := fun m name found => ((sound.accounted id m found).mem_dirty name).2
  pending := by
    intro m found dirty known
    refine or_iff_not_imp_left.2 fun notAdded => ?_
    have keyed := known.resolve_left fun added => notAdded (h.added.2 added)
    exact noted id rfl notAdded ⟨(holds_of_model? found _).trans keyed, (holds_of_model? found _).trans dirty⟩

/-- What is edited in a member during a call is not lost, unless the call is about that very member and is accepted: a
later call tells of it, or it is pending in the end. -/
theorem edit_told_or_pending {earlier later : List Turn} {turn : Turn} (h : s.Regular)
    (run : s.Interleaved tasks (earlier ++ turn :: later) failure t) (member : id ∈ s.data)
    (other : turn.accepted = true → turn.call.task.id ≠ id)
    (edited : turn.answered.model? id ≠ turn.sent.model? id) :
    (∃ next ∈ later, next.Tells id turn.sent) ∨ Untold id later ∧ Pends id turn.sent t := by
  obtain ⟨sent, member, edits, outcome⟩ := run.after h member
  obtain ⟨during, noted⟩ := Retains.edits sent edits member
  have sound := (h.interleaved run).sound
  rcases outcome with ⟨answer, rest, accepted, after⟩ | ⟨-, rfl, rfl⟩
  · have ne : turn.call.task.id ≠ id := other (by rw [Turn.accepted, accepted]; rfl)
    have answered : Retains id turn.answered _ := .accept (Ne.symm ne) answer
    have here := (sent.edits edits).accept turn.call answer
    rcases after.told_or_retains here (answered.data ▸ during.data ▸ member) with
      ⟨next, listed, tells⟩ | ⟨untold, kept⟩
    · have committed := tells.committed.trans (answered.committed.trans during.committed)
      exact .inl ⟨next, listed, tells.accepted, tells.about, committed, tells.told⟩
    · have later := answered.trans kept
      exact .inr ⟨untold, (during.trans later).pends sound (later.noted (noted edited))⟩
  · exact .inr ⟨List.forall_mem_nil _, during.pends sound (noted edited)⟩

def waiting? : Option Source := worked? [namedRow 1, namedRow 2] [.edit 0 (.set "name" (.str "b"))]

theorem waiting?_spec : ∃ s m key, waiting? = some s ∧ s.Regular ∧ s.data = [0, 1] ∧
    s.models.all (·.fields.isEmpty) = true ∧ s.model? 0 = some m ∧
    s.syncNext s.syncTasks = .call (.update 0 key m.dirtyFields) [] s := by
  have shown : waiting?.map (fun s => (s.data, s.changes.added, s.changes.updated, s.changes.removed,
      s.models.all (·.fields.isEmpty), s.holds (fun m => m.isDirty && (m.key?.bind PrimaryKey.ofValue?).isSome) 0)) =
        some ([0, 1], [], [0], [], true, true) := by decide +kernel
  obtain ⟨s, found, facts⟩ := Option.map_eq_some_iff.1 shown
  simp only [Prod.mk.injEq] at facts
  obtain ⟨data, added, updated, removed, plain, keyed⟩ := facts
  have fresh : ∀ command ∈ [SourceCommand.edit 0 (.set "name" (.str "b"))], ∀ log u members,
      Separate log u (.performed command members) := by
    intro command listed log u members
    obtain rfl := List.mem_singleton.1 listed
    constructor <;> simp [SourceCommand.items]
  have regular : s.Regular :=
    worked?_history (by simp [namedRow_ordered]) (fun _ _ _ => trivial) fresh (by simp [SourceCommand.items]) found
  cases shown : s.model? 0 with
  | none => rw [holds, shown] at keyed; cases keyed
  | some m =>
    rw [holds_of_model? shown, Bool.and_eq_true, Option.isSome_iff_exists] at keyed
    obtain ⟨dirty, key, known⟩ := keyed
    refine ⟨s, m, key, found, regular, data, plain, shown, ?_⟩
    have tasks : s.syncTasks = [.update 0] := by simp [syncTasks, added, updated, removed]
    rw [tasks, syncNext_update _ (by simp [updated]) shown dirty, keyedCall, keyOf, known]

/-- While the provider is told of the first row, the second one is edited; that is pending in the end. -/
theorem edit_told_or_pending_second : ∃ (s t : Source) (turn : Turn), s.Regular ∧
    s.Interleaved s.syncTasks [turn] none t ∧ turn.call.task.id = 0 ∧ turn.accepted = true ∧ 1 ∈ s.data ∧
    turn.answered.model? 1 ≠ turn.sent.model? 1 ∧ t.changes.updated = [1] ∧ Pends 1 turn.sent t := by
  have shown : (waiting?.bind fun s => (s.perform (.edit 1 (.set "name" (.str "c")))).toOption.map fun edited =>
      (s.holds Model.isDirty 1, edited.2.holds Model.isDirty 1, edited.2.changes.updated)) =
        some (false, true, [0, 1]) := by decide +kernel
  obtain ⟨s, found, later⟩ := Option.bind_eq_some_iff.1 shown
  obtain ⟨⟨reply, u⟩, done, facts⟩ := Option.map_eq_some_iff.1 later
  simp only [Prod.mk.injEq] at facts
  obtain ⟨clean, dirty, updated⟩ := facts
  obtain ⟨s', m, key, found', regular, data, plain, -, next⟩ := waiting?_spec
  obtain rfl := Option.some.inj (found.symm.trans found')
  have edits : s.Edits u := .next (by simp [data]) (isOvert_of_plain plain 1 rfl) (ok_of_toOption done) (.none u)
  have run := Interleaved.accepted next edits (namedRow 1) (.finished rfl)
  have edited : u.model? 1 ≠ s.model? 1 := by
    intro same
    rw [holds_congr same, clean] at dirty
    cases dirty
  have member : 1 ∈ s.data := by simp [data]
  have whole : s.Interleaved _ ([] ++ _ :: []) none _ := run
  have kept := edit_told_or_pending regular whole member (fun _ => by simp [SyncCall.task, SyncTask.id]) edited
  refine ⟨s, _, _, regular, run, rfl, rfl, member, edited, ?_, (kept.resolve_left (by simp)).2⟩
  show u.changes.updated.erase 0 = [1]
  rw [updated]
  rfl

/-- While the provider is told of the first row, a note is added to that row. In the end it is still there, and neither
the call nor the answer had it, but nothing is pending. -/
theorem edit_lost : ∃ (s t u : Source) (key : PrimaryKey) (told answer : Entity) (m : Model), s.Regular ∧
    (∃ reply, s.perform (.edit 0 (.set "note" (.str "c"))) = .ok (reply, u)) ∧
    s.Interleaved s.syncTasks [⟨.update 0 key told, s, u, some answer⟩] none t ∧
    KeyMap.get? told "note" = none ∧ KeyMap.get? answer "note" = none ∧ t.model? 0 = some m ∧
    (m.field? "note" == some (.str "c")) = true ∧ m.isDirty = false ∧ 0 ∉ t.changes.added ∧ 0 ∉ t.changes.updated := by
  have shown : (waiting?.bind fun s => (s.perform (.edit 0 (.set "note" (.str "c")))).toOption.map fun edited =>
      (s.holds (fun m => (KeyMap.get? m.dirtyFields "note").isNone) 0, edited.2.changes.added, edited.2.changes.updated,
        (edited.2.rebind 0 (namedRow 1)).holds (fun m => m.field? "note" == some (.str "c") && !m.isDirty) 0)) =
        some (true, [], [0], true) := by decide +kernel
  obtain ⟨s, found, later⟩ := Option.bind_eq_some_iff.1 shown
  obtain ⟨⟨reply, u⟩, done, facts⟩ := Option.map_eq_some_iff.1 later
  simp only [Prod.mk.injEq] at facts
  obtain ⟨untold, added, updated, swept⟩ := facts
  obtain ⟨s', sent, key, found', regular, data, plain, shown, next⟩ := waiting?_spec
  obtain rfl := Option.some.inj (found.symm.trans found')
  have edits : s.Edits u := .next (by simp [data]) (isOvert_of_plain plain 0 rfl) (ok_of_toOption done) (.none u)
  have run := Interleaved.accepted next edits (namedRow 1) (.finished rfl)
  rw [holds_of_model? shown, Option.isNone_iff_eq_none] at untold
  cases here : (u.rebind 0 (namedRow 1)).model? 0 with
  | none => rw [holds, here] at swept; cases swept
  | some m =>
    rw [holds_of_model? here, Bool.and_eq_true, Bool.not_eq_true'] at swept
    refine ⟨s, _, u, key, _, namedRow 1, m, regular, ⟨reply, ok_of_toOption done⟩, run, untold, rfl, here, swept.1,
      swept.2, ?_, ?_⟩
    · show 0 ∉ u.changes.added
      rw [added]
      exact List.not_mem_nil
    · show 0 ∉ u.changes.updated.erase 0
      rw [updated]
      decide

end Source

end RecordSync
