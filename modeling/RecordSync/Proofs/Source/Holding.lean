import RecordSync.Proofs.Source.History

/-!
# What the provider holds

A provider holds the models that were fetched and those that it has created, until it has removed them. A source tells
it to create what has been added, and a model that enters the list is added unless its removal is pending. So no model
is created that the provider holds, as long as such models are brought in only to take back their removal.
-/

set_option autoImplicit false

namespace RecordSync.Source

variable {s t : Source} {id : ModelId}

def heldAfter (held : List ModelId) : SourceEvent → List ModelId
  | .fetched members => members ++ held
  | .performed .cancelAll members => members ++ held
  | .accepted (.create id _) _ => id :: held
  | .accepted (.remove id _) _ => held.filter (· != id)
  | _ => held

def held (log : List SourceEvent) : List ModelId := log.foldl heldAfter []

theorem held_append (log : List SourceEvent) (event : SourceEvent) :
    held (log ++ [event]) = heldAfter (held log) event := by
  rw [held, List.foldl_append]
  rfl

/-- A model that the provider holds is brought in once, and its removal is pending, or it is a member that does not stay
and is not new, so that its removal will be pending when it enters. A list may be set to any models. -/
def Returns (held : List ModelId) (s : Source) : SourceCommand → Prop
  | .setData _ => True
  | command => ∀ id ∈ held, id ∈ Item.handles command.items →
    (Item.handles command.items).count id = 1 ∧
      (id ∈ s.changes.removed ∨
        id ∈ s.data ∧ id ∉ command.staying s ∧ s.holds Model.isNew id = false)

/-- What the provider holds returns like this, and what it accepts is in the table. -/
def Returning (log : List SourceEvent) (s : Source) : SourceEvent → Prop
  | .performed command _ => Returns (held log) s command
  | .accepted call _ => call.task.id < s.models.length
  | _ => True

theorem leaveAll_settled (settled : id ∉ s.changes.added) (start : Nat) (ids : List ModelId) :
    id ∉ (s.leaveAll start ids).changes.added ∧
      (id ∈ s.changes.removed ∨ id ∈ ids ∧ s.holds Model.isNew id = false →
        id ∈ (s.leaveAll start ids).changes.removed) := by
  induction ids generalizing s start with
  | nil => exact ⟨settled, fun back => back.resolve_right fun listed => List.not_mem_nil listed.1⟩
  | cons other rest ih =>
    have after : id ∉ (s.leave other start).changes.added := by
      rw [added_leave]
      exact fun listed => settled (List.mem_of_mem_erase listed)
    obtain ⟨unlisted, pending⟩ := ih after (start + 1)
    refine ⟨unlisted, fun back => pending ?_⟩
    rw [mem_removed_leave, (leave_frame s other start).1.models.isNew]
    rcases back with removed | ⟨listed, keyed⟩
    · exact .inl (.inl removed)
    · rcases List.mem_cons.1 listed with rfl | listed
      · exact .inl (.inr ⟨rfl, settled, keyed⟩)
      · exact .inr ⟨listed, keyed⟩

/-- A model whose removal is pending comes back when it enters, and is not added. -/
theorem enterAll_settled (settled : id ∉ s.changes.added) {ids : List ModelId}
    (back : id ∈ ids → ids.count id = 1 ∧ id ∈ s.changes.removed) : id ∉ (s.enterAll ids).2.changes.added := by
  induction ids generalizing s with
  | nil => exact settled
  | cons other rest ih =>
    rw [enterAll_cons]
    by_cases same : id = other
    · subst same
      obtain ⟨once, pending⟩ := back (.head _)
      rw [List.count_cons_self, Nat.add_eq_right, List.count_eq_zero] at once
      refine ih ?_ fun again => absurd again once
      rw [mem_added_enter]
      rintro (listed | ⟨-, kept⟩)
      · exact settled listed
      · exact kept pending
    · refine ih ?_ fun listed => ?_
      · rw [mem_added_enter]
        rintro (listed | ⟨here, -⟩)
        · exact settled listed
        · exact same here
      · obtain ⟨once, pending⟩ := back (.tail _ listed)
        rw [List.count_cons_of_ne (Ne.symm same)] at once
        rw [removed_enter]
        exact ⟨once, (List.mem_erase_of_ne same).2 pending⟩

theorem exchange_settled (settled : id ∉ s.changes.added) {index count : Nat} {ids : List ModelId}
    (back : id ∈ ids → ids.count id = 1 ∧ (id ∈ s.changes.removed ∨ id ∈ s.data ∧
      id ∉ s.data.take index ++ s.data.drop (index + count) ∧ s.holds Model.isNew id = false)) :
    id ∉ (s.exchange index count ids).2.changes.added := by
  obtain ⟨placed, left, removed, start, scheduled, whole, hplaced, hleft, result⟩ := exchange_eq s index count ids
  have same : placed.changes = s.changes ∧ placed.holds Model.isNew id = s.holds Model.isNew id := by
    rw [hplaced]
    exact ⟨rfl, rfl⟩
  obtain ⟨unlisted, pending⟩ := leaveAll_settled (same.1 ▸ settled) start removed
  rw [result, hleft]
  refine enterAll_settled unlisted fun listed => ?_
  obtain ⟨once, kind⟩ := back listed
  refine ⟨once, pending (kind.imp (same.1 ▸ ·) ?_)⟩
  rintro ⟨member, cut, keyed⟩
  refine ⟨?_, same.2 ▸ keyed⟩
  rw [whole] at member
  simp only [List.mem_append, not_or] at member cut
  exact (member.resolve_right cut.2).resolve_left cut.1

theorem added_resetModel (s : Source) (id : ModelId) : (s.resetModel id).changes.added = s.changes.added := by
  unfold Source.resetModel
  split
  · rfl
  · next w t written =>
    obtain ⟨tracked, -, outcome⟩ := write_outcome (reset_run s id) written
    show t.changes.added = s.changes.added
    rw [outcome.rest]

theorem added_restore (s : Source) (id : ModelId) : (s.restore id).changes.added = s.changes.added := by
  rcases restore_cases s id with ⟨-, same⟩ | ⟨-, index, -, result⟩
  · rw [same]
  · rw [result, (attach_reobserved _ id).changes]

theorem cancel_settled (settled : id ∉ s.changes.added) (other : ModelId) : id ∉ (s.cancel other).changes.added := by
  refine cancel_preserves (P := fun t => id ∉ t.changes.added) settled
    (fun index => exchange_settled settled (by simp)) ?_ fun t ht => ?_
  · rw [added_resetModel]
    exact settled
  · rw [added_restore]
    exact ht

theorem Effect.length_le {command : SourceCommand} (effect : s.Effect command t)
    (composed : ∀ tracked ∈ s.models, tracked.fields.Composed) : s.models.length ≤ t.models.length := by
  have written : ∀ (u : Source) (id : ModelId), Preserved id fun t => u.models.length ≤ t.models.length := by
    intro u id
    refine ⟨fun t _ _ _ _ h => (length_mapModel t id _).symm ▸ h, fun t _ _ _ _ _ h => ?_⟩
    rw [track_frame]
    exact h
  cases effect with
  | nothing => exact Nat.le_refl _
  | exchange index count e =>
    exact Nat.le_trans e.length_le (Nat.le_of_eq (exchange_frame _ index count _).1.models.length.symm)
  | setData _ e => exact Nat.le_trans e.length_le (Nat.le_of_eq (replace_frame _ _).1.models.length.symm)
  | cancelAll _ e => exact Nat.le_trans e.length_le (Nat.le_of_eq (replace_frame _ _).1.models.length.symm)
  | @cancel id _ =>
    refine cancel_preserves (P := fun t => s.models.length ≤ t.models.length) (Nat.le_refl _)
      (fun index => Nat.le_of_eq (exchange_frame s index 1 []).1.models.length.symm) ?_ fun t ht =>
        (restore_frame t id).models.length.symm ▸ ht
    exact (written s id).resetModel (fun _ ht => ht) (Nat.le_refl _)
  | submit _ =>
    obtain ⟨u, origin, hu, result⟩ := submit_eq s
    rw [result]
    have same : u.models.length = s.models.length := by rw [hu, (submitAll_frame s _).2]
    exact Nat.le_of_eq same.symm
  | @edit id _ _ _ _ done => exact (written s id).perform composed done (Nat.le_refl _)

theorem Step.length_le {event : SourceEvent} (step : s.Step event t)
    (composed : s.OfKind fun _ fields => fields.Composed) : s.models.length ≤ t.models.length := by
  cases step with
  | make ids _ _ built => simp
  | perform _ _ done => exact (effect_of_perform done).length_le composed.tracked
  | load _ done =>
    obtain ⟨u, e, rfl⟩ := load_ok done
    rw [(replace_frame _ _).1.models.length]
    exact e.length_le
  | advance tasks =>
    obtain ⟨updated, origin, shape, -⟩ := syncNext_source s tasks
    exact Nat.le_of_eq (by rw [shape])
  | accept call answer =>
    have rebound (id : ModelId) (saved : Entity) : s.models.length ≤ (s.rebind id saved).models.length :=
      Nat.le_of_eq (length_mapModel s id _).symm
    cases call with
    | create id entity => exact rebound id answer
    | update id key changes => exact rebound id answer
    | remove id key => exact Nat.le_refl _
  | ask filter sort paginator scheduled => exact Nat.le_refl _

/-- All held models are in the table, and none of them is added. -/
structure Holding (held : List ModelId) (s : Source) : Prop where
  known : ∀ id ∈ held, id < s.models.length
  settled : ∀ id ∈ held, id ∉ s.changes.added

namespace Holding

variable {held : List ModelId}

theorem of_none (known : ∀ id ∈ held, id < s.models.length) (none : s.changes.added = []) : s.Holding held where
  known := known
  settled := by
    rw [none]
    exact fun _ _ => List.not_mem_nil

theorem weaken (h : s.Holding held) {fewer : List ModelId} (sub : ∀ id ∈ fewer, id ∈ held)
    (length : s.models.length ≤ t.models.length) (added : ∀ id ∈ t.changes.added, id ∈ s.changes.added) :
    t.Holding fewer where
  known := fun id hid => Nat.lt_of_lt_of_le (h.known id (sub id hid)) length
  settled := fun id hid listed => h.settled id (sub id hid) (added id listed)

theorem append (h : s.Holding held) {members : List ModelId} (known : ∀ id ∈ members, id < t.models.length)
    (length : s.models.length ≤ t.models.length) (none : t.changes.added = []) : t.Holding (members ++ held) := by
  refine of_none (fun id hid => ?_) none
  rcases List.mem_append.1 hid with hid | hid
  · exact known id hid
  · exact Nat.lt_of_lt_of_le (h.known id hid) length

theorem exchange (h : s.Holding held) {command : SourceCommand} (unset : ∀ items, command ≠ .setData items)
    (returns : Returns held s command) {ids : List ModelId} (e : s.Enrolled command.items ids t) {index count : Nat}
    (staying : ∀ id ∈ s.data.take index ++ s.data.drop (index + count), id ∈ command.staying s) :
    ∀ id ∈ held, id ∉ (t.exchange index count ids).2.changes.added := by
  have data : t.data = s.data := by rw [e.rest]
  have changes : t.changes = s.changes := by rw [e.rest]
  have free : ∀ id ∈ held, id ∈ Item.handles command.items → (Item.handles command.items).count id = 1 ∧
      (id ∈ s.changes.removed ∨ id ∈ s.data ∧ id ∉ command.staying s ∧ s.holds Model.isNew id = false) := by
    unfold Returns at returns
    split at returns
    · exact absurd rfl (unset _)
    · exact returns
  intro id hid
  have old := h.known id hid
  refine exchange_settled (changes ▸ h.settled id hid) fun listed => ?_
  have handle : id ∈ Item.handles command.items :=
    (e.mem_ids id listed).resolve_right fun new => Nat.not_lt.2 new.1 old
  obtain ⟨once, kind⟩ := free id hid handle
  rw [e.count id old, changes, data, holds_congr (e.model? old)]
  exact ⟨once, kind.imp_right fun ⟨member, stays, keyed⟩ => ⟨member, fun inside => stays (staying id inside), keyed⟩⟩

theorem effect (h : s.Holding held) {command : SourceCommand} (unset : ∀ items, command ≠ .setData items)
    (effect : s.Effect command t) (returns : Returns held s command)
    (composed : ∀ tracked ∈ s.models, tracked.fields.Composed) : t.Holding held := by
  refine ⟨fun id hid => Nat.lt_of_lt_of_le (h.known id hid) (effect.length_le composed), ?_⟩
  cases effect with
  | nothing => exact h.settled
  | exchange index count e staying => exact h.exchange unset returns e staying
  | setData same _ => exact absurd same (unset _)
  | cancelAll _ _ =>
    rw [(replace_frame _ _).2.2.1]
    exact fun _ _ => List.not_mem_nil
  | cancel _ => exact fun id hid => cancel_settled (h.settled id hid) _
  | submit _ => exact fun _ _ => List.not_mem_nil
  | edit _ written =>
    obtain ⟨tracked, -, outcome⟩ := write_outcome
      (fun tracked found => Model.perform_run (composed tracked (List.mem_of_getElem? found)) _ _) written
    rw [outcome.rest]
    exact h.settled

theorem perform (h : s.Holding held) (after : t.Orderly) {command : SourceCommand} {reply : SourceReply}
    (done : s.perform command = .ok (reply, t)) (returns : Returns held s command)
    (composed : ∀ tracked ∈ s.models, tracked.fields.Composed) :
    t.Holding (heldAfter held (.performed command t.data)) := by
  have effect := effect_of_perform done
  have length := effect.length_le composed
  cases command with
  | cancelAll =>
    obtain ⟨v, built, made⟩ := ok_of_bind done
    cases made
    obtain ⟨⟨ids, u⟩, -, made⟩ := ok_of_bind built
    cases made
    exact h.append after.members length (by rw [(replace_frame u ids).2.2.1])
  | setData items =>
    obtain ⟨v, built, made⟩ := ok_of_bind done
    cases made
    obtain ⟨⟨ids, u⟩, -, made⟩ := ok_of_bind built
    cases made
    refine h.weaken (fun _ hid => hid) length ?_
    rw [(replace_frame u ids).2.2.1]
    exact fun _ listed => absurd listed List.not_mem_nil
  | _ => exact h.effect (by simp) effect returns composed

theorem step {log : List SourceEvent} (h : s.Holding (Source.held log)) (orderly : s.Orderly) (after : t.Orderly)
    (composed : s.OfKind fun _ fields => fields.Composed) {event : SourceEvent} (returns : Returning log s event)
    (step : s.Step event t) : t.Holding (Source.held (log ++ [event])) := by
  have length := step.length_le composed
  rw [held_append]
  cases step with
  | make ids _ _ _ => exact h.weaken (fun _ hid => hid) length fun _ listed => listed
  | perform _ _ done => exact h.perform after done returns composed.tracked
  | load _ done =>
    obtain ⟨u, e, rfl⟩ := load_ok done
    exact h.append after.members length (by rw [(replace_frame _ _).2.2.1])
  | advance tasks =>
    obtain ⟨updated, origin, shape, -⟩ := syncNext_source s tasks
    refine h.weaken (fun _ hid => hid) length ?_
    rw [shape]
    exact fun _ listed => listed
  | accept call answer =>
    cases call with
    | create id entity =>
      obtain ⟨known, settled⟩ := h.weaken (fun _ hid => hid) length fun _ listed => List.mem_of_mem_erase listed
      exact ⟨List.forall_mem_cons.2 ⟨Nat.lt_of_lt_of_le returns length, known⟩,
        List.forall_mem_cons.2 ⟨fun listed => (orderly.added.mem_erase_iff.1 listed).1 rfl, settled⟩⟩
    | update id key changes => exact h.weaken (fun _ hid => hid) length fun _ listed => listed
    | remove id key => exact h.weaken (fun _ hid => List.mem_of_mem_filter hid) length fun _ listed => listed
  | ask filter sort paginator scheduled => exact h.weaken (fun _ hid => hid) length fun _ listed => listed

end Holding

theorem History.holding {log : List SourceEvent} (h : History Returning log s) : s.Holding (held log) := by
  induction h with
  | start schema _ autoSync paginator => exact .of_none (by simp [held]) rfl
  | next h ok step ih =>
    have after := (step.reachable (fun _ _ _ => trivial) h.reachable_any).orderly
    exact ih.step h.reachable_any.orderly after h.reachable_any.composed ok step

/-- A sync never creates what the provider holds, as long as what it holds is brought in only to take back a removal.
Syncs do not disturb this. -/
theorem not_held_of_create {log : List SourceEvent} (h : History Returning log s) :
    (∀ before id entity after, log = before ++ .advanced (some (.create id entity)) :: after → id ∉ held before) ∧
      ∀ tasks issued failure t, s.SyncRun tasks issued failure t →
        ∃ events, History Returning (log ++ events) t ∧ events.filterMap SourceEvent.call? = issued.map (·.call) := by
  refine ⟨fun before id entity after whole => ?_, fun tasks issued failure t run => ?_⟩
  · subst whole
    obtain ⟨u, v, earlier, ok, step⟩ := h.split
    have holding := (earlier.next ok step).holding
    rw [held_append] at holding
    cases step.calls with
    | create added => exact fun isHeld => holding.settled id isHeld added
  · refine h.sync (fun _ _ _ => trivial) (fun log u call answer earlier awaited => ?_) run
    refine earlier.reachable_any.orderly.known call.task.id ?_
    cases call with
    | create id entity => exact .inl awaited
    | update id key changes => exact .inr (.inl awaited)
    | remove id key => exact .inr (.inr awaited)

/-- A row is removed and brought back, and an entity is added: only the entity is created. -/
theorem not_held_of_create_entity : ∃ log s before entity after, History Returning log s ∧ s.data = [0, 1] ∧
    log = before ++ .advanced (some (.create 1 entity)) :: after ∧ held before = [0] ∧ 1 ∉ held before := by
  have shown : ((fetched? [namedRow 1]).bind fun s =>
      (s.perform (.remove 0)).toOption.bind fun removed =>
      (removed.2.perform (.add (.model 0))).toOption.bind fun back =>
      (back.2.perform (.add (.entity [("name", .str "c")]))).toOption.map fun added =>
        (s.data, removed.2.models.length, removed.2.changes.removed, added.2.data, added.2.changes.added)) =
        some ([0], 1, [0], [0, 1], [1]) := by decide +kernel
  obtain ⟨s, found, later⟩ := Option.bind_eq_some_iff.1 shown
  obtain ⟨⟨reply, removed⟩, first, later⟩ := Option.bind_eq_some_iff.1 later
  obtain ⟨⟨reply', back⟩, second, later⟩ := Option.bind_eq_some_iff.1 later
  obtain ⟨⟨reply'', added⟩, third, facts⟩ := Option.map_eq_some_iff.1 later
  simp only [Prod.mk.injEq] at facts
  obtain ⟨fetched, length, pending, members, new⟩ := facts
  have h : History Returning _ s := fetched?_history (by simp [namedRow_ordered]) (fun _ _ _ => trivial) found
  rw [fetched] at h
  have one := h.perform (ok_of_toOption first) rfl (by simp [Returning, Returns, SourceCommand.items])
  have returns : Returning ([.fetched [0]] ++ [.performed (.remove 0) removed.data]) removed
      (.performed (.add (.model 0)) back.data) := by
    rintro id - listed
    obtain rfl := List.mem_singleton.1 listed
    exact ⟨rfl, .inl (by simp [pending])⟩
  have two := one.next returns
    (.perform (by simp [SourceCommand.items, length]) (by simp [SourceCommand.items]) (ok_of_toOption second))
  have three := two.next (by simp [Returning, Returns, SourceCommand.items])
    (.perform (by simp [SourceCommand.items]) (by simp [SourceCommand.items, KeyMap.Ordered]) (ok_of_toOption third))
  have go := Step.advance (s := added) added.syncTasks
  have next : added.syncNext added.syncTasks = .call (.create 1 (added.entity 1))
      (added.changes.updated.map .update ++ added.changes.removed.map .remove) added := by
    rw [syncTasks, new, List.append_assoc]
    exact syncNext_create _ (by simp [new])
  rw [next] at go
  have whole := three.next (by exact trivial) go
  exact ⟨_, added, _, added.entity 1, [], whole, members, rfl, rfl, (not_held_of_create whole).1 _ 1 _ [] rfl⟩

/-- A member that was fetched is added once more, and the provider is told to create it. -/
theorem held_of_create : ∃ log s issued entity t, History (fun _ _ _ => True) log s ∧ held log = [0] ∧
    s.SyncRun s.syncTasks issued none t ∧ .create 0 entity ∈ issued.map (·.call) := by
  have shown : ((fetched? [namedRow 1]).bind fun s => (s.perform (.add (.model 0))).toOption.map fun added =>
      (s.data, s.models.length, added.2.changes.added, added.2.changes.updated, added.2.changes.removed)) =
        some ([0], 1, [0], [], []) := by decide +kernel
  obtain ⟨s, found, later⟩ := Option.bind_eq_some_iff.1 shown
  obtain ⟨⟨reply, t⟩, done, facts⟩ := Option.map_eq_some_iff.1 later
  simp only [Prod.mk.injEq] at facts
  obtain ⟨fetched, length, added, updated, removed⟩ := facts
  have h : History (fun _ _ _ => True) _ s := fetched?_history (by simp [namedRow_ordered]) (fun _ _ _ => trivial) found
  rw [fetched] at h
  have again := h.next trivial
    (.perform (by simp [SourceCommand.items, length]) (by simp [SourceCommand.items]) (ok_of_toOption done))
  have tasks : t.syncTasks = [.create 0] := by simp [syncTasks, added, updated, removed]
  have next : t.syncNext t.syncTasks = .call (.create 0 (t.entity 0)) [] t := by
    rw [tasks]
    exact syncNext_create [] (by simp [added])
  exact ⟨_, t, _, t.entity 0, _, again, rfl, .accepted next (namedRow 1) (.finished rfl), by simp⟩

end RecordSync.Source
