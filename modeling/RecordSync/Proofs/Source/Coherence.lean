import RecordSync.Proofs.Source.Pending

/-!
# Coherence of a source

As long as no model is brought in that is a member already, the pending changes, the positions of removed models and
the subscriptions fit the list: each operation may touch all of them, and none of them is ever out of step.
-/

set_option autoImplicit false

namespace RecordSync.Source

structure Consistent (s : Source) (members : ModelId → Prop) : Prop extends Pending s where
  added_members : ∀ id ∈ s.changes.added, members id
  updated_members : ∀ id ∈ s.changes.updated, members id
  exclusive : ∀ id ∈ s.changes.added, id ∉ s.changes.updated
  removed_outside : ∀ id ∈ s.changes.removed, ¬ members id
  /-- There is a position for every pending removal, and no other. -/
  positions : (s.removedAt.map (·.1)).Perm s.changes.removed
  follows : s.Follows members

/-- No model is listed twice, and everything fits the list. -/
structure Coherent (s : Source) : Prop extends Consistent s (· ∈ s.data) where
  nodup : s.data.Nodup

theorem map_fst_without (positions : List (ModelId × Nat)) (id : ModelId) :
    (positions.filter fun entry => entry.1 != id).map (·.1) = (positions.map (·.1)).filter (· != id) := by
  rw [List.filter_map]
  rfl

namespace Consistent

variable {s t : Source} {members : ModelId → Prop} {id : ModelId}

theorem congr (h : s.Consistent members) {others : ModelId → Prop} (same : ∀ id, members id ↔ others id) :
    s.Consistent others where
  toPending := h.toPending
  added_members := fun id hid => (same id).1 (h.added_members id hid)
  updated_members := fun id hid => (same id).1 (h.updated_members id hid)
  exclusive := h.exclusive
  removed_outside := fun id hid hm => h.removed_outside id hid ((same id).2 hm)
  positions := h.positions
  follows := h.follows.congr same

theorem of_same (h : s.Consistent members) (length : s.models.length ≤ t.models.length)
    (changes : t.changes = s.changes) (removedAt : t.removedAt = s.removedAt)
    (subscriptions : t.subscriptions = s.subscriptions) (follows : t.Follows members) : t.Consistent members where
  toPending := h.toPending.of_same length changes subscriptions
  added_members := changes ▸ h.added_members
  updated_members := changes ▸ h.updated_members
  exclusive := changes ▸ h.exclusive
  removed_outside := changes ▸ h.removed_outside
  positions := by
    rw [removedAt, changes]
    exact h.positions
  follows := follows

theorem drop (h : s.Consistent members) {added updated : List ModelId} (sub : added.Sublist s.changes.added)
    (sub' : updated.Sublist s.changes.updated) :
    ({ s with changes := { s.changes with added, updated } } : Source).Consistent members where
  toPending := h.toPending.drop sub sub'
  added_members := fun id hid => h.added_members id (sub.subset hid)
  updated_members := fun id hid => h.updated_members id (sub'.subset hid)
  exclusive := fun id hid hu => h.exclusive id (sub.subset hid) (sub'.subset hu)
  removed_outside := h.removed_outside
  positions := h.positions
  follows := h.follows.of_same rfl rfl

theorem positions_recover (h : s.Consistent members) (id : ModelId) :
    ((s.removedAt.filter fun entry => entry.1 != id).map (·.1)).Perm (s.changes.removed.erase id) := by
  rw [map_fst_without, h.removed.erase_eq_filter]
  exact h.positions.filter _

theorem recover (h : s.Consistent members) (id : ModelId) :
    ({ s with
      changes := { s.changes with removed := s.changes.removed.erase id }
      removedAt := s.removedAt.filter fun entry => entry.1 != id } : Source).Consistent members where
  toPending := h.toPending.recover id _
  added_members := h.added_members
  updated_members := h.updated_members
  exclusive := h.exclusive
  removed_outside := fun other ho => h.removed_outside other (List.mem_of_mem_erase ho)
  positions := h.positions_recover id
  follows := h.follows.of_same rfl rfl

theorem attach (h : s.Consistent members) (known : id < s.models.length) (kept : id ∉ s.changes.removed) :
    (s.attach id).Consistent fun other => other = id ∨ members other := by
  have attached := attach_reobserved s id
  have changes := attached.changes
  refine ⟨h.toPending.attach kept, ?_, ?_, ?_, ?_, ?_, h.follows.attach known⟩
  · rw [changes]
    exact fun other ho => .inr (h.added_members other ho)
  · rw [changes]
    exact fun other ho => .inr (h.updated_members other ho)
  · rw [changes]
    exact h.exclusive
  · rw [changes]
    rintro other ho (rfl | hm)
    · exact kept ho
    · exact h.removed_outside other ho hm
  · rw [attached.removedAt, changes]
    exact h.positions

theorem add (h : s.Consistent members) (member : members id) (known : id < s.models.length)
    (fresh : id ∉ s.changes.added) (clean : id ∉ s.changes.updated) :
    ({ s with changes := { s.changes with added := s.changes.added ++ [id] } } : Source).Consistent members where
  toPending := h.toPending.add known fresh fun hr => h.removed_outside id hr member
  added_members := by
    intro other ho
    rcases List.mem_append.1 ho with ho | ho
    · exact h.added_members other ho
    · rwa [List.mem_singleton.1 ho]
  updated_members := h.updated_members
  exclusive := by
    intro other ho
    rcases List.mem_append.1 ho with ho | ho
    · exact h.exclusive other ho
    · rwa [List.mem_singleton.1 ho]
  removed_outside := h.removed_outside
  positions := h.positions
  follows := h.follows.of_same rfl rfl

theorem update (h : s.Consistent members) (member : members id) (known : id < s.models.length)
    (notAdded : id ∉ s.changes.added) (fresh : id ∉ s.changes.updated) :
    ({ s with changes := { s.changes with updated := s.changes.updated ++ [id] } } : Source).Consistent members where
  toPending := h.toPending.update known fresh fun hr => h.removed_outside id hr member
  added_members := h.added_members
  updated_members := by
    intro other ho
    rcases List.mem_append.1 ho with ho | ho
    · exact h.updated_members other ho
    · rwa [List.mem_singleton.1 ho]
  exclusive := by
    intro other ho hu
    rcases List.mem_append.1 hu with hu | hu
    · exact h.exclusive other ho hu
    · rw [List.mem_singleton.1 hu] at ho
      exact notAdded ho
  removed_outside := h.removed_outside
  positions := h.positions
  follows := h.follows.of_same rfl rfl

theorem enter (h : s.Consistent members) (outside : ¬ members id) (known : id < s.models.length) :
    (s.enter id).2.Consistent fun other => other = id ∨ members other := by
  have notAdded : id ∉ s.changes.added := fun ha => outside (h.added_members id ha)
  have notUpdated : id ∉ s.changes.updated := fun hu => outside (h.updated_members id hu)
  rcases enter_cases s id with ⟨pending, result⟩ | ⟨kept, added, result⟩ | ⟨kept, fresh, result⟩
  · have gone : id ∉ s.changes.removed.erase id := fun hr => (h.removed.mem_erase_iff.1 hr).1 rfl
    have recovered := (h.recover id).attach known gone
    have attached := attach_reobserved ({ s with
      changes := { s.changes with removed := s.changes.removed.erase id }
      removedAt := s.removedAt.filter fun entry => entry.1 != id } : Source) id
    rw [result]
    split
    · have updated := recovered.update (.inl rfl) (attached.length ▸ known) (attached.changes ▸ notAdded)
        (attached.changes ▸ notUpdated)
      rwa [attached.changes, attach_with_changes] at updated
    · exact recovered
  · exact absurd added notAdded
  · have attached := attach_reobserved s id
    have added := (h.attach known kept).add (.inl rfl) (attached.length ▸ known) (attached.changes ▸ notAdded)
      (attached.changes ▸ notUpdated)
    rw [result]
    rwa [attached.changes, attach_with_changes] at added

theorem detach (h : s.Consistent members) (id : ModelId) (notAdded : id ∉ s.changes.added)
    (notUpdated : id ∉ s.changes.updated) :
    (s.detach id).Consistent fun other => members other ∧ other ≠ id := by
  have detached := detach_reobserved s id
  have changes := detached.changes
  have ne {list : List ModelId} (outside : id ∉ list) : ∀ other ∈ list, other ≠ id := by
    rintro other ho rfl
    exact outside ho
  refine ⟨h.toPending.detach id, ?_, ?_, ?_, ?_, ?_, h.follows.detach id⟩
  · rw [changes]
    exact fun other ho => ⟨h.added_members other ho, ne notAdded other ho⟩
  · rw [changes]
    exact fun other ho => ⟨h.updated_members other ho, ne notUpdated other ho⟩
  · rw [changes]
    exact h.exclusive
  · rw [changes]
    exact fun other ho hm => h.removed_outside other ho hm.1
  · rw [detached.removedAt, changes]
    exact h.positions

/-- A removal is pending from now on, of a model that is no longer a member. -/
theorem retire (h : s.Consistent members) (known : id < s.models.length) (outside : ¬ members id)
    (fresh : id ∉ s.changes.removed) (index : Nat) :
    ({ s with
      changes := { s.changes with removed := s.changes.removed ++ [id] }
      removedAt := s.removedAt.filter (fun entry => entry.1 != id) ++ [(id, index)] } : Source).Consistent members where
  toPending := h.toPending.retire known (fun ha => outside (h.added_members id ha))
    (fun hu => outside (h.updated_members id hu)) fresh (h.follows.others id outside).1 _
  added_members := h.added_members
  updated_members := h.updated_members
  exclusive := h.exclusive
  removed_outside := by
    intro other ho
    rcases List.mem_append.1 ho with ho | ho
    · exact h.removed_outside other ho
    · rwa [List.mem_singleton.1 ho]
  positions := by
    have others := h.positions_recover id
    rw [List.erase_of_not_mem fresh] at others
    rw [List.map_append]
    exact others.append_right [id]
  follows := h.follows.of_same rfl rfl

theorem leave (h : s.Consistent members) (known : id < s.models.length) (index : Nat) :
    (s.leave id index).Consistent fun other => members other ∧ other ≠ id := by
  have detached := detach_reobserved s id
  have changes := detached.changes
  have notUpdated : id ∉ s.changes.updated.erase id := fun hu => (h.updated.mem_erase_iff.1 hu).1 rfl
  rcases leave_cases rfl index with ⟨-, result⟩ | ⟨notAdded, -, result⟩ | ⟨notAdded, -, fresh, result⟩
  · have gone : id ∉ s.changes.added.erase id := fun ha => (h.added.mem_erase_iff.1 ha).1 rfl
    rw [result, changes, detach_with_changes]
    exact (h.drop List.erase_sublist List.erase_sublist).detach id gone notUpdated
  · rw [changes] at notAdded
    rw [result, changes, detach_with_changes]
    exact (h.drop (.refl _) List.erase_sublist).detach id notAdded notUpdated
  · rw [changes] at notAdded
    have dropped := (h.drop (.refl _) (List.erase_sublist (a := id))).detach id notAdded notUpdated
    rw [← detach_with_changes, ← changes] at dropped
    rw [result]
    exact dropped.retire (detached.length ▸ known) (fun hm => hm.2 rfl) fresh index

theorem exchanges (incoming : List ModelId) : Exchanges incoming fun s members =>
    s.Consistent members ∧ ∀ id ∈ incoming, id < s.models.length where
  congr := fun h same => ⟨h.1.congr same, h.2⟩
  relist := fun _ _ h => ⟨h.1.of_same (Nat.le_refl _) rfl rfl rfl (h.1.follows.of_same rfl rfl), h.2⟩
  leave := fun {s _ id} index h member => by
    refine ⟨h.1.leave (h.1.follows.lt member) index, ?_⟩
    rw [(leave_frame s id index).1.models.length]
    exact h.2
  enter := fun {s _ id} h listed outside => by
    refine ⟨h.1.enter outside (h.2 id listed), ?_⟩
    rw [(enter_frame s id).1.models.length]
    exact h.2

end Consistent

namespace Coherent

variable {s t : Source}

theorem lt (h : s.Coherent) : ∀ id ∈ s.data, id < s.models.length := fun _ hid => h.follows.lt hid

theorem of_same (h : s.Coherent) (length : s.models.length ≤ t.models.length) (changes : t.changes = s.changes)
    (removedAt : t.removedAt = s.removedAt) (subscriptions : t.subscriptions = s.subscriptions)
    (data : t.data = s.data) (follows : t.Follows (· ∈ s.data)) : t.Coherent where
  toConsistent := (h.toConsistent.of_same length changes removedAt subscriptions follows).congr fun id => by rw [data]
  nodup := data ▸ h.nodup

theorem enrolled (h : s.Coherent) {items : List Item} {ids : List ModelId} (e : s.Enrolled items ids t) :
    t.Coherent := by
  have rest := e.rest
  exact h.of_same e.length_le (by rw [rest]) (by rw [rest]) (by rw [rest]) (by rw [rest]) (e.follows h.follows)

/-- An exchange for models that are distinct and not among the members that stay. -/
theorem exchange (h : s.Coherent) {index count : Nat} {ids : List ModelId}
    (known : ∀ id ∈ ids, id < s.models.length) (nodup : ids.Nodup)
    (outside : ∀ id ∈ ids, id ∉ s.data.take index ++ s.data.drop (index + count)) :
    (s.exchange index count ids).2.Coherent := by
  obtain ⟨fits, -⟩ := (Consistent.exchanges ids).exchange ⟨h.toConsistent, known⟩ h.nodup nodup outside
  obtain ⟨-, data⟩ := exchange_frame s index count ids
  refine ⟨fits, ?_⟩
  rw [data]
  exact nodup_exchange h.nodup nodup outside

theorem replace {members : ModelId → Prop} (follows : s.Follows members) {ids : List ModelId} (nodup : ids.Nodup)
    (known : ∀ id ∈ ids, id < s.models.length) : (s.replace ids).Coherent := by
  obtain ⟨-, data, changes, removedAt⟩ := replace_frame s ids
  have alone : ({ s.detachAll with data := ids, changes := {}, removedAt := [] } : Source).Follows fun _ => False :=
    follows.detachAll.of_same rfl rfl
  have followed : (s.replace ids).Follows (· ∈ (s.replace ids).data) := by
    rw [data]
    refine (alone.attachAll fun id hid => ?_).congr fun id => by simp
    exact (detachAll_reobserved s).length.symm ▸ known id hid
  refine ⟨⟨.of_none changes, ?_, ?_, ?_, ?_, ?_, followed⟩, data.symm ▸ nodup⟩ <;> simp [changes, removedAt]

theorem preserved (id : ModelId) : Preserved id Coherent where
  place := fun s old new found keeps h => by
    have follows : (s.mapModel id fun _ => new).Follows (· ∈ s.data) := h.follows.mapModel id fun m hm => by
      rw [found, Option.some.injEq] at hm
      rw [← hm]
      exact keeps.observers
    exact h.of_same (Nat.le_of_eq (length_mapModel s id _).symm) rfl rfl rfl rfl follows
  track := fun s m observer found _ _ h => by
    rcases track_cases s id with same | ⟨member, notAdded, fresh, -, -, result⟩ | ⟨-, -, -, -, result⟩
    · rw [same]
      exact h
    · rw [result, schedule_eq]
      have updated := h.toConsistent.update member (lt_of_model? found) notAdded fresh
      exact ⟨updated.of_same (Nat.le_refl _) rfl rfl rfl (updated.follows.of_same rfl rfl), h.nodup⟩
    · rw [result]
      exact ⟨h.toConsistent.drop (.refl _) List.erase_sublist, h.nodup⟩

theorem restore (h : s.Coherent) (id : ModelId) : (s.restore id).Coherent := by
  rcases restore_cases s id with ⟨-, same⟩ | ⟨pending, index, place, result⟩
  · rw [same]
    exact h
  · have known := h.toPending.known id (.inr (.inr pending))
    have gone : id ∉ s.changes.removed.erase id := fun hr => (h.removed.mem_erase_iff.1 hr).1 rfl
    have outside := h.removed_outside id pending
    have attached := (h.toConsistent.recover id).attach known gone
    have back := attached.congr fun other => (List.mem_insertIdx place).symm
    rw [result]
    refine ⟨back.of_same (Nat.le_refl _) rfl rfl rfl (back.follows.of_same rfl rfl), ?_⟩
    rw [(List.perm_insertIdx id s.data place).nodup_iff]
    exact List.nodup_cons.2 ⟨outside, h.nodup⟩

theorem cancel (h : s.Coherent) (id : ModelId) : (s.cancel id).Coherent := by
  refine cancel_preserves h (fun index => h.exchange (by simp) List.nodup_nil (by simp)) ?_ fun t ht => ht.restore id
  exact (preserved id).resetModel (fun t ht => ⟨ht.toConsistent.drop (.refl _) List.erase_sublist, ht.nodup⟩) h

theorem submit (h : s.Coherent) : s.submit.Coherent := by
  obtain ⟨u, origin, hu, result⟩ := submit_eq s
  have followed : u.Follows (· ∈ s.data) := by
    rw [hu]
    exact List.foldlRecOn (motive := fun t : Source => t.Follows (· ∈ s.data)) _ _ h.follows fun _ ht id _ =>
      ht.mapModel id fun _ _ => rfl
  obtain ⟨data, -⟩ := submitAll_frame s (s.changes.added ++ s.changes.updated)
  rw [← hu] at data
  rw [result]
  have same : ({ u with changes := {}, removedAt := [], origin } : Source).Follows (· ∈ u.data) := by
    rw [data]
    exact followed.of_same rfl rfl
  refine ⟨⟨.of_none rfl, ?_, ?_, ?_, ?_, ?_, same⟩, data ▸ h.nodup⟩ <;> simp

theorem accept (h : s.Coherent) (call : SyncCall) (answer : call.request.Answer) :
    (s.accept call answer).Coherent := by
  have rebound (id : ModelId) (saved : Entity) : (s.rebind id saved).Coherent :=
    h.of_same (Nat.le_of_eq (length_mapModel s id _).symm) rfl rfl rfl rfl
      (h.follows.mapModel id fun m _ => (m.rebase_keeps saved).observers)
  cases call with
  | create id entity =>
    have after := rebound id answer
    exact ⟨after.toConsistent.drop List.erase_sublist (.refl _), after.nodup⟩
  | update id key changes =>
    have after := rebound id answer
    exact ⟨after.toConsistent.drop (.refl _) List.erase_sublist, after.nodup⟩
  | remove id key => exact ⟨h.toConsistent.recover id, h.nodup⟩

theorem outside (h : s.Coherent) {command : SourceCommand} (fresh : command.Fresh s) {ids : List ModelId}
    {index count : Nat} (e : s.Enrolled command.items ids t)
    (staying : ∀ id ∈ s.data.take index ++ s.data.drop (index + count), id ∈ command.staying s) :
    ∀ id ∈ ids, id ∉ t.data.take index ++ t.data.drop (index + count) := by
  have data : t.data = s.data := by rw [e.rest]
  rw [data]
  intro id hid
  rcases e.mem_ids id hid with listed | ⟨new, -⟩
  · exact fun hs => fresh.outside id listed (staying id hs)
  · intro hs
    have old : id ∈ s.data := by
      rcases List.mem_append.1 hs with hs | hs
      · exact List.mem_of_mem_take hs
      · exact List.mem_of_mem_drop hs
    exact Nat.not_lt.2 new (h.lt id old)

theorem effect (h : s.Coherent) {command : SourceCommand} (effect : s.Effect command t) (fresh : command.Fresh s)
    (known : ∀ id ∈ Item.handles command.items, id < s.models.length)
    (composed : ∀ tracked ∈ s.models, tracked.fields.Composed) : t.Coherent := by
  cases effect with
  | nothing => exact h
  | exchange index count e staying =>
    exact (h.enrolled e).exchange (fun id hid => e.lt known hid) (e.nodup known fresh.distinct)
      (h.outside fresh e staying)
  | setData _ e =>
    exact replace (e.follows h.follows) (e.nodup known fresh.distinct) fun id hid => e.lt known hid
  | cancelAll _ e => exact replace (e.follows h.follows) e.nodup_of_entities fun id hid => e.lt_of_entities hid
  | cancel _ => exact h.cancel _
  | submit _ => exact h.submit
  | edit _ written => exact (preserved _).perform composed written h

theorem empty (schema : EntityRules) (fields : VirtualFields) (autoSync : Bool) (paginator : Paginator) :
    (Source.empty schema fields autoSync paginator).Coherent := by
  have follows : (Source.empty schema fields autoSync paginator).Follows (· ∈ ([] : List ModelId)) :=
    ⟨by simp, fun id _ => ⟨rfl, by simp [model?, Source.empty]⟩⟩
  refine ⟨⟨.of_none rfl, ?_, ?_, ?_, ?_, ?_, follows⟩, ?_⟩ <;> simp [Source.empty]

end Coherent

/-- Whatever happens to a source into which only fresh models are brought, it stays coherent. -/
theorem coherent_of_reachable {s : Source} (h : s.Reachable fun s command => command.Fresh s) : s.Coherent := by
  induction h with
  | start schema _ autoSync paginator => exact .empty schema _ autoSync paginator
  | make ids _ _ built ih =>
    refine ih.of_same (by simp) rfl rfl rfl rfl (ih.follows.append ?_)
    simpa using (tracked_of_build built).2.2
  | perform h ok known done ih => exact ih.effect (effect_of_perform done) ok known h.composed.tracked
  | @load s t collection ids _ done ih =>
    obtain ⟨u, enrolled, rfl⟩ := load_ok done
    have follows := (enrolled.follows ih.follows).of_same
      (t := { u with total := collection.total.getD u.total, extra := collection.extra, origin := collection.data })
      rfl rfl
    exact Coherent.replace follows enrolled.nodup_of_entities fun id hid => enrolled.lt_of_entities hid
  | advance tasks _ ih =>
    obtain ⟨updated, origin, shape, sub⟩ := syncNext_source _ tasks
    rw [shape]
    have dropped := ih.toConsistent.drop (.refl _) sub
    exact ⟨dropped.of_same (Nat.le_refl _) rfl rfl rfl (dropped.follows.of_same rfl rfl), ih.nodup⟩
  | accept call answer _ ih => exact ih.accept call answer
  | ask filter sort paginator scheduled _ ih =>
    exact ih.of_same (Nat.le_refl _) rfl rfl rfl rfl (ih.follows.of_same rfl rfl)

def sample? : Option Source :=
  ((empty .standard [] false .disabled).load
      { data := [[("id", .str "a")], [("id", .str "b")]], total := none, extra := [] }).toOption.bind fun loaded =>
    loaded.2.performAll?
      [.edit 0 (.setAt ["name"] (.str "c")), .removeAt 1, .add (.entity [("name", .str "d")])]

theorem sample?_spec : ∃ s, sample? = some s ∧ (s.Reachable fun s command => command.Fresh s) ∧ s.data = [0, 2] ∧
    s.changes.added = [2] ∧ s.changes.updated = [0] ∧ s.changes.removed = [1] ∧ s.models.length = 3 := by
  have shown : sample?.map (fun s => (s.data, s.changes.added, s.changes.updated, s.changes.removed,
      s.models.length)) = some ([0, 2], [2], [0], [1], 3) := by decide +kernel
  obtain ⟨s, found, facts⟩ := Option.map_eq_some_iff.1 shown
  simp only [Prod.mk.injEq] at facts
  obtain ⟨⟨ids, loaded⟩, hl, rest⟩ := Option.bind_eq_some_iff.1 found
  have start : (empty .standard [] false .disabled).Reachable fun s command => command.Fresh s :=
    .start .standard VirtualFields.composed_nil false .disabled
  refine ⟨s, found, ?_, facts⟩
  refine (start.load (ok_of_toOption hl)).performAll? (fun command hc u => ⟨?_, ?_⟩) (fun command hc => ?_) rest
  all_goals
    simp only [List.mem_cons, List.not_mem_nil, or_false] at hc
    rcases hc with rfl | rfl | rfl <;> simp [SourceCommand.items]

/-- The removed model comes back. -/
theorem coherent_of_reachable_sample :
    ∃ s reply t, sample? = some s ∧ s.changes.removed = [1] ∧ s.perform (.add (.model 1)) = .ok (reply, t) ∧
      t.Coherent := by
  obtain ⟨s, found, reached, data, -, -, removed, size⟩ := sample?_spec
  have fresh : (SourceCommand.add (.model 1)).Fresh s := by
    constructor <;> simp [SourceCommand.items, SourceCommand.staying, data]
  have known : ∀ id ∈ Item.handles (SourceCommand.add (.model 1)).items, id < s.models.length := by
    simp [SourceCommand.items, size]
  exact ⟨s, _, _, found, removed, rfl, coherent_of_reachable (reached.perform fresh known rfl)⟩

end RecordSync.Source
