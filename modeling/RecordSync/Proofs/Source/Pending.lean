import RecordSync.Proofs.Source.Reachable

/-!
# Pending changes

What holds of the pending changes of every source, also when a member is brought in again: no list names a model
twice, and a model whose removal is pending is in no other list and is not followed.
-/

set_option autoImplicit false

namespace RecordSync.Source

structure Pending (s : Source) : Prop where
  known : ∀ id, id ∈ s.changes.added ∨ id ∈ s.changes.updated ∨ id ∈ s.changes.removed → id < s.models.length
  added : s.changes.added.Nodup
  updated : s.changes.updated.Nodup
  removed : s.changes.removed.Nodup
  settled : ∀ id ∈ s.changes.removed,
    id ∉ s.changes.added ∧ id ∉ s.changes.updated ∧ s.subscriptions.lookup id = none

structure Orderly (s : Source) : Prop extends Pending s where
  members : ∀ id ∈ s.data, id < s.models.length

namespace Pending

variable {s t : Source} {id : ModelId}

theorem of_none (h : s.changes = {}) : s.Pending := by
  constructor <;> simp [h]

/-- Only the lists, the subscriptions and the size of the table matter. -/
theorem of_same (h : s.Pending) (length : s.models.length ≤ t.models.length) (changes : t.changes = s.changes)
    (subscriptions : t.subscriptions = s.subscriptions) : t.Pending where
  known := fun id hid => Nat.lt_of_lt_of_le (h.known id (changes ▸ hid)) length
  added := changes ▸ h.added
  updated := changes ▸ h.updated
  removed := changes ▸ h.removed
  settled := fun id hid => by
    rw [changes, subscriptions]
    exact h.settled id (changes ▸ hid)

theorem update (h : s.Pending) (known : id < s.models.length) (fresh : id ∉ s.changes.updated)
    (kept : id ∉ s.changes.removed) :
    ({ s with changes := { s.changes with updated := s.changes.updated ++ [id] } } : Source).Pending where
  known := by
    intro other ho
    simp only [List.mem_append, List.mem_singleton] at ho
    rcases ho with ho | (ho | rfl) | ho
    · exact h.known other (.inl ho)
    · exact h.known other (.inr (.inl ho))
    · exact known
    · exact h.known other (.inr (.inr ho))
  added := h.added
  updated := List.nodup_append.2 ⟨h.updated, by simp, by simp; rintro a ha rfl; exact fresh ha⟩
  removed := h.removed
  settled := by
    intro other ho
    obtain ⟨notAdded, notUpdated, unfollowed⟩ := h.settled other ho
    refine ⟨notAdded, ?_, unfollowed⟩
    simp only [List.mem_append, List.mem_singleton, not_or]
    refine ⟨notUpdated, ?_⟩
    rintro rfl
    exact kept ho

theorem drop (h : s.Pending) {added updated : List ModelId} (sub : added.Sublist s.changes.added)
    (sub' : updated.Sublist s.changes.updated) :
    ({ s with changes := { s.changes with added, updated } } : Source).Pending where
  known := by
    intro other ho
    rcases ho with ho | ho | ho
    · exact h.known other (.inl (sub.subset ho))
    · exact h.known other (.inr (.inl (sub'.subset ho)))
    · exact h.known other (.inr (.inr ho))
  added := h.added.sublist sub
  updated := h.updated.sublist sub'
  removed := h.removed
  settled := by
    intro other ho
    obtain ⟨notAdded, notUpdated, unfollowed⟩ := h.settled other ho
    exact ⟨fun ha => notAdded (sub.subset ha), fun hu => notUpdated (sub'.subset hu), unfollowed⟩

theorem recover (h : s.Pending) (id : ModelId) (removedAt : List (ModelId × Nat)) :
    ({ s with changes := { s.changes with removed := s.changes.removed.erase id }, removedAt } : Source).Pending where
  known := fun other ho => h.known other (ho.imp_right (Or.imp_right List.mem_of_mem_erase))
  added := h.added
  updated := h.updated
  removed := h.removed.erase id
  settled := fun other ho => h.settled other (List.mem_of_mem_erase ho)

theorem attach (h : s.Pending) (kept : id ∉ s.changes.removed) : (s.attach id).Pending := by
  have attached := attach_reobserved s id
  constructor
  · rw [attached.changes, attached.length]
    exact h.known
  · rw [attached.changes]
    exact h.added
  · rw [attached.changes]
    exact h.updated
  · rw [attached.changes]
    exact h.removed
  · intro other ho
    rw [attached.changes] at ho ⊢
    have ne : other ≠ id := by
      rintro rfl
      exact kept ho
    rw [lookup_attach_of_ne s ne]
    exact h.settled other ho

theorem detach (h : s.Pending) (id : ModelId) : (s.detach id).Pending := by
  have detached := detach_reobserved s id
  constructor
  · rw [detached.changes, detached.length]
    exact h.known
  · rw [detached.changes]
    exact h.added
  · rw [detached.changes]
    exact h.updated
  · rw [detached.changes]
    exact h.removed
  · intro other ho
    rw [detached.changes] at ho ⊢
    obtain ⟨notAdded, notUpdated, unfollowed⟩ := h.settled other ho
    refine ⟨notAdded, notUpdated, ?_⟩
    rw [lookup_detach, unfollowed, ite_self]

/-- A removal is pending from now on, of a model that is in no other list and no longer followed. -/
theorem retire (h : s.Pending) (known : id < s.models.length) (notAdded : id ∉ s.changes.added)
    (notUpdated : id ∉ s.changes.updated) (fresh : id ∉ s.changes.removed)
    (unfollowed : s.subscriptions.lookup id = none) (removedAt : List (ModelId × Nat)) :
    ({ s with changes := { s.changes with removed := s.changes.removed ++ [id] }, removedAt } : Source).Pending where
  known := by
    intro other ho
    simp only [List.mem_append, List.mem_singleton] at ho
    rcases ho with ho | ho | ho | rfl
    · exact h.known other (.inl ho)
    · exact h.known other (.inr (.inl ho))
    · exact h.known other (.inr (.inr ho))
    · exact known
  added := h.added
  updated := h.updated
  removed := List.nodup_append.2 ⟨h.removed, by simp, by simp; rintro a ha rfl; exact fresh ha⟩
  settled := by
    intro other ho
    rcases List.mem_append.1 ho with ho | ho
    · exact h.settled other ho
    · obtain rfl := List.mem_singleton.1 ho
      exact ⟨notAdded, notUpdated, unfollowed⟩

theorem add (h : s.Pending) (known : id < s.models.length) (fresh : id ∉ s.changes.added)
    (kept : id ∉ s.changes.removed) :
    ({ s with changes := { s.changes with added := s.changes.added ++ [id] } } : Source).Pending where
  known := by
    intro other ho
    simp only [List.mem_append, List.mem_singleton] at ho
    rcases ho with (ho | rfl) | ho
    · exact h.known other (.inl ho)
    · exact known
    · exact h.known other (.inr ho)
  added := List.nodup_append.2 ⟨h.added, by simp, by simp; rintro a ha rfl; exact fresh ha⟩
  updated := h.updated
  removed := h.removed
  settled := by
    intro other ho
    obtain ⟨notAdded, notUpdated, unfollowed⟩ := h.settled other ho
    refine ⟨?_, notUpdated, unfollowed⟩
    simp only [List.mem_append, List.mem_singleton, not_or]
    refine ⟨notAdded, ?_⟩
    rintro rfl
    exact kept ho

theorem enter (h : s.Pending) (known : id < s.models.length) : (s.enter id).2.Pending := by
  rcases enter_cases s id with ⟨pending, result⟩ | ⟨kept, -, result⟩ | ⟨kept, fresh, result⟩
  · rw [result]
    have gone : id ∉ s.changes.removed.erase id := fun hr => (h.removed.mem_erase_iff.1 hr).1 rfl
    have recovered := h.recover id (s.removedAt.filter fun entry => entry.1 != id)
    split
    · next carries => exact (recovered.update known carries.2.2 gone).attach gone
    · exact recovered.attach gone
  · rw [result]
    exact h.attach kept
  · rw [result]
    exact (h.add known fresh kept).attach kept

theorem leave (h : s.Pending) (known : id < s.models.length) (index : Nat) : (s.leave id index).Pending := by
  have detached := h.detach id
  have unfollowed : (s.detach id).subscriptions.lookup id = none := by rw [lookup_detach, if_pos rfl]
  rcases leave_cases rfl index with ⟨-, result⟩ | ⟨-, -, result⟩ | ⟨notAdded, -, fresh, result⟩
  · rw [result]
    exact detached.drop List.erase_sublist List.erase_sublist
  · rw [result]
    exact detached.drop (.refl _) List.erase_sublist
  · rw [result]
    have dropped := detached.drop (.refl _) (List.erase_sublist (a := id))
    have gone : id ∉ (s.detach id).changes.updated.erase id := fun hu => (detached.updated.mem_erase_iff.1 hu).1 rfl
    exact dropped.retire ((detach_reobserved s id).length ▸ known) notAdded gone fresh unfollowed _

theorem leaveAll (h : s.Pending) (start : Nat) {ids : List ModelId} (known : ∀ id ∈ ids, id < s.models.length) :
    (s.leaveAll start ids).Pending := by
  induction ids generalizing s start with
  | nil => exact h
  | cons id rest ih =>
    rw [leaveAll_cons]
    refine ih (h.leave (known id (.head _)) start) _ fun other ho => ?_
    rw [(leave_frame s id start).1.models.length]
    exact known other (.tail _ ho)

theorem enterAll (h : s.Pending) {ids : List ModelId} (known : ∀ id ∈ ids, id < s.models.length) :
    (s.enterAll ids).2.Pending := by
  induction ids generalizing s with
  | nil => exact h
  | cons id rest ih =>
    rw [enterAll_cons]
    refine ih (h.enter (known id (.head _))) fun other ho => ?_
    rw [(enter_frame s id).1.models.length]
    exact known other (.tail _ ho)

theorem track (h : s.Pending) {m : Model} {observer : Nat} (found : s.model? id = some m)
    (followed : s.subscriptions.lookup id = some observer) : (s.track id).Pending := by
  rcases track_cases s id with same | ⟨-, -, fresh, -, -, result⟩ | ⟨-, -, -, -, result⟩
  · rw [same]
    exact h
  · have kept : id ∉ s.changes.removed := by
      intro hr
      rw [(h.settled id hr).2.2] at followed
      cases followed
    rw [result, schedule_eq]
    exact (h.update (lt_of_model? found) fresh kept).of_same (Nat.le_refl _) rfl rfl
  · rw [result]
    exact h.drop (.refl _) List.erase_sublist

theorem mapModel (h : s.Pending) (id : ModelId) (f : Model → Model) : (s.mapModel id f).Pending :=
  h.of_same (Nat.le_of_eq (length_mapModel s id f).symm) rfl rfl

end Pending

namespace Orderly

variable {s t : Source}

theorem of_same (h : s.Orderly) (length : s.models.length ≤ t.models.length) (changes : t.changes = s.changes)
    (subscriptions : t.subscriptions = s.subscriptions) (data : t.data = s.data) : t.Orderly where
  toPending := h.toPending.of_same length changes subscriptions
  members := fun id hid => Nat.lt_of_lt_of_le (h.members id (data ▸ hid)) length

theorem enrolled (h : s.Orderly) {items : List Item} {ids : List ModelId} (e : s.Enrolled items ids t) : t.Orderly := by
  have rest := e.rest
  exact h.of_same e.length_le (by rw [rest]) (by rw [rest]) (by rw [rest])

theorem exchange (h : s.Orderly) (index count : Nat) {ids : List ModelId}
    (known : ∀ id ∈ ids, id < s.models.length) : (s.exchange index count ids).2.Orderly := by
  obtain ⟨placed, left, removed, start, scheduled, whole, hplaced, hleft, result⟩ := exchange_eq s index count ids
  have placedPending : placed.Pending := by
    rw [hplaced]
    exact h.toPending.of_same (Nat.le_refl _) rfl rfl
  obtain ⟨rearranged, data⟩ := exchange_frame s index count ids
  have leftLength := (leaveAll_frame placed start removed).1.models.length
  rw [← hleft, hplaced] at leftLength
  have gone : ∀ id ∈ removed, id < placed.models.length := by
    intro id hid
    rw [hplaced]
    exact h.members id (by rw [whole]; simp [hid])
  have entering : ∀ id ∈ ids, id < left.models.length := leftLength ▸ known
  have leftPending : left.Pending := hleft ▸ placedPending.leaveAll start gone
  constructor
  · rw [result]
    exact (leftPending.enterAll entering).of_same (Nat.le_refl _) rfl rfl
  · intro id hid
    rw [rearranged.models.length]
    rw [data] at hid
    simp only [List.mem_append] at hid
    rcases hid with (hid | hid) | hid
    · exact h.members id (List.mem_of_mem_take hid)
    · exact known id hid
    · exact h.members id (List.mem_of_mem_drop hid)

theorem replace {ids : List ModelId} (known : ∀ id ∈ ids, id < s.models.length) : (s.replace ids).Orderly := by
  obtain ⟨rearranged, data, changes, -⟩ := replace_frame s ids
  refine ⟨.of_none changes, fun id hid => ?_⟩
  rw [rearranged.models.length]
  exact known id (data ▸ hid)

theorem preserved (id : ModelId) : Preserved id Orderly where
  place := fun s _ new _ _ h =>
    ⟨h.toPending.mapModel id fun _ => new, fun other ho => (length_mapModel s id _).symm ▸ h.members other ho⟩
  track := fun s m observer found followed _ h => by
    refine ⟨h.toPending.track found followed, fun other ho => ?_⟩
    rw [track_frame] at ho ⊢
    exact h.members other ho

theorem restore (h : s.Orderly) (id : ModelId) : (s.restore id).Orderly := by
  rcases restore_cases s id with ⟨-, same⟩ | ⟨pending, index, place, result⟩
  · rw [same]
    exact h
  · have known := h.known id (.inr (.inr pending))
    have gone : id ∉ s.changes.removed.erase id := fun hr => (h.removed.mem_erase_iff.1 hr).1 rfl
    have recovered := h.toPending.recover id (s.removedAt.filter fun entry => entry.1 != id)
    have length := (restore_frame s id).models.length
    rw [result] at length ⊢
    refine ⟨(recovered.attach gone).of_same (Nat.le_refl _) rfl rfl, fun other ho => ?_⟩
    rw [length]
    rcases (List.mem_insertIdx place).1 ho with rfl | ho
    · exact known
    · exact h.members other ho

theorem cancel (h : s.Orderly) (id : ModelId) : (s.cancel id).Orderly := by
  refine cancel_preserves h (fun index => h.exchange index 1 (by simp)) ?_ fun t ht => ht.restore id
  exact (preserved id).resetModel (fun t ht => ⟨ht.toPending.drop (.refl _) List.erase_sublist, ht.members⟩) h

theorem submit (h : s.Orderly) : s.submit.Orderly := by
  obtain ⟨u, origin, hu, result⟩ := submit_eq s
  obtain ⟨data, length⟩ := submitAll_frame s (s.changes.added ++ s.changes.updated)
  rw [← hu] at data length
  rw [result]
  exact ⟨.of_none rfl, fun id hid => length.symm ▸ h.members id (data ▸ hid)⟩

theorem accept (h : s.Orderly) (call : SyncCall) (answer : call.request.Answer) : (s.accept call answer).Orderly := by
  have rebound (id : ModelId) (saved : Entity) : (s.rebind id saved).Orderly :=
    h.of_same (Nat.le_of_eq (length_mapModel s id _).symm) rfl rfl rfl
  cases call with
  | create id entity =>
    have after := rebound id answer
    exact ⟨after.toPending.drop List.erase_sublist (.refl _), after.members⟩
  | update id key changes =>
    have after := rebound id answer
    exact ⟨after.toPending.drop (.refl _) List.erase_sublist, after.members⟩
  | remove id key => exact ⟨h.toPending.recover id _, h.members⟩

theorem effect (h : s.Orderly) {command : SourceCommand} (effect : s.Effect command t)
    (known : ∀ id ∈ Item.handles command.items, id < s.models.length)
    (composed : ∀ tracked ∈ s.models, tracked.fields.Composed) : t.Orderly := by
  cases effect with
  | nothing => exact h
  | exchange index count e => exact (h.enrolled e).exchange index count fun id hid => e.lt known hid
  | setData _ e => exact replace fun id hid => e.lt known hid
  | cancelAll _ e => exact replace fun id hid => e.lt_of_entities hid
  | cancel _ => exact h.cancel _
  | submit _ => exact h.submit
  | edit _ written => exact (preserved _).perform composed written h

end Orderly

/-- Whatever is done to a source, its pending changes stay in order. -/
theorem Reachable.orderly {allowed : Source → SourceCommand → Prop} {s : Source} (h : s.Reachable allowed) :
    s.Orderly := by
  induction h with
  | start schema composed autoSync paginator => exact ⟨.of_none rfl, by simp [empty]⟩
  | make ids _ _ _ ih => exact ih.of_same (by simp) rfl rfl rfl
  | perform h _ known done ih => exact ih.effect (effect_of_perform done) known h.composed.tracked
  | load _ done ih =>
    obtain ⟨u, enrolled, rfl⟩ := load_ok done
    exact Orderly.replace fun id hid => enrolled.lt_of_entities hid
  | advance tasks _ ih =>
    obtain ⟨updated, origin, shape, sub⟩ := syncNext_source _ tasks
    rw [shape]
    exact ⟨(ih.toPending.drop (.refl _) sub).of_same (Nat.le_refl _) rfl rfl, ih.members⟩
  | accept call answer _ ih => exact ih.accept call answer
  | ask filter sort paginator scheduled _ ih => exact ih.of_same (Nat.le_refl _) rfl rfl rfl

end RecordSync.Source
