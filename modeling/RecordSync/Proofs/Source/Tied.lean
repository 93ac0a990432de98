import RecordSync.Proofs.Model.Sparing
import RecordSync.Proofs.Source.Coherence

/-!
# Sources that are tied to a provider

The models that a provider has stored are accounted for by the pending changes: they are the members that have not just
been added and the models whose removal is pending. Each of them that is a member and dirty is among the updated ones.
Models may leave and enter and be edited, and those that are stored stay the same.
-/

set_option autoImplicit false

namespace RecordSync.Source

/-- The pending changes tell which models are stored, and new models are not. -/
structure Accords (s : Source) (members : ModelId → Prop) (stored : List ModelId) : Prop extends
    Consistent s members where
  mem_stored : ∀ id, id ∈ stored ↔ (members id ∧ id ∉ s.changes.added) ∨ id ∈ s.changes.removed
  added_new : ∀ id ∈ s.changes.added, s.holds Model.isNew id = true
  stored_keyed : ∀ id ∈ stored, s.holds Model.isNew id = false

/-- Edits of stored members are pending as well. -/
structure Tied (s : Source) (members : ModelId → Prop) (stored : List ModelId) : Prop extends
    Accords s members stored where
  noted : ∀ id ∈ stored, members id → s.holds Model.isDirty id = true → id ∈ s.changes.updated

theorem holds_congr {s t : Source} {id : ModelId} (same : t.model? id = s.model? id) (p : Model → Bool) :
    t.holds p id = s.holds p id := by
  rw [holds, holds, same]

namespace Accords

variable {s t : Source} {members : ModelId → Prop} {stored : List ModelId} {id : ModelId}

theorem stored_lt (h : s.Accords members stored) (hid : id ∈ stored) : id < s.models.length := by
  rcases (h.mem_stored id).1 hid with ⟨member, -⟩ | pending
  · exact h.follows.lt member
  · exact h.toPending.known id (.inr (.inr pending))

theorem notAdded (h : s.Accords members stored) (hid : id ∈ stored) : id ∉ s.changes.added := by
  intro added
  have isNew := h.added_new id added
  rw [h.stored_keyed id hid] at isNew
  cases isNew

theorem stored_of_member (h : s.Accords members stored) (member : members id) (notAdded : id ∉ s.changes.added) :
    id ∈ stored :=
  (h.mem_stored id).2 (.inl ⟨member, notAdded⟩)

theorem of_same (h : s.Accords members stored) (fits : t.Consistent members) (changes : t.changes = s.changes)
    (isNew : ∀ id, id < s.models.length → t.holds Model.isNew id = s.holds Model.isNew id) :
    t.Accords members stored where
  toConsistent := fits
  mem_stored := by
    rw [changes]
    exact h.mem_stored
  added_new := by
    rw [changes]
    intro id added
    rw [isNew id (h.toPending.known id (.inl added))]
    exact h.added_new id added
  stored_keyed := by
    intro id hid
    rw [isNew id (h.stored_lt hid)]
    exact h.stored_keyed id hid

/-- A model that was added leaves, or one whose removal is pending from then on. -/
theorem leave (h : s.Accords members stored) (member : members id) (index : Nat) :
    (s.leave id index).Accords (fun other => members other ∧ other ≠ id) stored := by
  have fits := h.toConsistent.leave (h.follows.lt member) index
  have isNew (other : ModelId) : (s.leave id index).holds Model.isNew other = s.holds Model.isNew other :=
    (leave_frame s id index).1.models.isNew other
  have keyed : ∀ other ∈ stored, (s.leave id index).holds Model.isNew other = false := by
    intro other ho
    rw [isNew]
    exact h.stored_keyed other ho
  have detached := detach_reobserved s id
  have changes := detached.changes
  rcases leave_cases rfl index with ⟨added, result⟩ | ⟨notAdded, gone, -⟩ | ⟨notAdded, -, -, result⟩
  · rw [changes] at added
    have shown : (s.leave id index).changes = { s.changes with
        added := s.changes.added.erase id, updated := s.changes.updated.erase id } := by rw [result, changes]
    refine ⟨fits, fun other => ?_, ?_, keyed⟩
    · rw [h.mem_stored, shown, h.added.mem_erase_iff]
      by_cases same : other = id
      · subst same
        simp [added]
      · simp [same]
    · rw [shown]
      intro other ho
      rw [isNew]
      exact h.added_new other (List.mem_of_mem_erase ho)
  · rw [changes] at notAdded gone
    -- A member that was not added is stored, so it is neither new nor gone already.
    exfalso
    rcases gone with new | pending
    · rw [detached.models.isNew, h.stored_keyed id (h.stored_of_member member notAdded)] at new
      cases new
    · exact h.removed_outside id pending member
  · rw [changes] at notAdded
    have shown : (s.leave id index).changes = { s.changes with
        updated := s.changes.updated.erase id, removed := s.changes.removed ++ [id] } := by rw [result, changes]
    refine ⟨fits, fun other => ?_, ?_, keyed⟩
    · rw [h.mem_stored, shown]
      by_cases same : other = id
      · subst same
        simp [member, notAdded]
      · simp [same]
    · rw [shown]
      intro other ho
      rw [isNew]
      exact h.added_new other ho

theorem enter (h : s.Accords members stored) (outside : ¬ members id) (inside : id < s.models.length)
    (candidate : id ∈ stored ∨ s.holds Model.isNew id = true) :
    (s.enter id).2.Accords (fun other => other = id ∨ members other) stored := by
  have fits := h.toConsistent.enter outside inside
  have isNew (other : ModelId) : (s.enter id).2.holds Model.isNew other = s.holds Model.isNew other :=
    (enter_frame s id).1.models.isNew other
  have keyed : ∀ other ∈ stored, (s.enter id).2.holds Model.isNew other = false := by
    intro other ho
    rw [isNew]
    exact h.stored_keyed other ho
  have fresh : id ∉ s.changes.added := fun added => outside (h.added_members id added)
  rcases enter_cases s id with ⟨pending, result⟩ | ⟨-, added, -⟩ | ⟨kept, -, result⟩
  · have shown := congrArg Source.changes result
    rw [(attach_reobserved _ id).changes] at shown
    have added : (s.enter id).2.changes.added = s.changes.added := by rw [shown]
    have removed : (s.enter id).2.changes.removed = s.changes.removed.erase id := by rw [shown]
    refine ⟨fits, fun other => ?_, ?_, keyed⟩
    · rw [h.mem_stored, added, removed, h.removed.mem_erase_iff]
      by_cases same : other = id
      · subst same
        simp [pending, fresh]
      · simp [same]
    · rw [added]
      intro other ho
      rw [isNew]
      exact h.added_new other ho
  · exact absurd added fresh
  · have shown := congrArg Source.changes result
    rw [(attach_reobserved _ id).changes] at shown
    have added : (s.enter id).2.changes.added = s.changes.added ++ [id] := by rw [shown]
    have removed : (s.enter id).2.changes.removed = s.changes.removed := by rw [shown]
    have unknown : id ∉ stored := by
      intro hid
      rcases (h.mem_stored id).1 hid with ⟨member, -⟩ | pending
      · exact outside member
      · exact kept pending
    refine ⟨fits, fun other => ?_, ?_, keyed⟩
    · rw [h.mem_stored, added, removed]
      by_cases same : other = id
      · subst same
        simp [outside, kept]
      · simp [same]
    · rw [added]
      intro other ho
      rw [isNew]
      rcases List.mem_append.1 ho with ho | ho
      · exact h.added_new other ho
      · rw [List.mem_singleton.1 ho]
        exact candidate.resolve_left unknown

end Accords

namespace Tied

variable {s t : Source} {members : ModelId → Prop} {stored : List ModelId} {id : ModelId}

theorem congr (h : s.Tied members stored) {others : ModelId → Prop} (same : ∀ id, members id ↔ others id) :
    s.Tied others stored where
  toConsistent := h.toConsistent.congr same
  mem_stored := fun id => by rw [h.mem_stored, same]
  added_new := h.added_new
  stored_keyed := h.stored_keyed
  noted := fun id hid member => h.noted id hid ((same id).2 member)

theorem of_same (h : s.Tied members stored) (fits : t.Consistent members) (changes : t.changes = s.changes)
    (models : ∀ id, id < s.models.length → t.model? id = s.model? id) : t.Tied members stored where
  toAccords := h.toAccords.of_same fits changes fun id lt => holds_congr (models id lt) _
  noted := by
    rw [changes]
    intro id hid member dirty
    rw [holds_congr (models id (h.toAccords.stored_lt hid))] at dirty
    exact h.noted id hid member dirty

theorem leave (h : s.Tied members stored) (member : members id) (index : Nat) :
    (s.leave id index).Tied (fun other => members other ∧ other ≠ id) stored where
  toAccords := h.toAccords.leave member index
  noted := by
    rintro other ho ⟨inside, ne⟩ dirty
    rw [(leave_frame s id index).1.models.isDirty] at dirty
    have pending := (List.mem_erase_of_ne ne).2 (h.noted other ho inside dirty)
    have changes := (detach_reobserved s id).changes
    rcases leave_cases (rfl : s.detach id = s.detach id) index with ⟨-, result⟩ | ⟨-, -, result⟩ | ⟨-, -, -, result⟩ <;>
      rw [result, changes] <;> exact pending

theorem enter (h : s.Tied members stored) (outside : ¬ members id) (inside : id < s.models.length)
    (candidate : id ∈ stored ∨ s.holds Model.isNew id = true) :
    (s.enter id).2.Tied (fun other => other = id ∨ members other) stored where
  toAccords := h.toAccords.enter outside inside candidate
  noted := by
    intro other ho member dirty
    rw [(enter_frame s id).1.models.isDirty] at dirty
    have keyed := h.stored_keyed other ho
    have notAdded := h.toAccords.notAdded ho
    have before (ne : other ≠ id) : other ∈ s.changes.updated := h.noted other ho (member.resolve_left ne) dirty
    have back (same : other = id) : id ∈ s.changes.removed := by
      subst same
      exact ((h.mem_stored other).1 ho).resolve_left fun inside => outside inside.1
    rcases enter_cases s id with ⟨-, result⟩ | ⟨kept, -, result⟩ | ⟨kept, -, result⟩
    · rw [result, (attach_reobserved _ id).changes]
      dsimp only
      by_cases same : other = id
      · subst same
        by_cases listed : other ∈ s.changes.updated
        · rw [if_neg fun both => both.2.2 listed]
          exact listed
        · rw [if_pos ⟨dirty, keyed, listed⟩]
          simp
      · split
        · exact List.mem_append_left _ (before same)
        · exact before same
    · rw [result, (attach_reobserved _ id).changes]
      exact before fun same => kept (back same)
    · rw [result, (attach_reobserved _ id).changes]
      exact before fun same => kept (back same)

theorem exchanges (incoming stored : List ModelId) : Exchanges incoming fun s members =>
    s.Tied members stored ∧ ∀ id ∈ incoming, id < s.models.length ∧ (id ∈ stored ∨ s.holds Model.isNew id = true) where
  congr := fun h same => ⟨h.1.congr same, h.2⟩
  relist := fun _ _ h => ⟨h.1.of_same (h.1.toConsistent.of_same (Nat.le_refl _) rfl rfl rfl
    (h.1.follows.of_same rfl rfl)) rfl fun _ _ => rfl, h.2⟩
  leave := fun {s _ id} index h member => by
    have same := (leave_frame s id index).1.models
    refine ⟨h.1.leave member index, fun other ho => ?_⟩
    rw [same.length, same.isNew]
    exact h.2 other ho
  enter := fun {s _ id} h listed outside => by
    have same := (enter_frame s id).1.models
    refine ⟨h.1.enter outside (h.2 id listed).1 (h.2 id listed).2, fun other ho => ?_⟩
    rw [same.length, same.isNew]
    exact h.2 other ho

/-- Nothing is pending in a list of stored models that has been taken in. -/
theorem replace {others : ModelId → Prop} (follows : s.Follows others) {ids : List ModelId} (nodup : ids.Nodup)
    (inside : ∀ id ∈ ids, id < s.models.length) (listed : ∀ id, id ∈ stored ↔ id ∈ ids)
    (settled : ∀ id ∈ ids, s.holds Model.isNew id = false ∧ s.holds Model.isDirty id = false) :
    (s.replace ids).Tied (· ∈ (s.replace ids).data) stored := by
  obtain ⟨same, data, changes, -⟩ := replace_frame s ids
  refine ⟨⟨(Coherent.replace follows nodup inside).toConsistent, fun id => ?_, ?_, ?_⟩, ?_⟩
  · simp [changes, data, listed]
  · simp [changes]
  · intro id hid
    rw [same.models.isNew]
    exact (settled id ((listed id).1 hid)).1
  · intro id hid member dirty
    rw [same.models.isDirty, (settled id ((listed id).1 hid)).2] at dirty
    cases dirty

end Tied

section Edits

variable {s t : Source} {stored : List ModelId} {id : ModelId} {old new : Model}

/-- A model is exchanged for a later state of it, and the change of a member is noted. -/
theorem Tied.follow (h : s.Tied (· ∈ s.data) stored) (nodup : s.data.Nodup) (found : s.model? id = some old)
    (keeps : old.Keeps new) (key : new.isNew = old.isNew) (event : ChangeEvent) :
    (s.follow id (.changed event new)).Tied (· ∈ s.data) stored := by
  have coherent : s.Coherent := ⟨h.toConsistent, nodup⟩
  have placed := (Coherent.preserved id).place s old new found keeps coherent
  have table (other : ModelId) := model?_mapModel s id (fun _ => new) other
  have isNew (other : ModelId) : (s.mapModel id fun _ => new).holds Model.isNew other =
      s.holds Model.isNew other := by
    rw [holds, holds, table]
    split
    · next same =>
      subst same
      rw [found]
      exact key
    · rfl
  have accords : (s.mapModel id fun _ => new).Accords (· ∈ s.data) stored :=
    h.toAccords.of_same placed.toConsistent rfl fun other _ => isNew other
  have others : ∀ other ∈ stored, other ≠ id → other ∈ s.data →
      (s.mapModel id fun _ => new).holds Model.isDirty other = true → other ∈ s.changes.updated := by
    intro other ho ne member dirty
    have same : (s.mapModel id fun _ => new).model? other = s.model? other := by rw [table, if_neg (Ne.symm ne)]
    rw [holds_congr same] at dirty
    exact h.noted other ho member dirty
  -- Either the change is noted, or nobody listens and the model is not a member.
  unfold Source.follow
  dsimp only
  split
  · have tracked : ((s.mapModel id fun _ => new).track id).Coherent := by
      obtain ⟨kept, -⟩ := (Coherent.preserved id).follow found keeps event coherent
      unfold Source.follow at kept
      simpa only [*, if_true] using kept
    have frame := track_frame (s.mapModel id fun _ => new) id
    have model? := model?_track (s.mapModel id fun _ => new) id
    have added : ((s.mapModel id fun _ => new).track id).changes.added = s.changes.added := by rw [frame]; rfl
    have removed : ((s.mapModel id fun _ => new).track id).changes.removed = s.changes.removed := by rw [frame]; rfl
    have data : ((s.mapModel id fun _ => new).track id).data = s.data := by rw [frame]; rfl
    refine ⟨⟨?_, ?_, ?_, ?_⟩, ?_⟩
    · exact data ▸ tracked.toConsistent
    · rw [added, removed]
      exact h.mem_stored
    · rw [added]
      intro other ho
      rw [holds_congr (model? other)]
      exact accords.added_new other ho
    · intro other ho
      rw [holds_congr (model? other)]
      exact accords.stored_keyed other ho
    · intro other ho member dirty
      rw [holds_congr (model? other)] at dirty
      by_cases same : other = id
      · subst same
        exact mem_updated_track member (h.toAccords.notAdded ho) (accords.stored_keyed other ho) dirty
      · exact mem_updated_track_of_ne same (others other ho same member dirty)
  · next unheard =>
    refine ⟨accords, fun other ho member dirty => ?_⟩
    by_cases same : other = id
    · subst same
      obtain ⟨m, observer, shown, looked, single⟩ := h.follows.followed other member
      rw [found, Option.some.injEq] at shown
      have unmoved : (s.mapModel other fun _ => new).subscriptions = s.subscriptions := rfl
      rw [unmoved, looked, Option.any_some, keeps.observers, shown, single] at unheard
      simp at unheard
    · exact others other ho same member dirty

theorem data_follow (s : Source) (id : ModelId) (signal : ModelSignal) : (s.follow id signal).data = s.data := by
  unfold Source.follow
  split
  · rfl
  · dsimp only
    split
    · rw [track_frame]
      rfl
    · rfl

/-- All that is reported on the way shows one model, which is the model in the end. -/
theorem Tied.foldl_follow (h : s.Tied (· ∈ s.data) stored) (nodup : s.data.Nodup) (found : s.model? id = some old)
    (keeps : old.Keeps new) (key : new.isNew = old.isNew) {signals : List ModelSignal}
    (shown : ∀ event m, ModelSignal.changed event m ∈ signals → m = new)
    (told : new = old ∨ ∃ event, ModelSignal.changed event new ∈ signals) :
    (signals.foldl (fun s signal => s.follow id signal) s).Tied (· ∈ s.data) stored ∧
      (signals.foldl (fun s signal => s.follow id signal) s).model? id = some new := by
  induction signals generalizing s old with
  | nil =>
    refine ⟨h, ?_⟩
    rcases told with rfl | ⟨event, listed⟩
    · exact found
    · cases listed
  | cons signal rest ih =>
    rw [List.foldl_cons]
    have later : ∀ event m, ModelSignal.changed event m ∈ rest → m = new := fun e m hm => shown e m (.tail _ hm)
    cases signal with
    | warning text =>
      refine ih h nodup found keeps key later (told.imp_right fun ⟨event, listed⟩ => ⟨event, ?_⟩)
      exact (List.mem_cons.1 listed).resolve_left (by simp)
    | changed event m =>
      have same := shown event m (.head _)
      subst same
      have first := h.follow nodup found keeps key event
      have data := data_follow s id (.changed event m)
      obtain ⟨-, here⟩ := (Coherent.preserved id).follow found keeps event ⟨h.toConsistent, nodup⟩
      have result := ih (data.symm ▸ first) (data.symm ▸ nodup) here (.refl m) rfl later (.inl rfl)
      rwa [data] at result

structure WrittenAt (id : ModelId) (s t : Source) : Prop where
  rest : t = { s with
    models := t.models, changes := { s.changes with updated := t.changes.updated }, scheduled := t.scheduled }
  others : ∀ other, other ≠ id → t.model? other = s.model? other

theorem writtenAt_preserved (id : ModelId) (s : Source) : Preserved id (WrittenAt id s) where
  place := fun t old new _ _ h => by
    refine ⟨?_, fun other ne => ?_⟩
    · rw [h.rest]
      rfl
    · rw [model?_mapModel, if_neg (Ne.symm ne), h.others other ne]
  track := fun t _ _ _ _ _ h => by
    refine ⟨?_, fun other ne => ?_⟩
    · rw [track_frame, h.rest]
    · rw [model?_track, h.others other ne]

/-- An edit of a model that spares its key keeps a source tied, whether the model is a member or not. -/
theorem Tied.write (h : s.Tied (· ∈ s.data) stored) (nodup : s.data.Nodup) {f : Tracked → Written (Option Bool)}
    {w : Written (Option Bool)} {tracked : Tracked} (found : s.models[id]? = some tracked)
    (run : Model.Run tracked.model (f tracked).signals (f tracked).model)
    (announces : tracked.model.Announces (f tracked)) (key : (f tracked).model.isNew = tracked.model.isNew)
    (written : s.write id f = some (w, t)) :
    t.Tied (· ∈ t.data) stored ∧ t.model? id = some (f tracked).model ∧ WrittenAt id s t := by
  have here : s.model? id = some tracked.model := by rw [model?, found]; rfl
  have apart := (writtenAt_preserved id s).write (fun other ho => ?_) written ⟨rfl, fun _ _ => rfl⟩
  · simp only [Source.write, found, Option.map_some, Option.some.injEq, Prod.mk.injEq] at written
    obtain ⟨-, result⟩ := written
    obtain ⟨tied, shown⟩ := h.foldl_follow nodup here run.keeps.1 key announces.shown announces.told
    rw [mapModel_self shown] at result
    subst result
    have data : (((f tracked).signals.foldl (fun s signal => s.follow id signal) s)).data = s.data := by
      rw [apart.rest]
    exact ⟨data.symm ▸ tied, shown, apart⟩
  · rw [found, Option.some.injEq] at ho
    exact ho ▸ run

end Edits

end RecordSync.Source
