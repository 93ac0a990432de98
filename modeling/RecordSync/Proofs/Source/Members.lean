import RecordSync.Proofs.Model.Run
import RecordSync.Proofs.Source.Table

/-!
# Steps of a source

What each step of an operation does to the pending changes, said once and for all later proofs: noting a change,
entering and leaving, and a write with everything that is reported on the way.
-/

set_option autoImplicit false

namespace RecordSync.Source

variable {s : Source} {id : ModelId}

theorem schedule_eq (s : Source) : s.schedule = { s with scheduled := s.schedule.scheduled } := by
  unfold schedule
  split <;> rfl

/-- A noted change of a member that the provider knows makes it `updated` or no longer so. -/
theorem track_cases (s : Source) (id : ModelId) :
    s.track id = s ∨
      (id ∈ s.data ∧ id ∉ s.changes.added ∧ id ∉ s.changes.updated ∧ s.holds Model.isNew id = false ∧
        s.holds Model.isDirty id = true ∧
        s.track id = { s with changes := { s.changes with updated := s.changes.updated ++ [id] } }.schedule) ∨
      (id ∈ s.data ∧ id ∉ s.changes.added ∧ s.holds Model.isNew id = false ∧ s.holds Model.isDirty id = false ∧
        s.track id = { s with changes := { s.changes with updated := s.changes.updated.erase id } }) := by
  unfold track
  dsimp only
  split
  · exact .inl rfl
  · next counted =>
    simp only [Bool.or_eq_true, Bool.not_eq_true', not_or, Bool.not_eq_false, List.contains_iff_mem,
      Bool.not_eq_true] at counted
    obtain ⟨⟨member, notAdded⟩, known⟩ := counted
    split
    · next dirty =>
      split
      · exact .inl rfl
      · next fresh =>
        rw [List.contains_iff_mem] at fresh
        exact .inr (.inl ⟨member, notAdded, fresh, known, dirty, rfl⟩)
    · next clean => exact .inr (.inr ⟨member, notAdded, known, by simpa using clean, rfl⟩)

theorem mem_updated_track {s : Source} {id : ModelId} (member : id ∈ s.data) (notAdded : id ∉ s.changes.added)
    (keyed : s.holds Model.isNew id = false) (dirty : s.holds Model.isDirty id = true) :
    id ∈ (s.track id).changes.updated := by
  unfold track
  simp only [List.contains_iff_mem, keyed, dirty, Bool.or_false, if_true]
  split
  · next counted => simp [member, notAdded] at counted
  · split
    · next listed => exact listed
    · rw [schedule_eq]
      exact List.mem_append_right _ (.head _)

theorem mem_updated_track_of_ne {s : Source} {id other : ModelId} (ne : other ≠ id)
    (listed : other ∈ s.changes.updated) : other ∈ (s.track id).changes.updated := by
  rcases track_cases s id with same | ⟨-, -, -, -, -, same⟩ | ⟨-, -, -, -, same⟩
  · rw [same]
    exact listed
  · rw [same, schedule_eq]
    exact List.mem_append_left _ listed
  · rw [same]
    exact (List.mem_erase_of_ne ne).2 listed

theorem track_frame (s : Source) (id : ModelId) :
    s.track id = { s with
      changes := { s.changes with updated := (s.track id).changes.updated }, scheduled := (s.track id).scheduled } := by
  rcases track_cases s id with same | ⟨-, -, -, -, -, same⟩ | ⟨-, -, -, -, same⟩
  · rw [same]
  · rw [same, schedule_eq]
  · rw [same]

theorem attach_with (s : Source) (id : ModelId) (changes : Changes) (removedAt : List (ModelId × Nat)) :
    { s.attach id with changes, removedAt } = ({ s with changes, removedAt } : Source).attach id := by
  have detached : ({ s with changes, removedAt } : Source).detach id = { s.detach id with changes, removedAt } := by
    unfold detach
    cases s.subscriptions.lookup id <;> rfl
  unfold attach
  dsimp only
  rw [detached]
  cases found : (s.detach id).model? id with
  | none =>
    have here : ({ s.detach id with changes, removedAt } : Source).model? id = none := found
    rw [here]
  | some m =>
    have here : ({ s.detach id with changes, removedAt } : Source).model? id = some m := found
    rw [here]
    rfl

theorem attach_with_changes (s : Source) (id : ModelId) (changes : Changes) :
    { s.attach id with changes } = ({ s with changes } : Source).attach id :=
  calc { s.attach id with changes }
    _ = { s.attach id with changes, removedAt := s.removedAt } := by rw [← (attach_reobserved s id).removedAt]
    _ = ({ s with changes } : Source).attach id := attach_with s id changes s.removedAt

theorem detach_with_changes (s : Source) (id : ModelId) (changes : Changes) :
    { s.detach id with changes } = ({ s with changes } : Source).detach id := by
  unfold detach
  cases s.subscriptions.lookup id <;> rfl

/-- A model enters: its removal was still pending, or it is there already, or it is new to the list. -/
theorem enter_cases (s : Source) (id : ModelId) :
    (id ∈ s.changes.removed ∧
      (s.enter id).2 = ({ s with
        changes := { s.changes with
          removed := s.changes.removed.erase id
          updated := if s.holds Model.isDirty id ∧ s.holds Model.isNew id = false ∧ id ∉ s.changes.updated
            then s.changes.updated ++ [id] else s.changes.updated }
        removedAt := s.removedAt.filter fun entry => entry.1 != id } : Source).attach id) ∨
      (id ∉ s.changes.removed ∧ id ∈ s.changes.added ∧ (s.enter id).2 = s.attach id) ∨
      (id ∉ s.changes.removed ∧ id ∉ s.changes.added ∧
        (s.enter id).2 =
          ({ s with changes := { s.changes with added := s.changes.added ++ [id] } } : Source).attach id) := by
  have attached := attach_reobserved s id
  unfold enter
  -- The model is followed first and looked up afterwards, which comes to the same.
  simp only [List.contains_iff_mem, attached.changes, attached.removedAt]
  by_cases pending : id ∈ s.changes.removed
  · refine .inl ⟨pending, ?_⟩
    have same : { s.attach id with
        changes := { s.changes with removed := s.changes.removed.erase id }
        removedAt := s.removedAt.filter fun entry => entry.1 != id }.holds = (s.attach id).holds := rfl
    rw [if_pos pending, same, attached.models.isDirty, attached.models.isNew]
    by_cases carries : s.holds Model.isDirty id ∧ s.holds Model.isNew id = false ∧ id ∉ s.changes.updated
    · rw [if_pos carries, if_pos (by simpa [and_assoc] using carries)]
      exact attach_with s id _ _
    · rw [if_neg carries, if_neg (by simpa [and_assoc] using carries)]
      exact attach_with s id _ _
  · rw [if_neg pending]
    by_cases known : id ∈ s.changes.added
    · rw [if_pos known]
      exact .inr (.inl ⟨pending, known, rfl⟩)
    · rw [if_neg known]
      exact .inr (.inr ⟨pending, known, attach_with s id _ _⟩)

/-- A model that is no longer followed leaves: it was only added, or there is nothing to remove, or its removal is
pending from now on. -/
theorem leave_cases {s t : Source} {id : ModelId} (detached : s.detach id = t) (index : Nat) :
    (id ∈ t.changes.added ∧
      s.leave id index = { t with
        changes := { t.changes with
          added := t.changes.added.erase id
          updated := t.changes.updated.erase id } }) ∨
      (id ∉ t.changes.added ∧ (t.holds Model.isNew id = true ∨ id ∈ t.changes.removed) ∧
        s.leave id index = { t with changes := { t.changes with updated := t.changes.updated.erase id } }) ∨
      (id ∉ t.changes.added ∧ t.holds Model.isNew id = false ∧ id ∉ t.changes.removed ∧
        s.leave id index = { t with
          changes := { t.changes with
            updated := t.changes.updated.erase id
            removed := t.changes.removed ++ [id] }
          removedAt := t.removedAt.filter (fun entry => entry.1 != id) ++ [(id, index)] }) := by
  unfold leave
  simp only [detached, List.contains_iff_mem, Bool.or_eq_true]
  by_cases added : id ∈ t.changes.added
  · rw [if_pos added]
    exact .inl ⟨added, rfl⟩
  · rw [if_neg added]
    by_cases gone : t.holds Model.isNew id = true ∨ id ∈ t.changes.removed
    · rw [if_pos gone]
      exact .inr (.inl ⟨added, gone, rfl⟩)
    · rw [if_neg gone]
      simp only [not_or, Bool.not_eq_true] at gone
      exact .inr (.inr ⟨added, gone.1, gone.2, rfl⟩)

theorem added_leave (s : Source) (id : ModelId) (index : Nat) :
    (s.leave id index).changes.added = s.changes.added.erase id := by
  rw [← (detach_reobserved s id).changes]
  rcases leave_cases (rfl : s.detach id = s.detach id) index with ⟨-, same⟩ | ⟨fresh, -, same⟩ | ⟨fresh, -, -, same⟩
  · rw [same]
  · rw [same, List.erase_of_not_mem fresh]
  · rw [same, List.erase_of_not_mem fresh]

theorem updated_leave (s : Source) (id : ModelId) (index : Nat) :
    (s.leave id index).changes.updated = s.changes.updated.erase id := by
  rw [← (detach_reobserved s id).changes]
  rcases leave_cases (rfl : s.detach id = s.detach id) index with ⟨-, same⟩ | ⟨-, -, same⟩ | ⟨-, -, -, same⟩ <;> rw [same]

theorem mem_removed_leave (s : Source) (id : ModelId) (index : Nat) (other : ModelId) :
    other ∈ (s.leave id index).changes.removed ↔ other ∈ s.changes.removed ∨
      other = id ∧ id ∉ s.changes.added ∧ s.holds Model.isNew id = false := by
  have detached := detach_reobserved s id
  rw [← detached.changes, ← detached.models.isNew]
  rcases leave_cases (rfl : s.detach id = s.detach id) index with
    ⟨added, same⟩ | ⟨fresh, gone, same⟩ | ⟨fresh, keyed, -, same⟩
  · rw [same]
    simp [added]
  · rw [same]
    constructor
    · exact .inl
    · rintro (listed | ⟨rfl, -, keyed⟩)
      · exact listed
      · exact gone.resolve_left (by simp [keyed])
  · rw [same]
    simp [fresh, keyed]

theorem removed_enter (s : Source) (id : ModelId) : (s.enter id).2.changes.removed = s.changes.removed.erase id := by
  rcases enter_cases s id with ⟨-, same⟩ | ⟨kept, -, same⟩ | ⟨kept, -, same⟩
  · rw [same, (attach_reobserved _ id).changes]
  · rw [same, (attach_reobserved _ id).changes, List.erase_of_not_mem kept]
  · rw [same, (attach_reobserved _ id).changes, List.erase_of_not_mem kept]

theorem mem_added_enter (s : Source) (id other : ModelId) : other ∈ (s.enter id).2.changes.added ↔
    other ∈ s.changes.added ∨ other = id ∧ id ∉ s.changes.removed := by
  rcases enter_cases s id with ⟨pending, same⟩ | ⟨kept, known, same⟩ | ⟨kept, -, same⟩
  · rw [same, (attach_reobserved _ id).changes]
    simp [pending]
  · rw [same, (attach_reobserved _ id).changes]
    constructor
    · exact .inl
    · rintro (listed | ⟨rfl, -⟩)
      · exact listed
      · exact known
  · rw [same, (attach_reobserved _ id).changes]
    simp [kept]

theorem mem_updated_enter (s : Source) (id other : ModelId) : other ∈ (s.enter id).2.changes.updated ↔
    other ∈ s.changes.updated ∨
      other = id ∧ id ∈ s.changes.removed ∧ s.holds Model.isDirty id = true ∧ s.holds Model.isNew id = false := by
  rcases enter_cases s id with ⟨pending, same⟩ | ⟨kept, -, same⟩ | ⟨kept, -, same⟩
  · rw [same, (attach_reobserved _ id).changes]
    dsimp only
    split
    · next carries => simp [pending, carries.1, carries.2.1]
    · next carries =>
      constructor
      · exact .inl
      · rintro (listed | ⟨rfl, -, dirty, keyed⟩)
        · exact listed
        · exact Decidable.byContradiction fun fresh => carries ⟨dirty, keyed, fresh⟩
  · rw [same, (attach_reobserved _ id).changes]
    simp [kept]
  · rw [same, (attach_reobserved _ id).changes]
    simp [kept]

theorem leaveAll_cons (s : Source) (start : Nat) (rest : List ModelId) :
    s.leaveAll start (id :: rest) = (s.leave id start).leaveAll (start + 1) rest := rfl

theorem enterAll_cons (s : Source) (rest : List ModelId) :
    (s.enterAll (id :: rest)).2 = ((s.enter id).2.enterAll rest).2 := rfl

theorem enter_frame (s : Source) (id : ModelId) :
    s.Rearranged (s.enter id).2 ∧ (s.enter id).2.data = s.data := by
  rcases enter_cases s id with ⟨-, result⟩ | ⟨-, -, result⟩ | ⟨-, -, result⟩
  · have attached := attach_reobserved ({ s with
      changes := { s.changes with
        removed := s.changes.removed.erase id
        updated := if s.holds Model.isDirty id ∧ s.holds Model.isNew id = false ∧ id ∉ s.changes.updated
          then s.changes.updated ++ [id] else s.changes.updated }
      removedAt := s.removedAt.filter fun entry => entry.1 != id } : Source) id
    rw [result]
    exact ⟨⟨by rw [attached.rest], attached.models⟩, attached.data⟩
  · have attached := attach_reobserved s id
    rw [result]
    exact ⟨attached.rearranged, attached.data⟩
  · have attached := attach_reobserved
      ({ s with changes := { s.changes with added := s.changes.added ++ [id] } } : Source) id
    rw [result]
    exact ⟨⟨by rw [attached.rest], attached.models⟩, attached.data⟩

theorem leave_frame (s : Source) (id : ModelId) (index : Nat) :
    s.Rearranged (s.leave id index) ∧ (s.leave id index).data = s.data := by
  have detached := detach_reobserved s id
  rcases leave_cases rfl index with ⟨-, result⟩ | ⟨-, -, result⟩ | ⟨-, -, -, result⟩ <;> rw [result] <;>
    exact ⟨⟨by rw [detached.rest], detached.models⟩, detached.data⟩

theorem leaveAll_frame (s : Source) (start : Nat) (ids : List ModelId) :
    s.Rearranged (s.leaveAll start ids) ∧ (s.leaveAll start ids).data = s.data := by
  induction ids generalizing s start with
  | nil => exact ⟨.refl s, rfl⟩
  | cons id rest ih =>
    obtain ⟨first, data⟩ := leave_frame s id start
    obtain ⟨later, same⟩ := ih (s.leave id start) (start + 1)
    exact ⟨first.trans later, same.trans data⟩

theorem enterAll_frame (s : Source) (ids : List ModelId) :
    s.Rearranged (s.enterAll ids).2 ∧ (s.enterAll ids).2.data = s.data := by
  induction ids generalizing s with
  | nil => exact ⟨.refl s, rfl⟩
  | cons id rest ih =>
    obtain ⟨first, data⟩ := enter_frame s id
    obtain ⟨later, same⟩ := ih (s.enter id).2
    exact ⟨first.trans later, same.trans data⟩

/-- An exchange puts the models between the members that stay; then those that are cut out leave, and the models
enter. -/
theorem exchange_eq (s : Source) (index count : Nat) (ids : List ModelId) :
    ∃ (placed left : Source) (removed : List ModelId) (start scheduled : Nat),
      s.data = s.data.take index ++ removed ++ s.data.drop (index + count) ∧
      placed = { s with data := s.data.take index ++ ids ++ s.data.drop (index + count) } ∧
      left = placed.leaveAll start removed ∧
      (s.exchange index count ids).2 = { (left.enterAll ids).2 with scheduled } := by
  have before : s.data.take (min index s.data.length) = s.data.take index := by
    rw [← List.take_take, List.take_length]
  have after : s.data.drop (min index s.data.length + ((s.data.drop (min index s.data.length)).take count).length) =
      s.data.drop (index + count) := by
    rw [List.length_take, List.length_drop]
    by_cases inside : index + count ≤ s.data.length
    · rw [Nat.min_eq_left (by omega), Nat.min_eq_left (by omega)]
    · rw [List.drop_of_length_le (by omega), List.drop_of_length_le (by omega)]
  have whole : s.data = s.data.take index ++ (s.data.drop (min index s.data.length)).take count ++
      s.data.drop (index + count) := by
    have rest : (s.data.drop (min index s.data.length)).drop count = s.data.drop (index + count) := by
      rw [List.drop_drop]
      by_cases inside : index ≤ s.data.length
      · rw [Nat.min_eq_left inside]
      · rw [List.drop_of_length_le (by omega), List.drop_of_length_le (by omega)]
    rw [List.append_assoc, ← rest, List.take_append_drop, ← before, List.take_append_drop]
  have shape : ∃ scheduled, (s.exchange index count ids).2 =
      { ((({ s with data := s.data.take index ++ ids ++ s.data.drop (index + count) } : Source).leaveAll
          (min index s.data.length) ((s.data.drop (min index s.data.length)).take count)).enterAll ids).2 with
        scheduled } := by
    unfold exchange
    dsimp only
    rw [before, after]
    split
    · exact ⟨_, schedule_eq _⟩
    · exact ⟨_, rfl⟩
  obtain ⟨scheduled, shape⟩ := shape
  exact ⟨_, _, _, _, scheduled, whole, rfl, rfl, shape⟩

theorem exchange_frame (s : Source) (index count : Nat) (ids : List ModelId) :
    s.Rearranged (s.exchange index count ids).2 ∧
      (s.exchange index count ids).2.data = s.data.take index ++ ids ++ s.data.drop (index + count) := by
  obtain ⟨placed, left, removed, start, scheduled, -, hplaced, hleft, result⟩ := exchange_eq s index count ids
  obtain ⟨leaving, leftData⟩ := leaveAll_frame placed start removed
  obtain ⟨entering, enteredData⟩ := enterAll_frame left ids
  have put : s.Rearranged placed := by
    rw [hplaced]
    exact ⟨rfl, rfl⟩
  have both := put.trans (hleft ▸ leaving |>.trans entering)
  rw [result]
  refine ⟨⟨by rw [both.rest], both.models⟩, ?_⟩
  show (left.enterAll ids).2.data = _
  rw [enteredData, hleft, leftData, hplaced]

theorem replace_frame (s : Source) (ids : List ModelId) :
    s.Rearranged (s.replace ids) ∧ (s.replace ids).data = ids ∧ (s.replace ids).changes = {} ∧
      (s.replace ids).removedAt = [] := by
  have attached := attachAll_reobserved { s.detachAll with data := ids, changes := {}, removedAt := [] } ids
  have detached := detachAll_reobserved s
  have cleared : s.Rearranged { s.detachAll with data := ids, changes := {}, removedAt := [] } :=
    ⟨by rw [detached.rest], detached.models⟩
  exact ⟨cleared.trans attached.rearranged, attached.data, attached.changes, attached.removedAt⟩

/-- A model whose removal is pending comes back into the list, and all else that changes is who observes it. -/
theorem restore_cases (s : Source) (id : ModelId) :
    (id ∉ s.changes.removed ∧ s.restore id = s) ∨
      (id ∈ s.changes.removed ∧ ∃ index, index ≤ s.data.length ∧
        s.restore id = { ({ s with
          changes := { s.changes with removed := s.changes.removed.erase id }
          removedAt := s.removedAt.filter fun entry => entry.1 != id } : Source).attach id with
          data := s.data.insertIdx index id }) := by
  unfold restore
  split
  · next pending =>
    have data := (attach_reobserved ({ s with
      changes := { s.changes with removed := s.changes.removed.erase id }
      removedAt := s.removedAt.filter fun entry => entry.1 != id } : Source) id).data
    refine .inr ⟨List.contains_iff_mem.1 pending, min ((s.removedAt.lookup id).getD s.data.length) s.data.length,
      Nat.min_le_right _ _, ?_⟩
    dsimp only
    rw [data]
  · next settled => exact .inl ⟨fun pending => settled (List.contains_iff_mem.2 pending), rfl⟩

theorem restore_eq_enter {s : Source} {id : ModelId} (pending : id ∈ s.changes.removed)
    (clean : s.holds Model.isDirty id = false) :
    ∃ index, index ≤ s.data.length ∧ s.restore id = { (s.enter id).2 with data := s.data.insertIdx index id } := by
  obtain ⟨settled, -⟩ | ⟨-, index, place, result⟩ := restore_cases s id
  · exact absurd pending settled
  · refine ⟨index, place, ?_⟩
    obtain ⟨-, entered⟩ | ⟨kept, -⟩ | ⟨kept, -⟩ := enter_cases s id
    · rw [if_neg fun carries => by simp [clean] at carries] at entered
      rw [entered, result]
    · exact absurd pending kept
    · exact absurd pending kept

theorem restore_frame (s : Source) (id : ModelId) : s.Rearranged (s.restore id) := by
  rcases restore_cases s id with ⟨-, same⟩ | ⟨-, index, -, result⟩
  · rw [same]
    exact .refl s
  · have attached := attach_reobserved ({ s with
      changes := { s.changes with removed := s.changes.removed.erase id }
      removedAt := s.removedAt.filter fun entry => entry.1 != id } : Source) id
    rw [result]
    exact ⟨by rw [attached.rest], attached.models⟩

theorem submitAll_frame (s : Source) (ids : List ModelId) :
    (ids.foldl (fun s id => s.mapModel id Model.submit) s).data = s.data ∧
      (ids.foldl (fun s id => s.mapModel id Model.submit) s).models.length = s.models.length := by
  induction ids generalizing s with
  | nil => exact ⟨rfl, rfl⟩
  | cons id rest ih =>
    obtain ⟨data, length⟩ := ih (s.mapModel id Model.submit)
    exact ⟨data, length.trans (length_mapModel s id _)⟩

theorem submit_eq (s : Source) : ∃ t origin,
    t = (s.changes.added ++ s.changes.updated).foldl (fun s id => s.mapModel id Model.submit) s ∧
      s.submit = { t with changes := {}, removedAt := [], origin } :=
  ⟨_, _, rfl, rfl⟩

theorem mem_without_cut {before cut after : List ModelId} (nodup : (before ++ cut ++ after).Nodup) (id : ModelId) :
    id ∈ before ++ cut ++ after ∧ id ∉ cut ↔ id ∈ before ++ after := by
  obtain ⟨front, -, apart⟩ := List.nodup_append.1 nodup
  obtain ⟨-, -, apart'⟩ := List.nodup_append.1 front
  simp only [List.mem_append]
  constructor
  · rintro ⟨(hb | hc) | ha, notCut⟩
    · exact .inl hb
    · exact absurd hc notCut
    · exact .inr ha
  · rintro (hb | ha)
    · exact ⟨.inl (.inl hb), fun hc => apart' id hb id hc rfl⟩
    · exact ⟨.inr ha, fun hc => apart id (List.mem_append_right _ hc) id ha rfl⟩

theorem nodup_with_cut {before cut after ids : List ModelId} (nodup : (before ++ cut ++ after).Nodup)
    (distinct : ids.Nodup) (outside : ∀ id ∈ ids, id ∉ before ++ after) : (before ++ ids ++ after).Nodup := by
  have rest : (before ++ after).Nodup :=
    nodup.sublist ((List.sublist_append_left before cut).append_right after)
  have turned : (before ++ ids ++ after).Perm (ids ++ (before ++ after)) := by
    rw [← List.append_assoc]
    exact List.perm_append_comm.append_right after
  rw [turned.nodup_iff]
  exact List.nodup_append.2 ⟨distinct, rest, fun a ha b hb same => outside a ha (same ▸ hb)⟩

/-- What members may leave and models may enter without harm to, exchanges preserve. -/
theorem exchange_preserves {P : Source → Prop} (relist : ∀ s data scheduled, P s → P { s with data, scheduled })
    (leave : ∀ s id index, P s → P (s.leave id index)) (enter : ∀ s id, P s → P (s.enter id).2) (index count : Nat)
    (ids : List ModelId) (hp : P s) : P (s.exchange index count ids).2 := by
  obtain ⟨placed, left, removed, start, scheduled, -, hplaced, hleft, result⟩ := exchange_eq s index count ids
  have leaves (removed : List ModelId) (start : Nat) {u : Source} (hu : P u) : P (u.leaveAll start removed) := by
    induction removed generalizing u start with
    | nil => exact hu
    | cons id rest ih => exact ih (start + 1) (leave u id start hu)
  have enters (ids : List ModelId) {u : Source} (hu : P u) : P (u.enterAll ids).2 := by
    induction ids generalizing u with
    | nil => exact hu
    | cons id rest ih => exact ih (enter u id hu)
  have first : P placed := by
    rw [hplaced]
    exact relist s _ s.scheduled hp
  rw [result]
  exact relist _ _ scheduled (enters ids (hleft ▸ leaves removed start first))

structure Exchanges (incoming : List ModelId) (P : Source → (ModelId → Prop) → Prop) : Prop where
  congr : ∀ {s : Source} {members others : ModelId → Prop}, P s members → (∀ id, members id ↔ others id) → P s others
  relist : ∀ {s : Source} {members : ModelId → Prop} (data : List ModelId) (scheduled : Nat), P s members →
    P { s with data, scheduled } members
  leave : ∀ {s : Source} {members : ModelId → Prop} {id : ModelId} (index : Nat), P s members → members id →
    P (s.leave id index) fun other => members other ∧ other ≠ id
  enter : ∀ {s : Source} {members : ModelId → Prop} {id : ModelId}, P s members → id ∈ incoming → ¬ members id →
    P (s.enter id).2 fun other => other = id ∨ members other

namespace Exchanges

variable {incoming : List ModelId} {P : Source → (ModelId → Prop) → Prop} (h : Exchanges incoming P)
include h

theorem leaveAll {members : ModelId → Prop} (hp : P s members) (start : Nat) {ids : List ModelId} (nodup : ids.Nodup)
    (inside : ∀ id ∈ ids, members id) :
    P (s.leaveAll start ids) fun other => members other ∧ other ∉ ids := by
  induction ids generalizing s start members with
  | nil => exact h.congr hp fun _ => by simp
  | cons id rest ih =>
    obtain ⟨alone, nodup⟩ := List.nodup_cons.1 nodup
    rw [leaveAll_cons]
    have later : ∀ other ∈ rest, members other ∧ other ≠ id := by
      refine fun other ho => ⟨inside other (.tail _ ho), ?_⟩
      rintro rfl
      exact alone ho
    refine h.congr (ih (h.leave start hp (inside id (.head _))) _ nodup later) fun other => ?_
    simp only [List.mem_cons, not_or, and_assoc]

theorem enterAll {members : ModelId → Prop} (hp : P s members) {ids : List ModelId} (nodup : ids.Nodup)
    (listed : ∀ id ∈ ids, id ∈ incoming) (outside : ∀ id ∈ ids, ¬ members id) :
    P (s.enterAll ids).2 fun other => other ∈ ids ∨ members other := by
  induction ids generalizing s members with
  | nil => exact h.congr hp fun _ => by simp
  | cons id rest ih =>
    obtain ⟨alone, nodup⟩ := List.nodup_cons.1 nodup
    rw [enterAll_cons]
    have entered := h.enter hp (listed id (.head _)) (outside id (.head _))
    have apart : ∀ other ∈ rest, ¬ (other = id ∨ members other) := by
      rintro other ho (rfl | hm)
      · exact alone ho
      · exact outside other (.tail _ ho) hm
    refine h.congr (ih entered nodup (fun other ho => listed other (.tail _ ho)) apart) fun other => ?_
    simp only [List.mem_cons]
    constructor
    · rintro (hr | rfl | hm)
      · exact .inl (.inr hr)
      · exact .inl (.inl rfl)
      · exact .inr hm
    · rintro ((rfl | hr) | hm)
      · exact .inr (.inl rfl)
      · exact .inl hr
      · exact .inr (.inr hm)

theorem exchange {index count : Nat} (hp : P s (· ∈ s.data)) (distinct : s.data.Nodup) (nodup : incoming.Nodup)
    (outside : ∀ id ∈ incoming, id ∉ s.data.take index ++ s.data.drop (index + count)) :
    P (s.exchange index count incoming).2 (· ∈ (s.exchange index count incoming).2.data) := by
  obtain ⟨placed, left, removed, start, scheduled, whole, hplaced, hleft, result⟩ := exchange_eq s index count incoming
  obtain ⟨-, data⟩ := exchange_frame s index count incoming
  have inside : ∀ id ∈ removed, id ∈ s.data := by
    intro id hid
    rw [whole]
    simp [hid]
  rw [whole] at distinct
  have cut : removed.Nodup :=
    distinct.sublist ((List.sublist_append_right _ _).trans (List.sublist_append_left _ _))
  have stay (id : ModelId) :
      id ∈ s.data ∧ id ∉ removed ↔ id ∈ s.data.take index ++ s.data.drop (index + count) := by
    have same := mem_without_cut distinct id
    rwa [← whole] at same
  have placedFits : P placed (· ∈ s.data) := by
    have relisted := h.relist (s.data.take index ++ incoming ++ s.data.drop (index + count)) s.scheduled hp
    rwa [hplaced]
  have leftFits := h.congr (h.leaveAll placedFits start cut inside) stay
  rw [← hleft] at leftFits
  have entered := h.enterAll leftFits nodup (fun _ hid => hid) outside
  have listed (id : ModelId) : (id ∈ incoming ∨ id ∈ s.data.take index ++ s.data.drop (index + count)) ↔
      id ∈ s.data.take index ++ incoming ++ s.data.drop (index + count) := by
    simp only [List.mem_append]
    constructor
    · rintro (hi | hb | ha)
      · exact .inl (.inr hi)
      · exact .inl (.inl hb)
      · exact .inr ha
    · rintro ((hb | hi) | ha)
      · exact .inr (.inl hb)
      · exact .inl hi
      · exact .inr (.inr ha)
  rw [data, result]
  exact h.relist _ scheduled (h.congr entered listed)

end Exchanges

theorem nodup_exchange {index count : Nat} {ids : List ModelId} (distinct : s.data.Nodup) (nodup : ids.Nodup)
    (outside : ∀ id ∈ ids, id ∉ s.data.take index ++ s.data.drop (index + count)) :
    (s.data.take index ++ ids ++ s.data.drop (index + count)).Nodup := by
  obtain ⟨-, -, removed, -, -, whole, -⟩ := exchange_eq s index count ids
  rw [whole] at distinct
  exact nodup_with_cut distinct nodup outside

/-- A property that writes to one model preserve: with the model put in place, and with the change noted when the
source follows the model. -/
structure Preserved (id : ModelId) (P : Source → Prop) : Prop where
  place : ∀ (s : Source) (old new : Model), s.model? id = some old → old.Keeps new → P s →
    P (s.mapModel id fun _ => new)
  track : ∀ (s : Source) (m : Model) (observer : Nat), s.model? id = some m →
    s.subscriptions.lookup id = some observer → observer ∈ m.observers → P s → P (s.track id)

theorem model?_track (s : Source) (id other : ModelId) : (s.track id).model? other = s.model? other := by
  rw [track_frame]
  rfl

theorem reset_run (s : Source) (id : ModelId) : ∀ tracked, s.models[id]? = some tracked →
    Model.Run tracked.model tracked.model.reset.signals tracked.model.reset.model :=
  fun tracked _ => Model.Run.single tracked.model .reset

namespace Preserved

variable {P : Source → Prop} (h : Preserved id P)
include h

theorem follow {m shown : Model} (found : s.model? id = some m) (keeps : m.Keeps shown) (event : ChangeEvent)
    (hp : P s) : P (s.follow id (.changed event shown)) ∧
      (s.follow id (.changed event shown)).model? id = some shown := by
  have placed := h.place s m shown found keeps hp
  have here : (s.mapModel id fun _ => shown).model? id = some shown := by
    rw [model?_mapModel, if_pos rfl, found]
    rfl
  unfold Source.follow
  dsimp only
  split
  · next heard =>
    have unmoved : (s.mapModel id fun _ => shown).subscriptions = s.subscriptions := rfl
    obtain ⟨observer, looked, live⟩ : ∃ observer,
        s.subscriptions.lookup id = some observer ∧ shown.observers.contains observer = true := by
      rw [unmoved] at heard
      cases looked : s.subscriptions.lookup id with
      | none => rw [looked] at heard; cases heard
      | some observer => rw [looked] at heard; exact ⟨observer, rfl, heard⟩
    rw [List.contains_iff_mem] at live
    exact ⟨h.track _ shown observer here looked live placed, by rw [model?_track, here]⟩
  · exact ⟨placed, here⟩

theorem foldl_follow {m : Model} {signals : List ModelSignal} (found : s.model? id = some m)
    (keeps : m.KeepsIn signals) (hp : P s) :
    P (signals.foldl (fun s signal => s.follow id signal) s) ∧
      ∃ last, (signals.foldl (fun s signal => s.follow id signal) s).model? id = some last ∧ m.Keeps last := by
  induction signals generalizing s m with
  | nil => exact ⟨hp, m, found, .refl m⟩
  | cons signal rest ih =>
    rw [List.foldl_cons]
    cases signal with
    | warning text => exact ih found (fun event shown hs => keeps event shown (.tail _ hs)) hp
    | changed event shown =>
      obtain ⟨first, later⟩ := keeps.tail
      obtain ⟨kept, here⟩ := h.follow found first event hp
      obtain ⟨kept, last, shownLast, keepsLast⟩ := ih here later kept
      exact ⟨kept, last, shownLast, first.trans keepsLast⟩

/-- A write is preserved as a whole when its signals belong to a run of the model. -/
theorem write {α : Type} {f : Tracked → Written α} {w : Written α} {t : Source}
    (run : ∀ tracked, s.models[id]? = some tracked → Model.Run tracked.model (f tracked).signals (f tracked).model)
    (written : s.write id f = some (w, t)) (hp : P s) : P t := by
  obtain ⟨tracked, found, result⟩ := Option.map_eq_some_iff.1 written
  simp only [Prod.mk.injEq] at result
  obtain ⟨-, rfl⟩ := result
  have here : s.model? id = some tracked.model := by rw [model?, found]; rfl
  obtain ⟨keeps, keepsIn⟩ := (run tracked found).keeps
  obtain ⟨kept, last, shown, keepsLast⟩ := h.foldl_follow here keepsIn hp
  exact h.place _ last _ shown (keepsLast.symm.trans keeps) kept

theorem perform (composed : ∀ tracked ∈ s.models, tracked.fields.Composed) {change : ModelCommand}
    {w : Written (Option Bool)} {t : Source}
    (written : s.write id (fun tracked => tracked.model.perform tracked.fields change) = some (w, t)) (hp : P s) :
    P t := by
  refine h.write (fun tracked found => ?_) written hp
  exact Model.perform_run (composed tracked (List.mem_of_getElem? found)) tracked.model change

theorem resetModel
    (clean : ∀ t : Source, P t → P { t with changes := { t.changes with updated := t.changes.updated.erase id } })
    (hp : P s) : P (s.resetModel id) := by
  unfold Source.resetModel
  split
  · exact hp
  · next w t written =>
    exact clean t (h.write (reset_run s id) written hp)

end Preserved

section Undone

variable {P : Source → Prop}

theorem removeFirst_preserves (hp : P s) (exchange : ∀ index, P (s.exchange index 1 []).2) (p : ModelId → Bool) :
    P (s.removeFirst p).2 := by
  unfold removeFirst
  split
  · exact hp
  · next index _ => exact exchange index

theorem cancel_preserves (hp : P s) (exchange : ∀ index, P (s.exchange index 1 []).2) (reset : P (s.resetModel id))
    (restore : ∀ t : Source, P t → P (t.restore id)) : P (s.cancel id) := by
  unfold cancel
  split
  · exact removeFirst_preserves hp exchange (· == id)
  · refine restore _ ?_
    split
    · exact reset
    · exact hp

end Undone

end RecordSync.Source
