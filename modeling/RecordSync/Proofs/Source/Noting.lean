import RecordSync.Proofs.Source.History

/-!
# Which members are updated

A source means a member to be updated when it has edits that the provider does not know of: it is dirty, it has a key,
and it has not just been added. Every such member is among the updated ones, whatever is done to the models. The
converse asks for more: a source is told of a submitted model only by what happens to it next, and passes over reports
of a model without a key.
-/

set_option autoImplicit false

namespace RecordSync.Source

variable {s t : Source}

/-- Every edited member is updated, unless it has been added. -/
def Noted (s : Source) (members : ModelId → Prop) : Prop :=
  ∀ id, members id → id ∉ s.changes.added → s.Edited id → id ∈ s.changes.updated

/-- Every updated model is edited. -/
def Warranted (s : Source) : Prop := ∀ id ∈ s.changes.updated, s.Edited id

theorem SameModels.edited (h : s.SameModels t) (id : ModelId) : t.Edited id ↔ s.Edited id := by
  rw [Edited, Edited, h.isNew, h.isDirty]

theorem Enrolled.not_edited {items : List Item} {ids : List ModelId} (e : s.Enrolled items ids t) {id : ModelId}
    (new : s.models.length ≤ id) : ¬ t.Edited id := by
  refine not_edited_of_clean ?_
  obtain ⟨built, models, fresh⟩ := e.grown
  rw [holds, Source.model?, models, List.getElem?_append_right new]
  cases found : built[id - s.models.length]? with
  | none => rfl
  | some tracked =>
    obtain ⟨uuid, entity, -, hb⟩ := fresh tracked (List.mem_of_getElem? found)
    simpa using Sound.clean_of_built hb

theorem Enrolled.not_edited_of_entities {entities : List Entity} {ids : List ModelId}
    (e : s.Enrolled (entities.map .entity) ids t) {id : ModelId} (listed : id ∈ ids) : ¬ t.Edited id := by
  rcases e.mem_ids id listed with handle | ⟨new, -⟩
  · rw [Item.handles_entities] at handle
    cases handle
  · exact e.not_edited new

theorem submitAll_model? {ids : List ModelId} {id : ModelId} (unlisted : id ∉ ids) :
    (ids.foldl (fun s id => s.mapModel id Model.submit) s).model? id = s.model? id := by
  induction ids generalizing s with
  | nil => rfl
  | cons other rest ih =>
    obtain ⟨ne, later⟩ := List.ne_and_not_mem_of_not_mem_cons unlisted
    rw [List.foldl_cons, ih later, model?_mapModel, if_neg (Ne.symm ne)]

theorem submitAll_clean {ids : List ModelId} {id : ModelId}
    (settled : id ∈ ids ∨ s.holds Model.isDirty id = false) :
    (ids.foldl (fun s id => s.mapModel id Model.submit) s).holds Model.isDirty id = false := by
  induction ids generalizing s with
  | nil => simpa using settled
  | cons other rest ih =>
    refine ih (or_iff_not_imp_left.2 fun unlisted => ?_)
    rw [holds, model?_mapModel]
    by_cases same : other = id
    · rw [if_pos same]
      cases s.model? id <;> rfl
    · rw [if_neg same]
      exact settled.resolve_left fun listed => (List.mem_cons.1 listed).elim (fun h => same h.symm) unlisted

namespace Noted

variable {members : ModelId → Prop} {id : ModelId}

theorem congr (h : s.Noted members) {others : ModelId → Prop} (same : ∀ id, members id ↔ others id) :
    s.Noted others :=
  fun id member => h id ((same id).2 member)

theorem leave (h : s.Noted members) (index : Nat) :
    (s.leave id index).Noted fun other => members other ∧ other ≠ id := by
  rintro other ⟨member, ne⟩ notAdded edited
  rw [added_leave, List.mem_erase_of_ne ne] at notAdded
  rw [(leave_frame s id index).1.models.edited] at edited
  rw [updated_leave, List.mem_erase_of_ne ne]
  exact h other member notAdded edited

/-- An edited model is updated when it comes back, and otherwise it is added. -/
theorem enter (h : s.Noted members) (outside : ¬ members id) :
    (s.enter id).2.Noted fun other => other = id ∨ members other := by
  intro other member notAdded edited
  rw [mem_added_enter, not_or] at notAdded
  rw [(enter_frame s id).1.models.edited] at edited
  rw [mem_updated_enter]
  rcases member with rfl | member
  · refine .inr ⟨rfl, ?_, edited.2, edited.1⟩
    exact Decidable.byContradiction fun kept => notAdded.2 ⟨rfl, kept⟩
  · exact .inl (h other member notAdded.1 edited)

theorem exchanges (incoming : List ModelId) : Exchanges incoming Noted where
  congr := fun h same => h.congr same
  relist := fun _ _ h => h
  leave := fun index h _ => h.leave index
  enter := fun h _ outside => h.enter outside

theorem enrolled (h : s.Noted members) {items : List Item} {ids : List ModelId} (e : s.Enrolled items ids t) :
    t.Noted members := by
  intro id member notAdded edited
  rw [e.rest] at notAdded ⊢
  have old : id < s.models.length := Nat.lt_of_not_le fun new => e.not_edited new edited
  rw [edited_congr (e.model? old)] at edited
  exact h id member notAdded edited

theorem replace {ids : List ModelId} (settled : ∀ id ∈ ids, ¬ s.Edited id) :
    (s.replace ids).Noted (· ∈ (s.replace ids).data) := by
  obtain ⟨same, data, -⟩ := replace_frame s ids
  intro id member _ edited
  rw [same.models.edited] at edited
  exact absurd edited (settled id (data ▸ member))

theorem write (h : s.Noted (· ∈ s.data)) (coherent : s.Coherent) (sound : s.Sound) {α : Type}
    {f : Tracked → Written α} {w : Written α}
    (run : ∀ tracked, s.models[id]? = some tracked → Model.Run tracked.model (f tracked).signals (f tracked).model)
    (written : s.write id f = some (w, t)) : t.Noted (· ∈ t.data) := by
  obtain ⟨tracked, -, outcome⟩ := write_outcome run written
  have data : t.data = s.data := by rw [outcome.rest]
  have added : t.changes.added = s.changes.added := by rw [outcome.rest]
  rw [data]
  intro other member notAdded edited
  rw [added] at notAdded
  by_cases same : other = id
  · subst same
    exact mem_updated_of_edited coherent member notAdded (fun _ => h other member notAdded) run (sound.accounted other)
      written edited
  · rw [outcome.updated other same]
    exact h other member notAdded ((edited_congr (outcome.others other same)).1 edited)

theorem settle (h : s.Noted members) (clean : ¬ s.Edited id) :
    ({ s with changes := { s.changes with updated := s.changes.updated.erase id } } : Source).Noted members := by
  intro other member notAdded edited
  have ne : other ≠ id := by
    rintro rfl
    exact clean edited
  exact (List.mem_erase_of_ne ne).2 (h other member notAdded edited)

theorem restore (h : s.Noted (· ∈ s.data)) (clean : ¬ s.Edited id) :
    (s.restore id).Noted (· ∈ (s.restore id).data) := by
  have same := (restore_frame s id).models
  rcases restore_cases s id with ⟨-, unchanged⟩ | ⟨-, index, place, result⟩
  · rw [unchanged]
    exact h
  · intro other member notAdded edited
    rw [same.edited] at edited
    rw [result] at member notAdded ⊢
    rw [(attach_reobserved _ id).changes] at notAdded ⊢
    rcases (List.mem_insertIdx place).1 member with rfl | member
    · exact absurd edited clean
    · exact h other member notAdded edited

theorem resetModel (h : s.Noted (· ∈ s.data)) (coherent : s.Coherent) (sound : s.Sound) (id : ModelId) :
    (s.resetModel id).Noted (· ∈ (s.resetModel id).data) ∧ ¬ (s.resetModel id).Edited id := by
  unfold Source.resetModel
  split
  · next unknown =>
    refine ⟨h, not_edited_of_clean (s := s) ?_⟩
    rw [Source.write, Option.map_eq_none_iff] at unknown
    rw [holds, model?, unknown]
    rfl
  · next w t written =>
    have run := reset_run s id
    obtain ⟨tracked, rfl, outcome⟩ := write_outcome run written
    have clean : ¬ t.Edited id := by
      refine not_edited_of_clean ?_
      rw [holds_of_model? outcome.placed]
      exact Model.reset_clean (sound.accounted id _ outcome.model?)
    exact ⟨(h.write coherent sound run written).settle clean, clean⟩

theorem exchange (h : s.Noted (· ∈ s.data)) (coherent : s.Coherent) {index count : Nat} {ids : List ModelId}
    (nodup : ids.Nodup) (outside : ∀ id ∈ ids, id ∉ s.data.take index ++ s.data.drop (index + count)) :
    (s.exchange index count ids).2.Noted (· ∈ (s.exchange index count ids).2.data) :=
  (exchanges ids).exchange h coherent.nodup nodup outside

theorem cancel (h : s.Noted (· ∈ s.data)) (coherent : s.Coherent) (sound : s.Sound) (id : ModelId) :
    (s.cancel id).Noted (· ∈ (s.cancel id).data) := by
  unfold Source.cancel
  split
  · exact removeFirst_preserves (P := fun t => t.Noted (· ∈ t.data)) h
      (fun index => h.exchange coherent List.nodup_nil (by simp)) (· == id)
  · dsimp only
    split
    · obtain ⟨noted, clean⟩ := h.resetModel coherent sound id
      exact noted.restore clean
    · next clean => exact h.restore (not_edited_of_clean (by simpa using clean))

theorem submit (h : s.Noted (· ∈ s.data)) : s.submit.Noted (· ∈ s.submit.data) := by
  obtain ⟨u, origin, hu, result⟩ := submit_eq s
  obtain ⟨data, -⟩ := submitAll_frame s (s.changes.added ++ s.changes.updated)
  rw [← hu] at data
  rw [result]
  intro id member _ edited
  replace member : id ∈ s.data := data ▸ member
  replace edited : u.Edited id := edited
  -- A member that has not been submitted had no edits.
  by_cases listed : id ∈ s.changes.added ++ s.changes.updated
  · refine absurd edited (not_edited_of_clean ?_)
    rw [hu]
    exact submitAll_clean (.inl listed)
  · rw [hu, edited_congr (submitAll_model? listed)] at edited
    rw [List.mem_append, not_or] at listed
    exact absurd (h id member listed.1 edited) listed.2

theorem advance (h : s.Noted members) (tasks : List SyncTask) : (s.syncNext tasks).source.Noted members := by
  have settled (id : ModelId) (listed : id ∈ s.changes.updated) :
      id ∉ (s.syncNext tasks).source.changes.updated → s.holds Model.isDirty id = false := clean_of_syncNext listed
  obtain ⟨updated, origin, shape, -⟩ := syncNext_source s tasks
  rw [shape] at settled ⊢
  intro id member notAdded edited
  have listed := h id member notAdded edited
  exact Decidable.byContradiction fun unlisted => not_edited_of_clean (settled id listed unlisted) edited

theorem accept (h : s.Noted members) (call : SyncCall) (answer : call.request.Answer) :
    (s.accept call answer).Noted members := by
  have clean (id : ModelId) (saved : Entity) : ¬ (s.rebind id saved).Edited id := by
    refine not_edited_of_clean ?_
    rw [holds, rebind_model?_self]
    cases s.model? id <;> rfl
  have others {id other : ModelId} (saved : Entity) (ne : other ≠ id) :
      (s.rebind id saved).Edited other ↔ s.Edited other := edited_congr (rebind_model?_of_ne ne saved)
  cases call with
  | create id entity =>
    intro other member notAdded edited
    have ne : other ≠ id := by
      rintro rfl
      exact clean other answer edited
    exact h other member (fun added => notAdded ((List.mem_erase_of_ne ne).2 added)) ((others answer ne).1 edited)
  | update id key changes =>
    intro other member notAdded edited
    have ne : other ≠ id := by
      rintro rfl
      exact clean other answer edited
    exact (List.mem_erase_of_ne ne).2 (h other member notAdded ((others answer ne).1 edited))
  | remove id key => exact h

theorem effect (h : s.Noted (· ∈ s.data)) (coherent : s.Coherent) (sound : s.Sound) {command : SourceCommand}
    (effect : s.Effect command t) (fresh : command.Fresh s)
    (settled : ∀ items, command = .setData items → ∀ id ∈ Item.handles items, ¬ s.Edited id)
    (known : ∀ id ∈ Item.handles command.items, id < s.models.length)
    (composed : ∀ tracked ∈ s.models, tracked.fields.Composed) : t.Noted (· ∈ t.data) := by
  cases effect with
  | nothing => exact h
  | @exchange ids u index count e staying =>
    have data : u.data = s.data := by rw [e.rest]
    exact exchange (data.symm ▸ h.enrolled e) (coherent.enrolled e) (e.nodup known fresh.distinct)
      (coherent.outside fresh e staying)
  | @setData items ids u same e =>
    refine replace fun id hid => ?_
    rcases e.mem_ids id hid with listed | ⟨new, -⟩
    · rw [edited_congr (e.model? (known id listed))]
      subst same
      exact settled items rfl id listed
    · exact e.not_edited new
  | cancelAll _ e => exact replace fun id hid => e.not_edited_of_entities hid
  | cancel _ => exact h.cancel coherent sound _
  | submit _ => exact h.submit
  | edit _ written =>
    exact h.write coherent sound
      (fun tracked found => Model.perform_run (composed tracked (List.mem_of_getElem? found)) _ _) written

end Noted

def IsOvert (s : Source) (id : ModelId) (change : ModelCommand) : Prop :=
  ∀ tracked, s.models[id]? = some tracked →
    Model.OvertRun tracked.model (tracked.model.perform tracked.fields change).signals
      (tracked.model.perform tracked.fields change).model

/-- An edit is overt if its command is, as long as setters go by overt commands. -/
theorem isOvert_of_setters (setters : ∀ tracked ∈ s.models, tracked.fields.Overt) (id : ModelId)
    {change : ModelCommand} (overt : change.isOvert = true) : s.IsOvert id change :=
  fun tracked found => Model.perform_overtRun (setters tracked (List.mem_of_getElem? found)) tracked.model overt

theorem isOvert_of_plain (plain : s.models.all (·.fields.isEmpty) = true) (id : ModelId) {change : ModelCommand}
    (overt : change.isOvert = true) : s.IsOvert id change := by
  refine isOvert_of_setters (fun tracked listed => ?_) id overt
  rw [List.isEmpty_iff.1 (List.all_eq_true.1 plain tracked listed)]
  exact VirtualFields.overt_nil

namespace Warranted

variable {id : ModelId}

theorem of_none (none : s.changes.updated = []) : s.Warranted := by
  intro id listed
  rw [none] at listed
  cases listed

theorem sublist (h : s.Warranted) (models : ∀ id ∈ s.changes.updated, t.model? id = s.model? id)
    (sub : ∀ id ∈ t.changes.updated, id ∈ s.changes.updated) : t.Warranted := by
  intro id listed
  have before := sub id listed
  exact (edited_congr (models id before)).2 (h id before)

theorem leave (h : s.Warranted) (id : ModelId) (index : Nat) : (s.leave id index).Warranted := by
  intro other listed
  rw [updated_leave] at listed
  exact ((leave_frame s id index).1.models.edited other).2 (h other (List.mem_of_mem_erase listed))

theorem enter (h : s.Warranted) (id : ModelId) : (s.enter id).2.Warranted := by
  intro other listed
  rw [(enter_frame s id).1.models.edited]
  rw [mem_updated_enter] at listed
  rcases listed with listed | ⟨rfl, -, dirty, keyed⟩
  · exact h other listed
  · exact ⟨keyed, dirty⟩

theorem exchange (h : s.Warranted) (index count : Nat) (ids : List ModelId) :
    (s.exchange index count ids).2.Warranted :=
  exchange_preserves (fun _ _ _ h => h) (fun _ id index h => h.leave id index) (fun _ id h => h.enter id) index count
    ids h

theorem enrolled (h : s.Warranted) (orderly : s.Orderly) {items : List Item} {ids : List ModelId}
    (e : s.Enrolled items ids t) : t.Warranted := by
  refine h.sublist (fun id listed => e.model? (orderly.known id (.inr (.inl listed)))) ?_
  rw [e.rest]
  exact fun _ listed => listed

theorem replace (s : Source) (ids : List ModelId) : (s.replace ids).Warranted :=
  of_none (by rw [(replace_frame s ids).2.2.1])

/-- What is noted of other models is right after a write as it was before. -/
theorem others {tracked : Tracked} {last : Model} (h : s.Warranted) (outcome : Outcome s id tracked last t) :
    ∀ other ∈ t.changes.updated, other ≠ id → t.Edited other := fun other listed ne =>
  (edited_congr (outcome.others other ne)).2 (h other ((outcome.updated other ne).1 listed))

theorem edit (h : s.Warranted) (coherent : s.Coherent) (sound : s.Sound) {change : ModelCommand}
    {w : Written (Option Bool)}
    (run : ∀ tracked, s.models[id]? = some tracked → Model.Run tracked.model
      (tracked.model.perform tracked.fields change).signals (tracked.model.perform tracked.fields change).model)
    (open' : id ∈ s.data → id ∉ s.changes.added → s.IsOvert id change ∧ s.KeepsKey id change)
    (written : s.write id (fun tracked => tracked.model.perform tracked.fields change) = some (w, t)) :
    t.Warranted := by
  obtain ⟨tracked, same, outcome⟩ := write_outcome run written
  have after : t.Coherent := (Coherent.preserved id).write run written coherent
  have data : t.data = s.data := by rw [outcome.rest]
  have added : t.changes.added = s.changes.added := by rw [outcome.rest]
  intro other listed
  by_cases here : other = id
  · subst here
    have member : other ∈ s.data := data ▸ after.updated_members other listed
    have notAdded : other ∉ s.changes.added := fun ha => after.exclusive other (added.symm ▸ ha) listed
    obtain ⟨overt, keeps⟩ := open' member notAdded
    refine edited_of_mem_updated coherent member notAdded (h other) overt (sound.accounted other) written ?_ listed
    intro new
    rw [same] at new ⊢
    obtain ⟨⟨unlisted, -⟩, all⟩ := keeps tracked outcome.found new
    exact ⟨unlisted, all⟩
  · exact h.others outcome other listed here

theorem restore (h : s.Warranted) (id : ModelId) : (s.restore id).Warranted := by
  intro other listed
  rw [(restore_frame s id).models.edited]
  rcases restore_cases s id with ⟨-, same⟩ | ⟨-, index, place, result⟩
  · exact h other (same ▸ listed)
  · rw [result, (attach_reobserved _ id).changes] at listed
    exact h other listed

theorem cancel (h : s.Warranted) (coherent : s.Coherent) (id : ModelId) : (s.cancel id).Warranted := by
  refine cancel_preserves h (fun index => h.exchange index 1 []) ?_ fun t ht => ht.restore id
  unfold Source.resetModel
  split
  · exact h
  · next w t written =>
    obtain ⟨tracked, -, outcome⟩ := write_outcome (reset_run s id) written
    have nodup := ((Coherent.preserved id).write (reset_run s id) written coherent).updated
    intro other listed
    obtain ⟨ne, before⟩ := nodup.mem_erase_iff.1 listed
    exact h.others outcome other before ne

theorem advance (h : s.Warranted) (tasks : List SyncTask) : (s.syncNext tasks).source.Warranted := by
  obtain ⟨updated, origin, shape, sub⟩ := syncNext_source s tasks
  rw [shape]
  exact fun id listed => h id (sub.subset listed)

theorem accept (h : s.Warranted) (coherent : s.Coherent) (call : SyncCall) (answer : call.request.Answer)
    (awaited : s.Awaits call) : (s.accept call answer).Warranted := by
  cases call with
  | create id entity =>
    intro other listed
    have ne : other ≠ id := by
      rintro rfl
      exact coherent.exclusive other awaited listed
    exact (edited_congr (accept_model?_of_ne ne answer)).2 (h other listed)
  | update id key changes =>
    intro other listed
    obtain ⟨ne, before⟩ := coherent.updated.mem_erase_iff.1 listed
    exact (edited_congr (accept_model?_of_ne ne answer)).2 (h other before)
  | remove id key => exact h

theorem effect (h : s.Warranted) (coherent : s.Coherent) (sound : s.Sound) {command : SourceCommand}
    (effect : s.Effect command t)
    (careful : ∀ id change, command = .edit id change → id ∈ s.data → id ∉ s.changes.added →
      s.IsOvert id change ∧ s.KeepsKey id change)
    (composed : ∀ tracked ∈ s.models, tracked.fields.Composed) : t.Warranted := by
  cases effect with
  | nothing => exact h
  | exchange index count e => exact (h.enrolled ⟨coherent.toPending, coherent.lt⟩ e).exchange index count _
  | setData _ _ => exact replace _ _
  | cancelAll _ _ => exact replace _ _
  | cancel _ => exact h.cancel coherent _
  | submit _ => exact of_none rfl
  | edit same written =>
    exact h.edit coherent sound
      (fun tracked found => Model.perform_run (composed tracked (List.mem_of_getElem? found)) _ _) (careful _ _ same)
      written

end Warranted

/-- No model is brought in that is a member already, and no list is set to models with edits. -/
def Listening (_ : List SourceEvent) (s : Source) : SourceEvent → Prop
  | .performed command _ =>
    command.Fresh s ∧ ∀ items, command = .setData items → ∀ id ∈ Item.handles items, ¬ s.Edited id
  | _ => True

/-- What `Listening` asks for; besides, members that the provider knows are edited overtly and keep their keys, and what
the provider accepts is still awaited. -/
def Attending (log : List SourceEvent) (s : Source) (event : SourceEvent) : Prop :=
  Listening log s event ∧
    match event with
    | .performed (.edit id change) _ =>
      id ∈ s.data → id ∉ s.changes.added → s.IsOvert id change ∧ s.KeepsKey id change
    | .accepted call _ => s.Awaits call
    | _ => True

section Histories

variable {allowed : List SourceEvent → Source → SourceEvent → Prop} {log : List SourceEvent}

theorem Listening.separate {event : SourceEvent} (listens : Listening log s event) : Separate log s event := by
  cases event with
  | performed command members => exact listens.1
  | _ => trivial

theorem Noted.step (h : s.Noted (· ∈ s.data)) (coherent : s.Coherent) (sound : s.Sound)
    (composed : s.OfKind fun _ fields => fields.Composed) {event : SourceEvent} (listens : Listening log s event)
    (step : s.Step event t) : t.Noted (· ∈ t.data) := by
  cases step with
  | @make uuid schema fields entity tracked ids _ _ built =>
    intro id member notAdded edited
    have same : ({ s with ids, models := s.models ++ [tracked] } : Source).model? id = s.model? id := by
      rw [model?, model?, List.getElem?_append_left (coherent.lt id member)]
    exact h id member notAdded ((edited_congr same).1 edited)
  | perform known _ done =>
    exact h.effect coherent sound (effect_of_perform done) listens.1 listens.2 known composed.tracked
  | load _ done =>
    obtain ⟨u, e, rfl⟩ := load_ok done
    exact replace fun id hid edited => e.not_edited_of_entities hid edited
  | advance tasks =>
    rw [data_syncNext]
    exact h.advance tasks
  | accept call answer =>
    rw [data_accept]
    exact h.accept call answer
  | ask filter sort paginator scheduled => exact h

theorem History.noted (h : History allowed log s)
    (listens : ∀ log s event, allowed log s event → Listening log s event) : s.Noted (· ∈ s.data) := by
  induction h with
  | start schema _ autoSync paginator =>
    intro id member
    cases member
  | next h ok step ih =>
    have coherent := h.coherent fun _ _ _ ok => (listens _ _ _ ok).separate
    exact ih.step coherent h.sound h.reachable_any.composed (listens _ _ _ ok) step

theorem Warranted.step (h : s.Warranted) (coherent : s.Coherent) (sound : s.Sound)
    (composed : s.OfKind fun _ fields => fields.Composed) {event : SourceEvent} (attends : Attending log s event)
    (step : s.Step event t) : t.Warranted := by
  obtain ⟨-, attends⟩ := attends
  cases step with
  | @make uuid schema fields entity tracked ids _ _ built =>
    refine h.sublist (fun id listed => ?_) fun _ listed => listed
    rw [model?, model?, List.getElem?_append_left (coherent.toPending.known id (.inr (.inl listed)))]
  | perform _ _ done =>
    refine h.effect coherent sound (effect_of_perform done) ?_ composed.tracked
    rintro id change rfl
    exact attends
  | load _ done =>
    obtain ⟨u, e, rfl⟩ := load_ok done
    exact replace _ _
  | advance tasks => exact h.advance tasks
  | accept call answer => exact h.accept coherent call answer attends
  | ask filter sort paginator scheduled => exact h

theorem History.warranted (h : History Attending log s) : s.Warranted := by
  induction h with
  | start schema _ autoSync paginator => exact .of_none rfl
  | next h ok step ih =>
    exact ih.step (h.coherent fun _ _ _ ok => ok.1.separate) h.sound h.reachable_any.composed ok step

end Histories

/-- Every member with edits that the provider can be told of is updated, whatever is done to the models, and nothing
else is, as long as the source is told of what is done to them. Syncs do not disturb this. -/
theorem mem_updated_iff_edited {log : List SourceEvent} (h : History Listening log s) :
    (∀ id ∈ s.data, id ∉ s.changes.added → s.holds Model.isNew id = false → s.holds Model.isDirty id = true →
      id ∈ s.changes.updated) ∧
    (History Attending log s →
      (∀ id, id ∈ s.changes.updated ↔
        id ∈ s.data ∧ id ∉ s.changes.added ∧ s.holds Model.isNew id = false ∧ s.holds Model.isDirty id = true) ∧
      ∀ issued failure t, s.SyncRun s.syncTasks issued failure t →
        ∃ events, History Attending (log ++ events) t) := by
  have coherent := h.coherent fun _ _ _ => Listening.separate
  have noted := h.noted fun _ _ _ listens => listens
  refine ⟨fun id member notAdded keyed dirty => noted id member notAdded ⟨keyed, dirty⟩, fun attentive => ⟨?_, ?_⟩⟩
  · intro id
    constructor
    · intro listed
      have notAdded : id ∉ s.changes.added := fun added => coherent.exclusive id added listed
      exact ⟨coherent.updated_members id listed, notAdded, attentive.warranted id listed⟩
    · rintro ⟨member, notAdded, edited⟩
      exact noted id member notAdded edited
  · intro issued failure t run
    obtain ⟨events, whole, -⟩ := attentive.sync (fun _ _ _ => ⟨trivial, trivial⟩)
      (fun _ _ _ _ _ awaited => ⟨trivial, awaited⟩) run
    exact ⟨events, whole⟩

/-- The name of the row is edited. -/
theorem mem_updated_iff_edited_row :
    ∃ log s, History Attending log s ∧ s.changes.updated = [0] ∧
      (0 ∈ s.changes.updated ↔
        0 ∈ s.data ∧ 0 ∉ s.changes.added ∧ s.holds Model.isNew 0 = false ∧ s.holds Model.isDirty 0 = true) := by
  have shown : ((fetched? [namedRow 1]).bind fun s =>
      (s.perform (.edit 0 (.set "name" (.str "b")))).toOption.map fun edited =>
      (s.models.all (·.fields.isEmpty), s.leavesKeyed 0 (.set "name" (.str "b")), edited.2.changes.updated)) =
        some (true, true, [0]) := by decide +kernel
  obtain ⟨s, found, later⟩ := Option.bind_eq_some_iff.1 shown
  obtain ⟨⟨reply, t⟩, done, facts⟩ := Option.map_eq_some_iff.1 later
  simp only [Prod.mk.injEq] at facts
  obtain ⟨plain, keyed, updated⟩ := facts
  have careful : s.IsOvert 0 (.set "name" (.str "b")) ∧ s.KeepsKey 0 (.set "name" (.str "b")) :=
    ⟨isOvert_of_plain plain 0 rfl, keepsKey_of_leavesKeyed keyed⟩
  have h : History Attending _ s :=
    fetched?_history (by simp [namedRow_ordered]) (fun _ _ _ => ⟨trivial, trivial⟩) found
  have listens : Listening [.fetched s.data] s (.performed (.edit 0 (.set "name" (.str "b"))) t.data) :=
    ⟨by constructor <;> simp [SourceCommand.items], by simp⟩
  have whole := h.perform (ok_of_toOption done) rfl ⟨listens, fun _ _ => careful⟩
  exact ⟨_, t, whole, updated, ((mem_updated_iff_edited (whole.mono fun _ _ _ => And.left)).2 whole).1 0⟩

/-- Four ways to be wrong: the edits of an updated model are submitted, its key is taken away, it is brought in again,
and a list is set to a model with edits. -/
theorem not_mem_updated_iff_edited :
    (∃ log s, History (fun _ _ _ => True) log s ∧ 0 ∈ s.changes.updated ∧ s.holds Model.isDirty 0 = false) ∧
      (∃ log s, History (fun _ _ _ => True) log s ∧ 0 ∈ s.changes.updated ∧ s.holds Model.isNew 0 = true) ∧
      (∃ log s, History (fun _ _ _ => True) log s ∧ 0 ∈ s.changes.updated ∧ 0 ∈ s.changes.added) ∧
      ∃ log s, History (fun _ _ _ => True) log s ∧ 0 ∈ s.data ∧ 0 ∉ s.changes.added ∧ s.holds Model.isNew 0 = false ∧
        s.holds Model.isDirty 0 = true ∧ 0 ∉ s.changes.updated := by
  have run {commands : List SourceCommand} {s : Source} (alone : ∀ command ∈ commands, command.items = [])
      (found : worked? [namedRow 1] commands = some s) : ∃ log, History (fun _ _ _ => True) log s :=
    worked?_history (by simp [namedRow_ordered]) (fun _ _ _ => trivial) (fun _ _ _ _ _ => trivial) alone found
  refine ⟨?_, ?_, ?_, ?_⟩
  · have shown : (worked? [namedRow 1] [.edit 0 (.set "name" (.str "b")), .edit 0 .submit]).map
        (fun s => (s.changes.updated, s.holds Model.isDirty 0)) = some ([0], false) := by decide +kernel
    obtain ⟨s, found, facts⟩ := Option.map_eq_some_iff.1 shown
    obtain ⟨updated, clean⟩ := Prod.mk.inj facts
    obtain ⟨log, h⟩ := run (by simp [SourceCommand.items]) found
    exact ⟨log, s, h, by simp [updated], clean⟩
  · have shown : (worked? [namedRow 1] [.edit 0 (.set "name" (.str "b")), .edit 0 (.set "id" (.num (.int 0)))]).map
        (fun s => (s.changes.updated, s.holds Model.isNew 0)) = some ([0], true) := by decide +kernel
    obtain ⟨s, found, facts⟩ := Option.map_eq_some_iff.1 shown
    obtain ⟨updated, new⟩ := Prod.mk.inj facts
    obtain ⟨log, h⟩ := run (by simp [SourceCommand.items]) found
    exact ⟨log, s, h, by simp [updated], new⟩
  · have shown : ((worked? [namedRow 1] [.edit 0 (.set "name" (.str "b"))]).bind fun s =>
        (s.perform (.add (.model 0))).toOption.map fun again =>
          (s.models.length, again.2.changes.updated, again.2.changes.added)) = some (1, [0], [0]) := by decide +kernel
    obtain ⟨s, found, later⟩ := Option.bind_eq_some_iff.1 shown
    obtain ⟨⟨reply, t⟩, done, facts⟩ := Option.map_eq_some_iff.1 later
    simp only [Prod.mk.injEq] at facts
    obtain ⟨length, updated, added⟩ := facts
    obtain ⟨log, h⟩ := run (by simp [SourceCommand.items]) found
    have step :=
      Step.perform (by simp [SourceCommand.items, length]) (by simp [SourceCommand.items]) (ok_of_toOption done)
    exact ⟨_, t, h.next trivial step, by simp [updated], by simp [added]⟩
  · have shown : (worked? [namedRow 1] [.edit 0 (.set "name" (.str "b"))]).map
        (fun s => (s.models.length, s.holds Model.isNew 0, s.holds Model.isDirty 0)) = some (1, false, true) := by
      decide +kernel
    obtain ⟨s, found, facts⟩ := Option.map_eq_some_iff.1 shown
    simp only [Prod.mk.injEq] at facts
    obtain ⟨length, keyed, dirty⟩ := facts
    obtain ⟨log, h⟩ := run (by simp [SourceCommand.items]) found
    have done : s.perform (.setData [.model 0]) = .ok (.done, s.replace [0]) := rfl
    have step := Step.perform (by simp [SourceCommand.items, length]) (by simp [SourceCommand.items]) done
    obtain ⟨same, data, changes, -⟩ := replace_frame s [0]
    refine ⟨_, s.replace [0], h.next trivial step, by simp [data], by simp [changes], ?_, ?_, by simp [changes]⟩
    · rw [same.models.isNew, keyed]
    · rw [same.models.isDirty, dirty]

end RecordSync.Source
