import Mathlib.Data.List.Induction
import RecordSync.Proofs.Model.Reports
import RecordSync.Proofs.Source.Tied

/-!
# How a source follows an edit

A source does not see its models change; it sees what they report. What it has noted of a member in the end therefore
depends on the last report, and on how the model has become since then.
-/

set_option autoImplicit false

namespace RecordSync.Source

variable {s t : Source} {id : ModelId}

/-- A model that the provider can know of has edits that it does not know of. -/
def Edited (s : Source) (id : ModelId) : Prop := s.holds Model.isNew id = false ∧ s.holds Model.isDirty id = true

theorem edited_congr (same : t.model? id = s.model? id) : t.Edited id ↔ s.Edited id := by
  rw [Edited, Edited, holds_congr same, holds_congr same]

theorem holds_of_model? {m : Model} (found : s.model? id = some m) (p : Model → Bool) : s.holds p id = p m := by
  rw [holds, found]
  rfl

theorem exists_of_holds {p : Model → Bool} (h : s.holds p id = true) : ∃ m, s.model? id = some m ∧ p m = true := by
  cases found : s.model? id with
  | none => rw [holds, found] at h; cases h
  | some m => exact ⟨m, rfl, holds_of_model? found p ▸ h⟩

theorem not_edited_of_clean (clean : s.holds Model.isDirty id = false) : ¬ s.Edited id := by
  rintro ⟨-, dirty⟩
  rw [clean] at dirty
  cases dirty

theorem not_mem_updated_track (member : id ∈ s.data) (notAdded : id ∉ s.changes.added)
    (keyed : s.holds Model.isNew id = false) (clean : s.holds Model.isDirty id = false)
    (nodup : s.changes.updated.Nodup) :
    id ∉ (s.track id).changes.updated := by
  unfold track
  simp only [List.contains_iff_mem, keyed, clean, Bool.or_false]
  split
  · next counted => simp [member, notAdded] at counted
  · exact fun listed => (nodup.mem_erase_iff.1 listed).1 rfl

/-- An edit leaves the key of a model that the source keeps track of: one that has no key afterwards is not pending, and
had none at any report. -/
def KeepsKey (s : Source) (id : ModelId) (change : ModelCommand) : Prop :=
  ∀ tracked, s.models[id]? = some tracked → (tracked.model.perform tracked.fields change).model.isNew = true →
    (id ∉ s.changes.updated ∧ id ∉ s.changes.removed) ∧
      ∀ event shown, ModelSignal.changed event shown ∈ (tracked.model.perform tracked.fields change).signals →
        shown.isNew = true

def leavesKeyed (s : Source) (id : ModelId) (change : ModelCommand) : Bool :=
  s.models[id]?.all fun tracked => !(tracked.model.perform tracked.fields change).model.isNew

theorem keepsKey_of_leavesKeyed {change : ModelCommand} (keyed : s.leavesKeyed id change = true) :
    s.KeepsKey id change := by
  intro tracked found new
  rw [leavesKeyed, found, Option.all_some, new] at keyed
  cases keyed

/-- A write is followed report by report; what the model has become since then goes unnoticed. -/
theorem write_eq {α : Type} {f : Tracked → Written α} {w : Written α} (written : s.write id f = some (w, t)) :
    ∃ tracked, s.models[id]? = some tracked ∧ w = f tracked ∧
      t = (w.signals.foldl (fun s signal => s.follow id signal) s).mapModel id fun _ => w.model := by
  obtain ⟨tracked, found, result⟩ := Option.map_eq_some_iff.1 written
  obtain ⟨rfl, rfl⟩ := Prod.mk.inj result
  exact ⟨tracked, found, rfl, rfl⟩

theorem updated_preserved (id : ModelId) (s : Source) :
    Preserved id fun t => ∀ other, other ≠ id → (other ∈ t.changes.updated ↔ other ∈ s.changes.updated) where
  place := fun _ _ _ _ _ h => h
  track := fun t _ _ _ _ _ h other ne => by
    rw [← h other ne]
    rcases track_cases t id with same | ⟨-, -, -, -, -, same⟩ | ⟨-, -, -, -, same⟩
    · rw [same]
    · rw [same, schedule_eq]
      simp [ne]
    · rw [same]
      exact List.mem_erase_of_ne ne

structure Outcome (s : Source) (id : ModelId) (tracked : Tracked) (last : Model) (t : Source) : Prop extends
    WrittenAt id s t where
  found : s.models[id]? = some tracked
  placed : t.model? id = some last
  updated : ∀ other, other ≠ id → (other ∈ t.changes.updated ↔ other ∈ s.changes.updated)

theorem Outcome.model? {tracked : Tracked} {last : Model} (h : Outcome s id tracked last t) :
    s.model? id = some tracked.model := by
  rw [Source.model?, h.found]
  rfl

theorem write_outcome {α : Type} {f : Tracked → Written α} {w : Written α}
    (run : ∀ tracked, s.models[id]? = some tracked → Model.Run tracked.model (f tracked).signals (f tracked).model)
    (written : s.write id f = some (w, t)) : ∃ tracked, w = f tracked ∧ Outcome s id tracked w.model t := by
  have apart := (writtenAt_preserved id s).write run written ⟨rfl, fun _ _ => rfl⟩
  have updated := (updated_preserved id s).write run written fun _ _ => .rfl
  obtain ⟨tracked, found, rfl, result⟩ := write_eq written
  refine ⟨tracked, rfl, apart, found, ?_, updated⟩
  have here : s.model? id = some tracked.model := by rw [Source.model?, found]; rfl
  obtain ⟨-, last, shown, -⟩ := (writtenAt_preserved id s).foldl_follow here (run tracked found).keeps.2
    ⟨rfl, fun _ _ => rfl⟩
  rw [result, model?_mapModel, if_pos rfl, shown]
  rfl

theorem Coherent.follow (h : s.Coherent) {m shown : Model} (found : s.model? id = some m) (keeps : m.Keeps shown)
    (event : ChangeEvent) : s.follow id (.changed event shown) =
      if id ∈ s.data then (s.mapModel id fun _ => shown).track id else s.mapModel id fun _ => shown := by
  have unmoved : (s.mapModel id fun _ => shown).subscriptions = s.subscriptions := rfl
  unfold Source.follow
  dsimp only
  rw [unmoved]
  by_cases member : id ∈ s.data
  · obtain ⟨old, observer, before, looked, single⟩ := h.follows.followed id member
    rw [found, Option.some.injEq] at before
    rw [if_pos member, looked, Option.any_some, keeps.observers, before, single]
    simp
  · rw [if_neg member, (h.follows.others id member).1]
    rfl

/-- What each report to a source preserves holds in the end. The model in the table is then as it was reported last. -/
theorem Coherent.foldl_follow {motive : Source → Prop} (h : s.Coherent) {m : Model} {signals : List ModelSignal}
    (found : s.model? id = some m) (keeps : m.KeepsIn signals) (start : motive s)
    (step : ∀ (u : Source) (old shown : Model) (event : ChangeEvent), u.Coherent → u.data = s.data →
      u.model? id = some old → old.Keeps shown → motive u → motive (u.follow id (.changed event shown))) :
    motive (signals.foldl (fun s signal => s.follow id signal) s) ∧
      (signals.foldl (fun s signal => s.follow id signal) s).Coherent ∧
      (signals.foldl (fun s signal => s.follow id signal) s).data = s.data ∧
      (signals.foldl (fun s signal => s.follow id signal) s).model? id = some (m.lastShown signals) := by
  induction signals generalizing s m with
  | nil => exact ⟨start, h, rfl, found⟩
  | cons signal rest ih =>
    cases signal with
    | warning text => exact ih h found (fun event shown listed => keeps event shown (.tail _ listed)) start step
    | changed event shown =>
      obtain ⟨first, later⟩ := keeps.tail
      obtain ⟨coherent, here⟩ := (Coherent.preserved id).follow found first event h
      have data := data_follow s id (.changed event shown)
      have result := ih coherent here later (step s m shown event h rfl found first start)
        fun u old shown event hu same => step u old shown event hu (same.trans data)
      rwa [data] at result

theorem added_follow (s : Source) (id : ModelId) (signal : ModelSignal) :
    (s.follow id signal).changes.added = s.changes.added := by
  unfold Source.follow
  split
  · rfl
  · dsimp only
    split
    · rw [track_frame]
      rfl
    · rfl

/-- A member that has a key is updated after a report only if it is dirty then. -/
theorem Coherent.edited_of_follow (h : s.Coherent) (member : id ∈ s.data) (notAdded : id ∉ s.changes.added)
    {m shown : Model} (found : s.model? id = some m) (keeps : m.Keeps shown) (keyed : shown.isNew = false)
    (event : ChangeEvent) (listed : id ∈ (s.follow id (.changed event shown)).changes.updated) :
    (s.follow id (.changed event shown)).Edited id := by
  have placed : (s.mapModel id fun _ => shown).model? id = some shown := by
    rw [model?_mapModel, if_pos rfl, found]
    rfl
  rw [h.follow found keeps, if_pos member] at listed ⊢
  rw [edited_congr (model?_track _ id id), Edited, holds_of_model? placed, holds_of_model? placed]
  refine ⟨keyed, ?_⟩
  cases dirty : shown.isDirty with
  | true => rfl
  | false =>
    rw [← holds_of_model? placed Model.isDirty] at dirty
    rw [← holds_of_model? placed Model.isNew] at keyed
    exact absurd listed (not_mem_updated_track member notAdded keyed dirty h.updated)

theorem foldl_follow_of_new {m : Model} {signals : List ModelSignal} (found : s.model? id = some m)
    (new : ∀ event shown, ModelSignal.changed event shown ∈ signals → shown.isNew = true) :
    (signals.foldl (fun s signal => s.follow id signal) s).changes = s.changes := by
  induction signals generalizing s m with
  | nil => rfl
  | cons signal rest ih =>
    have later : ∀ event shown, ModelSignal.changed event shown ∈ rest → shown.isNew = true :=
      fun event shown listed => new event shown (.tail _ listed)
    rw [List.foldl_cons]
    cases signal with
    | warning text => exact ih found later
    | changed event shown =>
      have placed : (s.mapModel id fun _ => shown).model? id = some shown := by
        rw [model?_mapModel, if_pos rfl, found]
        rfl
      have unnoted : (s.mapModel id fun _ => shown).track id = s.mapModel id fun _ => shown := by
        rcases track_cases (s.mapModel id fun _ => shown) id with same | ⟨-, -, -, keyed, -⟩ | ⟨-, -, keyed, -⟩
        · exact same
        all_goals
          rw [holds_of_model? placed, new event shown (.head _)] at keyed
          cases keyed
      have same : s.follow id (.changed event shown) = s.mapModel id fun _ => shown := by
        unfold Source.follow
        dsimp only
        split
        · exact unnoted
        · rfl
      rw [same]
      exact ih placed later

/-- What is noted of a member is right after reports of it, unless it has lost its key by then. -/
theorem Coherent.edited_of_foldl_follow (h : s.Coherent) (member : id ∈ s.data) (notAdded : id ∉ s.changes.added)
    {m : Model} {signals : List ModelSignal} (found : s.model? id = some m) (keeps : m.KeepsIn signals)
    (noted : id ∈ s.changes.updated → s.Edited id)
    (keyed : (m.lastShown signals).isNew = true → id ∉ s.changes.updated ∧
      ∀ event shown, ModelSignal.changed event shown ∈ signals → shown.isNew = true)
    (listed : id ∈ (signals.foldl (fun s signal => s.follow id signal) s).changes.updated) :
    (signals.foldl (fun s signal => s.follow id signal) s).Edited id := by
  -- It is the last report that counts.
  induction signals using List.reverseRecOn with
  | nil => exact noted listed
  | append_singleton signals signal ih =>
    rw [List.foldl_append] at listed ⊢
    rw [Model.lastShown_append] at keyed
    have front : m.KeepsIn signals := fun event other hs => keeps event other (List.mem_append_left _ hs)
    cases signal with
    | warning text =>
      have earlier (new : (m.lastShown signals).isNew = true) : id ∉ s.changes.updated ∧
          ∀ event shown, ModelSignal.changed event shown ∈ signals → shown.isNew = true :=
        ⟨(keyed new).1, fun event other hs => (keyed new).2 event other (List.mem_append_left _ hs)⟩
      exact ih front earlier listed
    | changed event final =>
      by_cases new : final.isNew = true
      · -- A model that has no key in the end had none all along.
        obtain ⟨unlisted, all⟩ := keyed new
        have unchanged := foldl_follow_of_new found all
        rw [List.foldl_append] at unchanged
        rw [unchanged] at listed
        exact absurd listed unlisted
      · obtain ⟨added, coherent, data, before⟩ := h.foldl_follow (motive := fun u => u.changes.added = s.changes.added)
          found front rfl fun u old shown event _ _ _ _ same => (added_follow u id _).trans same
        have kept := front.lastShown.symm.trans (keeps event final (by simp))
        exact coherent.edited_of_follow (data ▸ member) (added ▸ notAdded) before kept (by simpa using new) event listed

section Noted

variable {α : Type} {f : Tracked → Written α} {w : Written α}

/-- An edit of a member is noted, whatever the edit is: a model that is dirty in the end is as it was reported last.
What was noted before matters only if nothing is reported, and then the model is as it was. -/
theorem mem_updated_of_edited (h : s.Coherent) (member : id ∈ s.data) (notAdded : id ∉ s.changes.added)
    (noted : t.model? id = s.model? id → s.Edited id → id ∈ s.changes.updated)
    (run : ∀ tracked, s.models[id]? = some tracked → Model.Run tracked.model (f tracked).signals (f tracked).model)
    (accounted : ∀ m, s.model? id = some m → m.Accounted) (written : s.write id f = some (w, t))
    (edited : t.Edited id) : id ∈ t.changes.updated := by
  obtain ⟨tracked, found, rfl, result⟩ := write_eq written
  have here : s.model? id = some tracked.model := by rw [model?, found]; rfl
  obtain ⟨followed, -, -, shown⟩ := h.foldl_follow here (run tracked found).keeps.2
    (motive := fun u => u = s ∨ id ∉ u.changes.added ∧ (u.Edited id → id ∈ u.changes.updated)) (.inl rfl) <| by
    intro u old shown event coherent data before keeps earlier
    have notAdded : id ∉ u.changes.added := earlier.elim (fun same => same ▸ notAdded) And.left
    rw [coherent.follow before keeps, if_pos (data ▸ member)]
    refine .inr ⟨?_, fun edited => ?_⟩
    · rw [track_frame]
      exact notAdded
    · rw [edited_congr (model?_track _ id id)] at edited
      exact mem_updated_track (data ▸ member) notAdded edited.1 edited.2
  rcases (run tracked found).lastShown (accounted _ here) with clean | same
  · -- The model has been submitted since then.
    refine absurd edited (not_edited_of_clean ?_)
    rw [result, holds, model?_mapModel, if_pos rfl, shown]
    exact clean
  · rw [same] at shown
    rw [mapModel_self shown] at result
    rw [result] at noted edited ⊢
    rcases followed with unchanged | ⟨-, followed⟩
    · rw [unchanged] at noted edited ⊢
      exact noted rfl edited
    · exact followed edited

/-- What has been noted of a member is right after an overt edit, unless the edit takes the key of a model that is
updated. -/
theorem edited_of_mem_updated (h : s.Coherent) (member : id ∈ s.data) (notAdded : id ∉ s.changes.added)
    (noted : id ∈ s.changes.updated → s.Edited id)
    (run : ∀ tracked, s.models[id]? = some tracked →
      Model.OvertRun tracked.model (f tracked).signals (f tracked).model)
    (accounted : ∀ m, s.model? id = some m → m.Accounted) (written : s.write id f = some (w, t))
    (keyed : w.model.isNew = true → id ∉ s.changes.updated ∧
      ∀ event shown, ModelSignal.changed event shown ∈ w.signals → shown.isNew = true)
    (listed : id ∈ t.changes.updated) : t.Edited id := by
  obtain ⟨tracked, found, rfl, result⟩ := write_eq written
  have here : s.model? id = some tracked.model := by rw [model?, found]; rfl
  have last := (run tracked found).lastShown (accounted _ here)
  have keeps := (run tracked found).run.keeps.2
  have shown := (h.foldl_follow (motive := fun _ => True) here keeps trivial fun _ _ _ _ _ _ _ _ _ => trivial).2.2.2
  rw [last] at shown
  rw [mapModel_self shown] at result
  rw [result] at listed ⊢
  exact h.edited_of_foldl_follow member notAdded here keeps noted (last ▸ keyed) listed

end Noted

end RecordSync.Source
