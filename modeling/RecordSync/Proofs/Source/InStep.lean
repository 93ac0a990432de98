import RecordSync.Proofs.Source.Backed

/-!
# Sources in step with a provider

A source is in step with the rows of a provider when the rows are backed by the models that are stored and the pending
changes account for these. Commands that spare the primary keys keep a source in step with the same rows, and so does
each call of a sync with the rows that it leaves.
-/

set_option autoImplicit false

namespace RecordSync

/-- Items that a source in step can take in: entities without a key, and models whose removal is pending or that
leave at the same time. -/
def Item.Gentle (s : Source) : Item → Prop
  | .entity fields => KeyMap.Ordered fields ∧ Json.truthy (KeyMap.get? fields "id") = false
  | .model id => id ∈ s.changes.removed ∨ id ∈ s.data

/-- Entities without a key come in, removed models come back, members leave and are edited with their keys spared, or
changes are undone. -/
def SourceCommand.Gentle (s : Source) (command : SourceCommand) : Prop :=
  command.Fresh s ∧ (∀ item ∈ command.items, item.Gentle s) ∧
    match command with
    | .setData _ | .submit => False
    | .edit _ change => change.Spares "id"
    | _ => True

namespace Source

structure InStep (s : Source) (rows : List Entity) (stored : List ModelId) : Prop extends
    Tied s (· ∈ s.data) stored, Backed s rows stored where
  nodup : s.data.Nodup

namespace InStep

variable {s t : Source} {rows : List Entity} {stored : List ModelId}

theorem coherent (h : s.InStep rows stored) : s.Coherent := ⟨h.toConsistent, h.nodup⟩

theorem enrolled (h : s.InStep rows stored) {items : List Item} {ids : List ModelId} (e : s.Enrolled items ids t)
    (ordered : ∀ entity, Item.entity entity ∈ items → KeyMap.Ordered entity) : t.InStep rows stored := by
  have coherent := h.coherent.enrolled e
  have data : t.data = s.data := by rw [e.rest]
  have changes : t.changes = s.changes := by rw [e.rest]
  have fits : t.Consistent (· ∈ s.data) := data ▸ coherent.toConsistent
  have tied := h.toTied.of_same fits changes fun id inside => e.model? inside
  exact ⟨data.symm ▸ tied, h.toBacked.enrolled e ordered, coherent.nodup⟩

theorem exchange (h : s.InStep rows stored) {index count : Nat} {ids : List ModelId} (distinct : ids.Nodup)
    (outside : ∀ id ∈ ids, id ∉ s.data.take index ++ s.data.drop (index + count))
    (candidates : ∀ id ∈ ids, id < s.models.length ∧ (id ∈ stored ∨ s.holds Model.isNew id = true)) :
    (s.exchange index count ids).2.InStep rows stored := by
  obtain ⟨tied, -⟩ := (Tied.exchanges ids stored).exchange ⟨h.toTied, candidates⟩ h.nodup distinct outside
  obtain ⟨rearranged, data⟩ := exchange_frame s index count ids
  refine ⟨tied, h.toBacked.rearranged rearranged, ?_⟩
  rw [data]
  exact nodup_exchange h.nodup distinct outside

theorem of_replace (plain : s.Plain) {others : ModelId → Prop} (follows : s.Follows others)
    (intact : ∀ id m, s.model? id = some m → m.Intact) {ids : List ModelId} (distinct : ids.Nodup)
    {entities : List Entity}
    (pristine : List.Forall₂ (fun entity id => ∃ m, s.model? id = some m ∧ m.Pristine entity) entities ids)
    (keyed : ∀ row ∈ rows, Json.truthy (KeyMap.get? row "id") = true) {listed : List Entity}
    (echoes : List.Forall₂ Echoes rows listed) (perm : listed.Perm entities) :
    ∃ stored, (s.replace ids).InStep rows stored := by
  -- The models were made in the order of the entities and are stored in the order of the rows.
  obtain ⟨stored, made, listing⟩ := List.perm_comp_forall₂ perm pristine
  have mirrored : List.Forall₂ (fun row id => ∃ m, s.model? id = some m ∧ Model.Mirrors row m ∧ m.isDirty = false)
      rows stored := by
    refine forall₂_trans (fun row entity id echo fresh => ?_) echoes made
    obtain ⟨m, found, fresh⟩ := fresh
    exact ⟨m, found, fresh.mirrors echo, fresh.isDirty⟩
  have settled : ∀ id ∈ ids, s.holds Model.isNew id = false ∧ s.holds Model.isDirty id = false := by
    intro id hid
    obtain ⟨row, hrow, m, found, mirrors, clean⟩ := forall₂_exists mirrored (listing.mem_iff.2 hid)
    have key : m.key? = KeyMap.get? row "id" := by
      rw [← mirrors.key, Model.primary_of_standard (plain.schema found)]
    simp [holds, found, Model.isNew, key, keyed row hrow, clean]
  have inside : ∀ id ∈ ids, id < s.models.length := by
    intro id hid
    obtain ⟨-, -, m, found, -⟩ := forall₂_exists mirrored (listing.mem_iff.2 hid)
    exact lt_of_model? found
  have tied := Tied.replace follows distinct inside (fun id => listing.mem_iff) settled
  have backed : s.Backed rows stored := by
    refine ⟨plain, intact, listing.nodup_iff.2 distinct, ?_⟩
    refine mirrored.imp fun row id clean => ?_
    obtain ⟨m, found, mirrors, -⟩ := clean
    exact ⟨m, found, mirrors⟩
  obtain ⟨rearranged, data, -⟩ := replace_frame s ids
  exact ⟨stored, tied, backed.rearranged rearranged, data.symm ▸ distinct⟩

theorem edit (h : s.InStep rows stored) {id : ModelId} {change : ModelCommand} (spares : change.Spares "id")
    {w : Written (Option Bool)}
    (written : s.write id (fun tracked => tracked.model.perform tracked.fields change) = some (w, t)) :
    t.InStep rows stored ∧ WrittenAt id s t ∧
      ∃ m, s.model? id = some m ∧ t.model? id = some (m.perform [] change).model := by
  obtain ⟨tracked, found, -⟩ := Option.map_eq_some_iff.1 written
  have here : s.model? id = some tracked.model := by rw [model?, found]; rfl
  obtain ⟨schema, fields⟩ := h.kind.tracked tracked (List.mem_of_getElem? found)
  have primary := Model.primary_of_standard schema
  have old := h.intact id tracked.model here
  have run := Model.Run.single tracked.model change
  have spared := Model.perform_spared old.toAccounted (primary ▸ old.key_clean) spares
  have kept := run.keeps.1
  have primary' : (tracked.model.perform [] change).model.primary = "id" :=
    Model.primary_of_standard (kept.schema.trans schema)
  have key : (tracked.model.perform [] change).model.isNew = tracked.model.isNew := by
    rw [Model.isNew, Model.isNew, Model.key?, Model.key?, primary, primary', spared.field]
  rw [← fields] at run spared kept primary' key
  have announces := Model.perform_announces old.toAccounted (ModelCommand.Spares.isOvert spares)
  rw [← fields] at announces
  obtain ⟨tied, shown, apart⟩ := h.toTied.write h.nodup found run announces key written
  have data : t.data = s.data := by rw [apart.rest]
  have kind : t.OfKind fun schema fields => schema = .standard ∧ fields = [] := by
    refine (OfKind.preserved id).write (fun other ho => ?_) written h.kind
    rw [found, Option.some.injEq] at ho
    exact ho ▸ run
  have plain : t.Plain := ⟨kind, by rw [apart.rest]; exact h.filter, by rw [apart.rest]; exact h.paginator⟩
  have intact : (tracked.model.perform tracked.fields change).model.Intact := by
    refine ⟨spared.accounted, ?_⟩
    rw [primary', spared.mem_dirty old.toAccounted, ← primary]
    exact old.key_clean
  have keeps (row : Entity) (mirrors : Model.Mirrors row tracked.model) :
      Model.Mirrors row (tracked.model.perform tracked.fields change).model :=
    mirrors.of_spared kept.schema (primary.symm ▸ spared)
  refine ⟨⟨tied, h.toBacked.of_written plain apart.others here shown intact fun _ => keeps, data.symm ▸ h.nodup⟩, apart,
    tracked.model, here, ?_⟩
  rw [shown, fields]

theorem clean (h : s.InStep rows stored) {id : ModelId} {m : Model} (found : s.model? id = some m)
    (clean : m.isDirty = false) :
    ({ s with changes := { s.changes with updated := s.changes.updated.erase id } } : Source).InStep rows stored where
  toConsistent := h.toConsistent.drop (.refl _) List.erase_sublist
  mem_stored := h.mem_stored
  added_new := h.added_new
  stored_keyed := h.stored_keyed
  noted := by
    intro other ho member dirty
    have ne : other ≠ id := by
      rintro rfl
      have here : s.holds Model.isDirty other = true := dirty
      rw [holds, found, Option.any_some, clean] at here
      cases here
    exact (List.mem_erase_of_ne ne).2 (h.noted other ho member dirty)
  toBacked := ⟨⟨⟨h.kind.makes, h.kind.tracked⟩, h.filter, h.paginator⟩, h.intact, h.distinct, h.mirrored⟩
  nodup := h.nodup

theorem resetModel (h : s.InStep rows stored) {id : ModelId} (inside : id < s.models.length) :
    (s.resetModel id).InStep rows stored ∧ (s.resetModel id).holds Model.isDirty id = false ∧
      (s.resetModel id).origin = s.origin := by
  obtain ⟨m, found⟩ := model?_of_lt inside
  obtain ⟨tracked, listed, rfl⟩ := Option.map_eq_some_iff.1 found
  have accounted := (h.intact id tracked.model found).toAccounted
  obtain ⟨t, written⟩ : ∃ t, s.write id (fun tracked => tracked.model.reset) = some (tracked.model.reset, t) :=
    ⟨_, by rw [Source.write, listed, Option.map_some]⟩
  have performed : s.write id (fun tracked => tracked.model.perform tracked.fields .reset) =
      some (tracked.model.reset.silent, t) := by
    rw [Source.write, listed, Option.map_some] at written ⊢
    simp only [Option.some.injEq, Prod.mk.injEq, true_and] at written
    rw [← written]
    rfl
  have spares : ModelCommand.reset.Spares "id" := trivial
  obtain ⟨edited, apart, old, here, shown⟩ := h.edit spares performed
  rw [found, Option.some.injEq] at here
  subst here
  have result : s.resetModel id = { t with changes := { t.changes with updated := t.changes.updated.erase id } } := by
    rw [Source.resetModel, written]
  have reset := Model.reset_clean accounted
  rw [result]
  refine ⟨edited.clean shown reset, ?_, by rw [apart.rest]⟩
  show t.holds Model.isDirty id = false
  rw [holds, shown]
  exact reset

theorem restore (h : s.InStep rows stored) {id : ModelId} (clean : s.holds Model.isDirty id = false) :
    (s.restore id).InStep rows stored := by
  by_cases pending : id ∈ s.changes.removed
  · obtain ⟨index, place, result⟩ := restore_eq_enter pending clean
    have outside := h.removed_outside id pending
    have inside := h.toPending.known id (.inr (.inr pending))
    have entered := h.toTied.enter outside inside (.inl ((h.mem_stored id).2 (.inr pending)))
    have back := entered.congr fun other => (List.mem_insertIdx place).symm
    have backed := h.toBacked.rearranged (restore_frame s id)
    have coherent := h.coherent.restore id
    rw [result] at backed coherent ⊢
    exact ⟨back.of_same coherent.toConsistent rfl fun _ _ => rfl, backed, coherent.nodup⟩
  · obtain ⟨-, same⟩ | ⟨listed, -⟩ := restore_cases s id
    · rwa [same]
    · exact absurd listed pending

theorem cancel (h : s.InStep rows stored) (id : ModelId) :
    (s.cancel id).InStep rows stored ∧ (s.cancel id).origin = s.origin := by
  unfold Source.cancel
  split
  · refine removeFirst_preserves (P := fun t => t.InStep rows stored ∧ t.origin = s.origin) ⟨h, rfl⟩ (fun index => ?_)
      (· == id)
    refine ⟨h.exchange List.nodup_nil (by simp) (by simp), ?_⟩
    rw [(exchange_frame s index 1 []).1.rest]
  · have unmoved (t : Source) : (t.restore id).origin = t.origin := by rw [(restore_frame t id).rest]
    rw [unmoved]
    split
    · next dirty =>
      have inside : id < s.models.length := by
        rw [holds] at dirty
        cases found : s.model? id with
        | none => rw [found] at dirty; cases dirty
        | some m => exact lt_of_model? found
      obtain ⟨reset, clean, origin⟩ := h.resetModel inside
      exact ⟨reset.restore clean, origin⟩
    · next clean => exact ⟨h.restore (Bool.eq_false_iff.2 clean), rfl⟩

theorem gentle_handle {items : List Item} (gentle : ∀ item ∈ items, item.Gentle s) :
    ∀ id ∈ Item.handles items, id ∈ s.changes.removed ∨ id ∈ s.data := by
  intro id hid
  obtain ⟨item, listed, same⟩ := List.mem_filterMap.1 hid
  cases item with
  | entity entity => cases same
  | model other =>
    cases same
    exact gentle _ listed

theorem handles_lt (h : s.InStep rows stored) {items : List Item} (gentle : ∀ item ∈ items, item.Gentle s) :
    ∀ id ∈ Item.handles items, id < s.models.length := by
  intro id hid
  rcases gentle_handle gentle id hid with pending | member
  · exact h.toPending.known id (.inr (.inr pending))
  · exact h.follows.lt member

theorem candidates (h : s.InStep rows stored) {items : List Item} {ids : List ModelId}
    (gentle : ∀ item ∈ items, item.Gentle s) (e : s.Enrolled items ids t) :
    ∀ id ∈ ids, id < t.models.length ∧ (id ∈ stored ∨ t.holds Model.isNew id = true) := by
  have inside := h.handles_lt gentle
  intro id hid
  refine ⟨e.lt inside hid, ?_⟩
  rcases e.mem_ids id hid with listed | ⟨new, below⟩
  · have table := e.model? (inside id listed)
    rcases gentle_handle gentle id listed with pending | member
    · exact .inl ((h.mem_stored id).2 (.inr pending))
    · by_cases added : id ∈ s.changes.added
      · rw [holds_congr table]
        exact .inr (h.added_new id added)
      · exact .inl ((h.mem_stored id).2 (.inl ⟨member, added⟩))
  · obtain ⟨m, found⟩ := model?_of_lt below
    obtain ⟨entity, brought, pristine⟩ := h.toPlain.pristine e new found
    have falsy := (gentle _ brought).2
    right
    simp [holds, found, Model.isNew, pristine.key?, falsy]

end InStep

/-- Between two syncs the list can be built again from entities that echo the rows. -/
structure AtRest (s : Source) (rows : List Entity) : Prop where
  inStep : ∃ stored, s.InStep rows stored
  origin : ∃ listed, List.Forall₂ Echoes rows listed ∧ listed.Perm s.origin

theorem AtRest.ordered {s : Source} {rows : List Entity} (h : s.AtRest rows) : ∀ row ∈ rows, KeyMap.Ordered row := by
  obtain ⟨listed, echoes, -⟩ := h.origin
  intro row hrow
  obtain ⟨entity, -, echo⟩ := forall₂_exists_right echoes hrow
  exact echo.row_ordered

theorem ordered_of_map {entities : List Entity} (ordered : ∀ entity ∈ entities, KeyMap.Ordered entity) :
    ∀ entity, Item.entity entity ∈ entities.map Item.entity → KeyMap.Ordered entity := by
  intro entity he
  obtain ⟨other, ho, same⟩ := List.mem_map.1 he
  cases same
  exact ordered entity ho

theorem AtRest.of_load {s : Source} {rows : List Entity} (plain : s.Plain) (coherent : s.Coherent)
    (intact : ∀ id m, s.model? id = some m → m.Intact)
    (keyed : ∀ row ∈ rows, Json.truthy (KeyMap.get? row "id") = true) (ordered : ∀ row ∈ rows, KeyMap.Ordered row)
    {c : Collection} (perm : c.data.Perm rows) : ∃ ids t, s.load c = .ok (ids, t) ∧ t.AtRest rows := by
  obtain ⟨ids, u, wrapped, pristine⟩ := plain.wrapAll c.data
  have enrolled := enrolled_of_wrapAll wrapped
  have grown := plain.enrolled enrolled
  have fresh := plain.intact_enrolled intact enrolled (ordered_of_map fun row hrow => ordered row (perm.mem_iff.1 hrow))
  have follows : ({ u with total := c.total.getD u.total, extra := c.extra, origin := c.data } : Source).Follows
      (· ∈ s.data) := (enrolled.follows coherent.follows).of_same rfl rfl
  have noted : ({ u with total := c.total.getD u.total, extra := c.extra, origin := c.data } : Source).Plain :=
    ⟨⟨grown.kind.makes, grown.kind.tracked⟩, grown.filter, grown.paginator⟩
  have echoes : List.Forall₂ Echoes rows rows := List.forall₂_same.2 fun row hrow => .refl (ordered row hrow)
  have replaced := InStep.of_replace noted follows fresh enrolled.nodup_of_entities pristine keyed echoes perm.symm
  obtain ⟨rearranged, -⟩ :=
    replace_frame { u with total := c.total.getD u.total, extra := c.extra, origin := c.data } ids
  refine ⟨ids, _, ?_, replaced, rows, echoes, ?_⟩
  · rw [load, wrapped]
    rfl
  · rw [rearranged.rest]
    exact perm.symm

theorem AtRest.perform {s t : Source} {rows : List Entity} (h : s.AtRest rows)
    (keyed : ∀ row ∈ rows, Json.truthy (KeyMap.get? row "id") = true) {command : SourceCommand} {reply : SourceReply}
    (gentle : command.Gentle s) (done : s.perform command = .ok (reply, t)) : t.AtRest rows := by
  obtain ⟨fresh, items, kind⟩ := gentle
  obtain ⟨stored, inStep⟩ := h.inStep
  obtain ⟨listed, echoes, perm⟩ := h.origin
  by_cases all : command = .cancelAll
  · subst all
    obtain ⟨ids, u, wrapped, pristine⟩ := inStep.toPlain.wrapAll s.origin
    rw [Source.perform, Source.cancelAll, wrapped] at done
    cases done
    have enrolled := enrolled_of_wrapAll wrapped
    have ordered := ordered_of_map fun entity he => by
      obtain ⟨row, -, echo⟩ := forall₂_exists echoes (perm.mem_iff.2 he)
      exact echo.ordered
    have grown := inStep.enrolled enrolled ordered
    have replaced := InStep.of_replace grown.toPlain grown.follows grown.intact enrolled.nodup_of_entities pristine
      keyed echoes perm
    obtain ⟨rearranged, -⟩ := replace_frame u ids
    exact ⟨replaced, listed, echoes, by rw [rearranged.rest, enrolled.rest]; exact perm⟩
  · cases effect_of_perform done with
    | nothing => exact h
    | @exchange ids u index count enrolled staying =>
      have ordered : ∀ entity, Item.entity entity ∈ command.items → KeyMap.Ordered entity :=
        fun entity brought => (items _ brought).1
      have grown := inStep.enrolled enrolled ordered
      have inside : ∀ id ∈ Item.handles command.items, id < s.models.length := inStep.handles_lt items
      have exchanged := grown.exchange (enrolled.nodup inside fresh.distinct)
        (inStep.coherent.outside fresh enrolled staying) (inStep.candidates items enrolled)
      obtain ⟨rearranged, -⟩ := exchange_frame u index count ids
      exact ⟨⟨stored, exchanged⟩, listed, echoes, by rw [rearranged.rest, enrolled.rest]; exact perm⟩
    | setData same _ => subst same; cases kind
    | cancelAll same _ => exact absurd same all
    | cancel _ =>
      obtain ⟨cancelled, origin⟩ := inStep.cancel _
      exact ⟨⟨stored, cancelled⟩, listed, echoes, origin ▸ perm⟩
    | submit same => subst same; cases kind
    | edit same written =>
      subst same
      obtain ⟨edited, apart, -⟩ := inStep.edit kind written
      exact ⟨⟨stored, edited⟩, listed, echoes, by rw [apart.rest]; exact perm⟩

namespace InStep

variable {s : Source} {rows : List Entity} {stored : List ModelId} {id : ModelId} {m : Model}

theorem notMem_of_nodup_middle {front back : List ModelId} (h : (front ++ id :: back).Nodup) :
    id ∉ front ∧ id ∉ back := by
  obtain ⟨-, behind, apart⟩ := List.nodup_append.1 h
  exact ⟨fun hf => apart id hf id (.head _) rfl, (List.nodup_cons.1 behind).1⟩

theorem plain_accept (h : s.Plain) (call : SyncCall) (answer : call.request.Answer) :
    (s.accept call answer).Plain := by
  have kind := h.kind.accept call answer
  cases call <;> exact ⟨kind, h.filter, h.paginator⟩

/-- A model that was added is stored from now on, with the row that was made for it. -/
theorem create (h : s.InStep rows stored) (added : id ∈ s.changes.added) (found : s.model? id = some m) {text : String}
    (nonempty : text ≠ "") :
    (s.accept (.create id m.toEntity) (KeyMap.insert m.toEntity "id" (.str text))).InStep
      (rows ++ [KeyMap.insert m.toEntity "id" (.str text)]) (stored ++ [id]) := by
  have coherent := h.coherent.accept (.create id m.toEntity) (KeyMap.insert m.toEntity "id" (.str text))
  have plain := plain_accept h.toPlain (.create id m.toEntity) (KeyMap.insert m.toEntity "id" (.str text))
  have primary := Model.primary_of_standard (h.toPlain.schema found)
  have isNew : m.isNew = true := by
    have new := h.added_new id added
    rwa [holds, found] at new
  have mirrors := Model.Mirrors.create (h.intact id m found).toAccounted isNew nonempty
  rw [primary] at mirrors
  have schema := (m.rebase_keeps (KeyMap.insert m.toEntity "id" (.str text))).schema
  have key := mirrors.key
  rw [Model.primary_of_standard (schema.trans (h.toPlain.schema found)), KeyMap.get?_insert_self] at key
  -- From here on only this matters of what was saved: the model mirrors it and its key is the text.
  generalize KeyMap.insert m.toEntity "id" (.str text) = saved at *
  have unstored : id ∉ stored := fun hid => h.toAccords.notAdded hid added
  have here : (s.accept (.create id m.toEntity) saved).model? id = some (m.rebase saved).model := by
    have table := rebind_model?_self s id saved
    rwa [found] at table
  have others (other : ModelId) (ne : other ≠ id) :
      (s.accept (.create id m.toEntity) saved).model? other = s.model? other := rebind_model?_of_ne ne saved
  have backed := h.toBacked.of_written plain others found here (Model.rebase_intact (h.intact id m found) saved)
    fun hid => absurd hid unstored
  refine ⟨⟨⟨coherent.toConsistent, fun other => ?_, fun other ho => ?_, fun other ho => ?_⟩,
    fun other ho member dirty => ?_⟩, ⟨plain, backed.intact, ?_, ?_⟩, h.nodup⟩
  · show other ∈ stored ++ [id] ↔ (other ∈ s.data ∧ other ∉ s.changes.added.erase id) ∨ other ∈ s.changes.removed
    rw [List.mem_append, h.mem_stored, h.added.mem_erase_iff]
    by_cases same : other = id
    · subst same
      simp [h.added_members other added]
    · simp [same]
  · obtain ⟨ne, listed⟩ := h.added.mem_erase_iff.1 ho
    rw [holds_congr (others other ne)]
    exact h.added_new other listed
  · by_cases same : other = id
    · rw [same, holds, here, Option.any_some, Model.isNew, ← key]
      simp [Json.truthy, nonempty]
    · rw [holds_congr (others other same)]
      exact h.stored_keyed other ((List.mem_append.1 ho).resolve_right fun hid => same (List.mem_singleton.1 hid))
  · by_cases same : other = id
    · rw [same, holds, here] at dirty
      cases dirty
    · rw [holds_congr (others other same)] at dirty
      have listed := (List.mem_append.1 ho).resolve_right fun hid => same (List.mem_singleton.1 hid)
      exact h.noted other listed member dirty
  · exact List.nodup_append.2 ⟨h.distinct, by simp, by simp; rintro a ha rfl; exact unstored ha⟩
  · exact List.rel_append backed.mirrored (.cons ⟨_, here, mirrors⟩ .nil)

theorem stored_of_updated (h : s.InStep rows stored) (updated : id ∈ s.changes.updated) : id ∈ stored :=
  h.toAccords.stored_of_member (h.updated_members id updated) fun added => h.exclusive id added updated

theorem locate (h : s.InStep rows stored) (hid : id ∈ stored) (found : s.model? id = some m) :
    ∃ before row after front back, rows = before ++ row :: after ∧ stored = front ++ id :: back ∧
      s.Mirrored before front ∧ Model.Mirrors row m ∧ s.Mirrored after back := by
  obtain ⟨front, back, rfl⟩ := List.append_of_mem hid
  obtain ⟨before, row, after, rfl, below, ⟨other, shown, mirrors⟩, above⟩ := forall₂_split h.mirrored
  rw [found, Option.some.injEq] at shown
  exact ⟨before, row, after, front, back, rfl, rfl, below, shown ▸ mirrors, above⟩

section Located

variable {before after : List Entity} {row : Entity} {front back : List ModelId}

/-- An update is merged into the row and comes back to the model. -/
theorem update (h : s.InStep (before ++ row :: after) (front ++ id :: back)) (found : s.model? id = some m)
    (below : s.Mirrored before front) (mirrors : Model.Mirrors row m) (above : s.Mirrored after back)
    (key : PrimaryKey) :
    (s.accept (.update id key m.dirtyFields) (KeyMap.union row m.dirtyFields)).InStep
        (before ++ KeyMap.union row m.dirtyFields :: after) (front ++ id :: back) ∧
      KeyMap.get? (KeyMap.union row m.dirtyFields) "id" = KeyMap.get? row "id" := by
  have coherent := h.coherent.accept (.update id key m.dirtyFields) (KeyMap.union row m.dirtyFields)
  have plain := plain_accept h.toPlain (.update id key m.dirtyFields) (KeyMap.union row m.dirtyFields)
  have standard := h.toPlain.schema found
  have intact := h.intact id m found
  obtain ⟨merges, keeps⟩ := mirrors.update intact.toAccounted intact.key_clean
  rw [Model.primary_of_standard standard] at keeps
  have primary := Model.primary_of_standard
    ((m.rebase_keeps (KeyMap.union row m.dirtyFields)).schema.trans standard)
  generalize KeyMap.union row m.dirtyFields = saved at *
  have isNew : (m.rebase saved).model.isNew = m.isNew := by
    rw [Model.isNew, Model.isNew, ← merges.key, ← mirrors.key, primary, Model.primary_of_standard standard, keeps]
  have here : (s.accept (.update id key m.dirtyFields) saved).model? id = some (m.rebase saved).model := by
    have table := rebind_model?_self s id saved
    rwa [found] at table
  have others (other : ModelId) (ne : other ≠ id) :
      (s.accept (.update id key m.dirtyFields) saved).model? other = s.model? other := rebind_model?_of_ne ne saved
  have new (other : ModelId) : (s.accept (.update id key m.dirtyFields) saved).holds Model.isNew other =
      s.holds Model.isNew other := by
    by_cases same : other = id
    · rw [same, holds, holds, here, found]
      exact isNew
    · exact holds_congr (others other same) _
  refine ⟨⟨⟨⟨coherent.toConsistent, h.mem_stored, fun other ho => ?_, fun other ho => ?_⟩,
    fun other ho member dirty => ?_⟩, ⟨plain, h.intact_of_written others here (Model.rebase_intact intact saved),
    h.distinct, ?_⟩, h.nodup⟩, keeps⟩
  · rw [new]
    exact h.added_new other ho
  · rw [new]
    exact h.stored_keyed other ho
  · by_cases same : other = id
    · rw [same, holds, here] at dirty
      cases dirty
    · rw [holds_congr (others other same)] at dirty
      exact (List.mem_erase_of_ne same).2 (h.noted other ho member dirty)
  · obtain ⟨notFront, notBack⟩ := notMem_of_nodup_middle h.distinct
    exact List.rel_append (below.of_others notFront others) (.cons ⟨_, here, merges⟩ (above.of_others notBack others))

/-- A model whose removal was pending is not stored any more, and its row is gone. -/
theorem remove (h : s.InStep (before ++ row :: after) (front ++ id :: back)) (below : s.Mirrored before front)
    (above : s.Mirrored after back) (pending : id ∈ s.changes.removed) (key : PrimaryKey) :
    (s.accept (.remove id key) ()).InStep (before ++ after) (front ++ back) := by
  have coherent := h.coherent.accept (.remove id key) ()
  have plain := plain_accept h.toPlain (.remove id key) ()
  have outside := h.removed_outside id pending
  have rest (other : ModelId) : other ∈ front ++ back ↔ other ∈ front ++ id :: back ∧ other ≠ id := by
    obtain ⟨notFront, notBack⟩ := notMem_of_nodup_middle h.distinct
    simp only [List.mem_append, List.mem_cons]
    constructor
    · rintro (hf | hb)
      · exact ⟨.inl hf, fun same => notFront (same ▸ hf)⟩
      · exact ⟨.inr (.inr hb), fun same => notBack (same ▸ hb)⟩
    · rintro ⟨hf | rfl | hb, ne⟩
      · exact .inl hf
      · exact absurd rfl ne
      · exact .inr hb
  refine ⟨⟨⟨coherent.toConsistent, fun other => ?_, h.added_new, fun other ho => ?_⟩, fun other ho member dirty => ?_⟩,
    ⟨plain, h.intact, ?_, List.rel_append below above⟩, h.nodup⟩
  · show other ∈ front ++ back ↔
      (other ∈ s.data ∧ other ∉ s.changes.added) ∨ other ∈ s.changes.removed.erase id
    rw [rest, h.mem_stored, h.removed.mem_erase_iff]
    by_cases same : other = id
    · subst same
      simp [outside]
    · simp [same]
  · exact h.stored_keyed other ((rest other).1 ho).1
  · exact h.noted other ((rest other).1 ho).1 member dirty
  · exact h.distinct.sublist ((List.Sublist.refl front).append (List.sublist_cons_self id back))

end Located

/-- What is noted of the provider and what is scheduled does not matter. -/
theorem of_same (h : s.InStep rows stored) (origin : List Entity) (scheduled : Nat) :
    ({ s with origin, scheduled } : Source).InStep rows stored where
  toConsistent := h.toConsistent.of_same (Nat.le_refl _) rfl rfl rfl (h.follows.of_same rfl rfl)
  mem_stored := h.mem_stored
  added_new := h.added_new
  stored_keyed := h.stored_keyed
  noted := h.noted
  toBacked := ⟨⟨⟨h.kind.makes, h.kind.tracked⟩, h.filter, h.paginator⟩, h.intact, h.distinct, h.mirrored⟩
  nodup := h.nodup

/-- When nothing is pending any more, the members are equal to the rows, in some order. -/
theorem settle (h : s.InStep rows stored) (none : s.changes.added = [] ∧ s.changes.updated = [] ∧
    s.changes.removed = []) : ∃ listed, List.Forall₂ Echoes rows listed ∧ listed.Perm s.entities := by
  obtain ⟨added, updated, removed⟩ := none
  have members (id : ModelId) : id ∈ stored ↔ id ∈ s.data := by
    rw [h.mem_stored, added, removed]
    simp
  have perm : stored.Perm s.data := (List.perm_ext_iff_of_nodup h.distinct h.nodup).2 members
  refine ⟨stored.map s.entity, ?_, perm.map s.entity⟩
  rw [List.forall₂_map_right_iff]
  refine forall₂_mono h.mirrored fun row _ id hid ⟨m, found, mirrors⟩ => ?_
  have accounted := (h.intact id m found).toAccounted
  have clean : m.isDirty = false := by
    cases dirty : m.isDirty with
    | false => rfl
    | true =>
      have listed := h.noted id hid ((members id).1 hid) (by rw [holds, found]; exact dirty)
      rw [updated] at listed
      cases listed
  have entity : s.entity id = m.toEntity := by rw [Source.entity, found]; rfl
  obtain ⟨fields, root, ordered⟩ := accounted.isObject
  have key := mirrors.key
  rw [Model.key?, Model.primary_of_standard (h.toPlain.schema found), Model.field?_of_root root] at key
  rw [entity]
  refine ⟨mirrors.ordered, ?_, mirrors.beq_toEntity accounted clean, ?_⟩
  · rwa [Model.toEntity_of_root root]
  · rwa [Model.toEntity_of_root root]

end InStep

end Source

end RecordSync
