import Mathlib.Data.List.Perm.Basic
import RecordSync.Proofs.Model.Rebase
import RecordSync.Proofs.SideBySide
import RecordSync.Proofs.Source.Tied

/-!
# Rows behind a source

The rows of a provider stand in the order of the models that it has stored, each row mirrored by its model. Nothing that
is done to the source alone disturbs this as long as keys are spared, and the calls of a sync change rows and models
alike.
-/

set_option autoImplicit false

namespace RecordSync

namespace Model

theorem primary_of_standard {m : Model} (h : m.schema = .standard) : m.primary = "id" := by
  rw [primary, h]
  rfl

structure Intact (m : Model) : Prop extends Accounted m where
  key_clean : m.primary ∉ m.dirty

theorem Intact.of_unobserved {m new : Model} (h : m.Intact) (same : m.unobserved = new.unobserved) :
    new.Intact := by
  have blind : m.unobserved.Intact := ⟨⟨h.isObject, h.nodup, h.mem_dirty⟩, h.key_clean⟩
  rw [same] at blind
  exact ⟨⟨blind.isObject, blind.nodup, blind.mem_dirty⟩, blind.key_clean⟩

theorem Mirrors.of_unobserved {row : Entity} {m new : Model} (h : Mirrors row m)
    (same : m.unobserved = new.unobserved) : Mirrors row new := by
  have blind : Mirrors row m.unobserved := ⟨h.ordered, h.committed, h.key⟩
  rw [same] at blind
  exact ⟨blind.ordered, blind.committed, blind.key⟩

theorem rebase_intact {m : Model} (h : m.Intact) (values : Entity) : (m.rebase values).model.Intact where
  toAccounted := rebase_accounted h.toAccounted values
  key_clean := List.not_mem_nil

structure Pristine (entity : Entity) (m : Model) : Prop where
  schema : m.schema = .standard
  root : m.root = .obj entity
  committed : m.committed = entity
  dirty : m.dirty = []

end Model

/-- A row and an entity that are equal, with the same key. -/
structure Echoes (row entity : Entity) : Prop where
  row_ordered : KeyMap.Ordered row
  ordered : KeyMap.Ordered entity
  equal : (Json.obj row == .obj entity) = true
  key : KeyMap.get? row "id" = KeyMap.get? entity "id"

theorem Echoes.refl {row : Entity} (ordered : KeyMap.Ordered row) : Echoes row row :=
  ⟨ordered, ordered, BEq.rfl, rfl⟩

theorem pristine_of_build {uuid : String} {fields : VirtualFields} {entity : Entity} {tracked : Tracked}
    (h : Tracked.build uuid .standard fields (.obj entity) = .ok tracked) : tracked.model.Pristine entity := by
  cases h
  exact ⟨rfl, rfl, rfl, rfl⟩

namespace Model.Pristine

variable {entity : Entity} {m : Model} (h : m.Pristine entity)
include h

theorem intact (ordered : KeyMap.Ordered entity) : m.Intact where
  toAccounted := accounted_of_same h.root ordered h.committed h.dirty
  key_clean := by simp [h.dirty]

theorem key? : m.key? = KeyMap.get? entity "id" := by
  rw [Model.key?, primary_of_standard h.schema, field?_of_root h.root]

theorem mirrors {row : Entity} (echoes : Echoes row entity) : Mirrors row m where
  ordered := echoes.row_ordered
  committed := by
    rw [h.committed]
    exact echoes.equal
  key := by
    rw [primary_of_standard h.schema, h.key?]
    exact echoes.key

theorem isDirty : m.isDirty = false := by rw [Model.isDirty, h.dirty]; rfl

end Model.Pristine

namespace Source

theorem wrap_of_build {s : Source} {entity : Entity} {tracked : Tracked}
    (built : Tracked.build s.ids.next.1 s.schema s.fields (.obj entity) = .ok tracked) :
    s.wrap entity = .ok (s.models.length, { s with ids := s.ids.next.2, models := s.models ++ [tracked] }) := by
  simp only [Source.wrap, built, bind, Except.bind, pure, Except.pure]
  rfl

/-- Entities that pass are wrapped without fail, one after the other. -/
theorem wrapAll_of_builds {s : Source} {P : Entity → Model → Prop} {entities : List Entity}
    (builds : ∀ entity ∈ entities, ∀ uuid, ∃ tracked,
      Tracked.build uuid s.schema s.fields (.obj entity) = .ok tracked ∧ P entity tracked.model) :
    ∃ ids t, s.wrapAll entities = .ok (ids, t) ∧
      List.Forall₂ (fun entity id => ∃ m, t.model? id = some m ∧ P entity m) entities ids := by
  induction entities generalizing s with
  | nil => exact ⟨[], s, rfl, .nil⟩
  | cons entity rest ih =>
    obtain ⟨tracked, built, holds⟩ := builds entity (.head _) s.ids.next.1
    have wrapped := wrap_of_build built
    obtain ⟨ids, t, later, others⟩ := @ih { s with ids := s.ids.next.2, models := s.models ++ [tracked] }
      fun other listed => builds other (.tail _ listed)
    refine ⟨s.models.length :: ids, t, ?_, .cons ⟨tracked.model, ?_, holds⟩ others⟩
    · simp only [Source.wrapAll, wrapped, later, bind, Except.bind, pure, Except.pure]
    · rw [(enrolled_of_wrapAll later).model? (by simp), model?]
      simp

theorem wrapAll_of_standard {s : Source} (standard : s.schema = .standard) (entities : List Entity) :
    ∃ ids t, s.wrapAll entities = .ok (ids, t) ∧
      List.Forall₂ (fun entity id => ∃ m, t.model? id = some m ∧ m.Pristine entity) entities ids := by
  refine wrapAll_of_builds fun entity _ uuid => ?_
  rw [standard]
  exact ⟨_, rfl, pristine_of_build rfl⟩

structure Plain (s : Source) : Prop where
  kind : s.OfKind fun schema fields => schema = .standard ∧ fields = []
  filter : s.filter = none
  paginator : s.paginator = .disabled

namespace Plain

variable {s t : Source}

theorem rearranged (h : s.Plain) (r : s.Rearranged t) : t.Plain where
  kind := h.kind.rearranged r
  filter := by rw [r.rest]; exact h.filter
  paginator := by rw [r.rest]; exact h.paginator

theorem enrolled (h : s.Plain) {items : List Item} {ids : List ModelId} (e : s.Enrolled items ids t) : t.Plain where
  kind := h.kind.enrolled e
  filter := by rw [e.rest]; exact h.filter
  paginator := by rw [e.rest]; exact h.paginator

theorem schema (h : s.Plain) {id : ModelId} {m : Model} (found : s.model? id = some m) : m.schema = .standard := by
  obtain ⟨tracked, listed, rfl⟩ := Option.map_eq_some_iff.1 found
  exact (h.kind.tracked tracked (List.mem_of_getElem? listed)).1

/-- A new entry of the table is made from an entity that has been brought in. -/
theorem pristine (h : s.Plain) {items : List Item} {ids : List ModelId} (e : s.Enrolled items ids t) {id : ModelId}
    {m : Model} (new : s.models.length ≤ id) (found : t.model? id = some m) :
    ∃ entity, Item.entity entity ∈ items ∧ m.Pristine entity := by
  obtain ⟨built, models, fresh⟩ := e.grown
  rw [model?, models, List.getElem?_append_right new] at found
  obtain ⟨tracked, listed, rfl⟩ := Option.map_eq_some_iff.1 found
  obtain ⟨uuid, entity, brought, made⟩ := fresh tracked (List.mem_of_getElem? listed)
  rw [h.kind.makes.1] at made
  exact ⟨entity, brought, pristine_of_build made⟩

theorem intact_enrolled (h : s.Plain) (intact : ∀ id m, s.model? id = some m → m.Intact) {items : List Item}
    {ids : List ModelId} (e : s.Enrolled items ids t)
    (ordered : ∀ entity, Item.entity entity ∈ items → KeyMap.Ordered entity) :
    ∀ id m, t.model? id = some m → m.Intact := by
  intro id m found
  by_cases inside : id < s.models.length
  · rw [e.model? inside] at found
    exact intact id m found
  · obtain ⟨entity, brought, pristine⟩ := h.pristine e (Nat.le_of_not_lt inside) found
    exact pristine.intact (ordered entity brought)

theorem wrapAll (h : s.Plain) (entities : List Entity) :
    ∃ ids t, s.wrapAll entities = .ok (ids, t) ∧
      List.Forall₂ (fun entity id => ∃ m, t.model? id = some m ∧ m.Pristine entity) entities ids :=
  wrapAll_of_standard h.kind.makes.1 entities

end Plain

def Mirrored (s : Source) (rows : List Entity) (ids : List ModelId) : Prop :=
  List.Forall₂ (fun row id => ∃ m, s.model? id = some m ∧ Model.Mirrors row m) rows ids

structure Backed (s : Source) (rows : List Entity) (stored : List ModelId) : Prop extends Plain s where
  intact : ∀ id m, s.model? id = some m → m.Intact
  distinct : stored.Nodup
  mirrored : s.Mirrored rows stored

theorem Mirrored.of_others {s t : Source} {rows : List Entity} {ids : List ModelId} {id : ModelId}
    (h : s.Mirrored rows ids) (outside : id ∉ ids) (others : ∀ other, other ≠ id → t.model? other = s.model? other) :
    t.Mirrored rows ids :=
  forall₂_mono h fun _ _ other ho ⟨m, found, mirrors⟩ => by
    have ne : other ≠ id := by
      rintro rfl
      exact outside ho
    exact ⟨m, (others other ne).trans found, mirrors⟩

namespace Backed

variable {s t : Source} {rows : List Entity} {stored : List ModelId}

theorem of_models (h : s.Backed rows stored) (plain : t.Plain) (intact : ∀ id m, t.model? id = some m → m.Intact)
    (stays : ∀ id ∈ stored, ∀ m, s.model? id = some m →
      ∃ new, t.model? id = some new ∧ ∀ row, Model.Mirrors row m → Model.Mirrors row new) : t.Backed rows stored where
  toPlain := plain
  intact := intact
  distinct := h.distinct
  mirrored := forall₂_mono h.mirrored fun row _ id hid ⟨m, found, mirrors⟩ => by
    obtain ⟨new, shown, keeps⟩ := stays id hid m found
    exact ⟨new, shown, keeps row mirrors⟩

theorem rearranged (h : s.Backed rows stored) (r : s.Rearranged t) : t.Backed rows stored := by
  refine h.of_models (h.toPlain.rearranged r) (fun id m found => ?_) fun id _ m found => ?_
  · obtain ⟨old, shown, same⟩ := r.models.model? found
    exact (h.intact id old shown).of_unobserved same
  · obtain ⟨new, shown, same⟩ := r.models.symm.model? found
    exact ⟨new, shown, fun row mirrors => mirrors.of_unobserved same.symm⟩

theorem enrolled (h : s.Backed rows stored) {items : List Item} {ids : List ModelId} (e : s.Enrolled items ids t)
    (ordered : ∀ entity, Item.entity entity ∈ items → KeyMap.Ordered entity) : t.Backed rows stored := by
  refine h.of_models (h.toPlain.enrolled e) (h.toPlain.intact_enrolled h.intact e ordered) fun id _ m found => ?_
  exact ⟨m, by rw [e.model? (lt_of_model? found), found], fun _ mirrors => mirrors⟩

theorem intact_of_written (h : s.Backed rows stored) {id : ModelId} {new : Model}
    (others : ∀ other, other ≠ id → t.model? other = s.model? other) (shown : t.model? id = some new)
    (intact : new.Intact) : ∀ other m, t.model? other = some m → m.Intact := by
  intro other m found
  by_cases same : other = id
  · rw [same, shown, Option.some.injEq] at found
    exact found ▸ intact
  · rw [others other same] at found
    exact h.intact other m found

theorem of_written (h : s.Backed rows stored) (plain : t.Plain) {id : ModelId} {old new : Model}
    (others : ∀ other, other ≠ id → t.model? other = s.model? other) (found : s.model? id = some old)
    (shown : t.model? id = some new) (intact : new.Intact)
    (keeps : id ∈ stored → ∀ row, Model.Mirrors row old → Model.Mirrors row new) : t.Backed rows stored := by
  refine h.of_models plain (h.intact_of_written others shown intact) fun other ho m hm => ?_
  by_cases same : other = id
  · subst same
    rw [found, Option.some.injEq] at hm
    exact ⟨new, shown, hm ▸ keeps ho⟩
  · exact ⟨m, by rw [others other same, hm], fun _ mirrors => mirrors⟩

end Backed

end Source

end RecordSync
