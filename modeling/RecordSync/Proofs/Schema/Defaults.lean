import RecordSync.Proofs.Schema.Fitting
import RecordSync.Proofs.Schema.WellFormed

/-!
# Declared defaults

The defaults of a schema can be listed, and validation fills them into an object that lacks them. The list goes into
properties that are declared as objects and asks what there is inside of them; a default that such a property declares
for itself is filled in but not listed.
-/

set_option autoImplicit false

namespace RecordSync.Schema

/-- What a property gives to the defaults of its object: an object what there is inside of it, and any other property the
default that it declares. -/
def contribution (p : Schema) : Option Json :=
  if p.types = [.object] then if p.defaults = [] then none else some (.obj p.defaults) else p.default

theorem defaults_eq (s : Schema) :
    s.defaults = s.properties.filterMap fun entry => entry.2.contribution.map (entry.1, ·) := by
  obtain ⟨declared, properties, required, items, default, readOnly, primaryKey⟩ := s
  rw [defaults]
  dsimp only
  induction properties with
  | nil => rw [defaultsOf]; rfl
  | cons entry rest ih =>
    obtain ⟨key, p⟩ := entry
    rw [defaultsOf, List.filterMap_cons, contribution, ih]
    by_cases object : p.types = [.object]
    · by_cases nothing : p.defaults = []
      · simp [object, nothing]
      · simp [object, nothing]
    · cases p.default <;> simp [object]

theorem get?_defaults {s : Schema} (distinct : (s.properties.map (·.1)).Nodup) (key : String) :
    KeyMap.get? s.defaults key = (KeyMap.get? s.properties key).bind contribution := by
  rw [defaults_eq, KeyMap.get?_filterMap_entries distinct]

inductive Contributes : Schema → Prop where
  | plain {s p : Schema} {key : String} (listed : (key, p) ∈ s.properties) (other : p.types ≠ [.object])
      (given : p.default.isSome = true) : Contributes s
  | nested {s p : Schema} {key : String} (listed : (key, p) ∈ s.properties) (object : p.types = [.object])
      (below : Contributes p) : Contributes s

theorem isSome_contribution (p : Schema) :
    p.contribution.isSome = true ↔ if p.types = [.object] then p.defaults ≠ [] else p.default.isSome = true := by
  unfold contribution
  split
  · split <;> simp [*]
  · rfl

theorem defaults_ne_nil {s : Schema} (wellFormed : s.WellFormed) : s.defaults ≠ [] ↔ s.Contributes := by
  induction wellFormed with
  | @intro s ordered properties items properties_ih items_ih =>
    have listed_iff : s.defaults ≠ [] ↔ ∃ entry ∈ s.properties, entry.2.contribution.isSome = true := by
      simp [defaults_eq, Option.isSome_iff_ne_none]
    rw [listed_iff]
    constructor
    · rintro ⟨⟨key, p⟩, listed, given⟩
      rw [isSome_contribution] at given
      split at given
      · next object => exact .nested listed object ((properties_ih _ listed).1 given)
      · next other => exact .plain listed other given
    · intro contributes
      cases contributes with
      | plain listed other given =>
        exact ⟨_, listed, (isSome_contribution _).2 (by rwa [if_neg other])⟩
      | nested listed object below =>
        exact ⟨_, listed, (isSome_contribution _).2 (by rw [if_pos object]; exact (properties_ih _ listed).2 below)⟩

theorem field?_validate_nothing {s : Schema} (distinct : (s.properties.map (·.1)).Nodup) (key : String) :
    (s.validate (.obj []) []).1.field? key =
      if .object ∈ s.types then
        (KeyMap.get? s.properties key).bind fun p => p.default.map fun value => (validateAt p [key] value).1
      else none := by
  rw [validate, Schema.at, validateAt_object]
  split
  · show KeyMap.get? (validateProperties s.properties [] []).1 key = _
    by_cases listed : key ∈ s.properties.map (·.1)
    · obtain ⟨⟨_, p⟩, property, rfl⟩ := List.mem_map.1 listed
      rw [get?_validateProperties distinct property, KeyMap.get?_of_mem distinct property]
      rfl
    · have undeclared : KeyMap.get? s.properties key = none :=
        KeyMap.get?_eq_none fun entry member same => listed (List.mem_map.2 ⟨entry, member, same⟩)
      rw [validateProperties_of_not_mem listed, undeclared]
      rfl
  · rfl

/-- A key that validation fills into an object without fields is among the listed defaults, unless its property is declared
as an object and nothing inside of it has a default that is listed. If it is not declared as an object, what is filled in
is the listed default after validation. -/
theorem defaults_agree {s : Schema} (wellFormed : s.WellFormed) {key : String}
    (filled : ((s.validate (.obj []) []).1.field? key).isSome = true) :
    ∃ p, KeyMap.get? s.properties key = some p ∧
      (KeyMap.contains s.defaults key = true ↔ (p.types = [.object] → p.Contributes)) ∧
      (p.types ≠ [.object] → (s.validate (.obj []) []).1.field? key =
        (KeyMap.get? s.defaults key).map fun value => (validateAt p [key] value).1) := by
  cases wellFormed with
  | intro ordered properties items =>
    have distinct := ordered.nodup_keys
    rw [field?_validate_nothing distinct] at filled ⊢
    split at filled
    · next object =>
      rw [if_pos object]
      cases found : KeyMap.get? s.properties key with
      | none =>
        rw [found] at filled
        cases filled
      | some p =>
        rw [found, Option.bind_some, Option.isSome_map] at filled
        have inside := defaults_ne_nil (properties _ (KeyMap.mem_of_get? found))
        refine ⟨p, rfl, ?_, fun other => ?_⟩
        · rw [KeyMap.contains, get?_defaults distinct, found, Option.bind_some, isSome_contribution]
          split
          · next nested => simp [nested, inside]
          · next other => simp [other, filled]
        · rw [get?_defaults distinct, found, Option.bind_some, Option.bind_some, contribution, if_neg other]
    · cases filled

def profile : Schema :=
  { standard with
    properties :=
      [("address", { standard with
          properties := [("city", { ofType .string with default := some (.str "x") })]
          default := some (.obj []) })] }

theorem profile_wellFormed : profile.WellFormed := by decide

theorem defaults_agree_profile : profile.WellFormed ∧
    (profile.validate (.obj []) []).1 = .obj [("address", .obj [("city", .str "x")])] ∧
    KeyMap.contains profile.defaults "address" = true := by
  have validated : (profile.validate (.obj []) []).1 = .obj [("address", .obj [("city", .str "x")])] := rfl
  have filled : ((profile.validate (.obj []) []).1.field? "address").isSome = true := by rw [validated]; rfl
  obtain ⟨p, property, listed, -⟩ := defaults_agree profile_wellFormed filled
  cases property
  exact ⟨profile_wellFormed, validated, listed.2 fun _ => .plain (.head _) (by decide) rfl⟩

/-- The default that an object property declares for itself is filled in and not listed. -/
theorem defaults_disagree : ¬∀ (s : Schema) (key : String), s.WellFormed →
    ((s.validate (.obj []) []).1.field? key).isSome = true → KeyMap.contains s.defaults key = true := by
  intro agree
  have wellFormed : Schema.WellFormed
      { standard with properties := [("address", { standard with default := some (.obj [("city", .str "x")]) })] } := by
    decide
  have listed := agree _ "address" wellFormed rfl
  cases listed

end RecordSync.Schema
