import RecordSync.Proofs.Identity
import RecordSync.Proofs.KeyMap
import RecordSync.Proofs.Query.Sorting
import RecordSync.Provider.Rows

/-!
# Rows that are told apart by their keys

When every row is found under its own key and under no other, a request reaches the one row that it is about. Creating,
updating and removing rows keep it that way, as long as generated keys are fresh.
-/

set_option autoImplicit false

namespace RecordSync

def PrimaryKey.ofField? (value : Option Json) : Option PrimaryKey := value.bind ofValue?

/-- A value that serves as a key: it is not falsy, and it can be read and found. -/
def PrimaryKey.Usable (value : Option Json) : Prop :=
  Json.truthy value = true ∧ ∃ key, ofField? value = some key ∧ key.matchesValue value = true

def PrimaryKey.Misses (value other : Option Json) : Prop :=
  ∀ key, ofField? value = some key → key.matchesValue other = false

/-- Usable keys none of which is taken for another. -/
structure PrimaryKey.Distinct (values : List (Option Json)) : Prop where
  usable : ∀ value ∈ values, Usable value
  apart : values.Pairwise fun a b => Misses a b ∧ Misses b a

/-- No identifier that is drawn from now on is a key already. -/
def IdSupply.FreshFor (ids : IdSupply) (values : List (Option Json)) : Prop :=
  ∀ number, ids.drawn ≤ number → some (Json.str (text ids.purpose number)) ∉ values

namespace PrimaryKey

theorem usable_text {text : String} (nonempty : text ≠ "") : Usable (some (.str text)) :=
  ⟨by simp [Json.truthy, nonempty], .text text, rfl, beq_self_eq_true text⟩

theorem misses_text {value : Option Json} {text : String} (ne : value ≠ some (.str text)) :
    Misses value (some (.str text)) := by
  intro key read
  cases key with
  | number n => rfl
  | text other =>
    cases value with
    | none => cases read
    | some value =>
      cases value with
      | str shown =>
        cases read
        exact beq_false_of_ne fun same => ne (same ▸ rfl)
      | num number =>
        cases number with
        | int n => cases read
        | double x =>
          simp only [ofField?, Option.bind_some, ofValue?, Option.map_eq_some_iff] at read
          obtain ⟨n, -, wrong⟩ := read
          cases wrong
      | _ => cases read

theorem text_misses {value : Option Json} {text : String} (ne : value ≠ some (.str text)) :
    Misses (some (.str text)) value := by
  intro key read
  cases read
  cases value with
  | none => rfl
  | some value =>
    cases value with
    | str shown => exact beq_false_of_ne fun same => ne (same ▸ rfl)
    | _ => rfl

theorem Distinct.append_text {values : List (Option Json)} (h : Distinct values) {text : String} (nonempty : text ≠ "")
    (fresh : some (.str text) ∉ values) : Distinct (values ++ [some (.str text)]) where
  usable := by
    intro value hv
    rcases List.mem_append.1 hv with hv | hv
    · exact h.usable value hv
    · rw [List.mem_singleton.1 hv]
      exact usable_text nonempty
  apart := by
    refine List.pairwise_append.2 ⟨h.apart, List.pairwise_singleton _ _, fun value hv other ho => ?_⟩
    have ne : value ≠ some (.str text) := fun same => fresh (same ▸ hv)
    rw [List.mem_singleton.1 ho]
    exact ⟨misses_text ne, text_misses ne⟩

theorem Distinct.sublist {values fewer : List (Option Json)} (h : Distinct values) (sub : fewer.Sublist values) :
    Distinct fewer where
  usable := fun value hv => h.usable value (sub.subset hv)
  apart := h.apart.sublist sub

end PrimaryKey

namespace IdSupply.FreshFor

variable {ids : IdSupply} {values : List (Option Json)}

theorem sublist (h : ids.FreshFor values) {fewer : List (Option Json)} (sub : fewer.Sublist values) :
    ids.FreshFor fewer := fun number later taken => h number later (sub.subset taken)

theorem next (h : ids.FreshFor values) :
    ids.next.2.FreshFor (values ++ [some (.str (text ids.purpose ids.drawn))]) := by
  intro number later taken
  have drawn : ids.drawn + 1 ≤ number := later
  rcases List.mem_append.1 taken with taken | taken
  · exact h number (by omega) taken
  · have same := Json.str.inj (Option.some.inj (List.mem_singleton.1 taken))
    have equal := text_injective same
    omega

end IdSupply.FreshFor

namespace Rows

def keys (r : Rows) : List (Option Json) := r.entities.map (KeyMap.get? · r.primary)

structure Locates (r : Rows) (key : PrimaryKey) (before : List Entity) (row : Entity) (after : List Entity) : Prop where
  split : r.entities = before ++ row :: after
  found : r.hasKey key row = true
  first : ∀ other ∈ before, r.hasKey key other = false

theorem locates_of_distinct {r : Rows} {before after : List Entity} {row : Entity}
    (distinct : PrimaryKey.Distinct r.keys) (split : r.entities = before ++ row :: after) :
    ∃ key, PrimaryKey.ofField? (KeyMap.get? row r.primary) = some key ∧ r.Locates key before row after := by
  have values : r.keys = before.map (KeyMap.get? · r.primary) ++
      KeyMap.get? row r.primary :: after.map (KeyMap.get? · r.primary) := by
    rw [keys, split, List.map_append, List.map_cons]
  obtain ⟨-, key, read, found⟩ := distinct.usable (KeyMap.get? row r.primary) (by simp [values])
  refine ⟨key, read, split, found, fun other ho => ?_⟩
  have apart := distinct.apart
  rw [values] at apart
  obtain ⟨-, -, across⟩ := List.pairwise_append.1 apart
  exact (across _ (List.mem_map_of_mem ho) _ (.head _)).2 key read

section Locates

variable {r : Rows} {key : PrimaryKey} {before after : List Entity} {row : Entity} (h : r.Locates key before row after)
include h

theorem Locates.find? : r.find? key = some row := by
  have none : before.find? (r.hasKey key) = none :=
    List.find?_eq_none.2 fun other ho => by simp [h.first other ho]
  rw [Rows.find?, h.split, List.find?_append, none, List.find?_cons_of_pos h.found]
  rfl

theorem Locates.findIdx : r.entities.findIdx (r.hasKey key) = before.length := by
  rw [h.split, List.findIdx_append, if_neg, List.findIdx_cons, h.found]
  · simp
  · rw [List.findIdx_lt_length]
    rintro ⟨other, ho, found⟩
    rw [h.first other ho] at found
    cases found

theorem call_update (ids : IdSupply) (changes : Entity) :
    r.call ids (.update key changes) = (.ok (KeyMap.union row changes),
      { r with entities := before ++ KeyMap.union row changes :: after }, ids) := by
  have exchanged : r.entities.set before.length (KeyMap.union row changes) =
      before ++ KeyMap.union row changes :: after := by
    rw [h.split, List.set_append_right _ _ (Nat.le_refl _), Nat.sub_self, List.set_cons_zero]
  simp only [call, h.find?, h.findIdx, exchanged]

theorem call_remove (ids : IdSupply) :
    r.call ids (.remove key) = (.ok (), { r with entities := before ++ after }, ids) := by
  have cut : r.entities.eraseP (r.hasKey key) = before ++ after := by
    rw [h.split, List.eraseP_append_right _ fun other ho => by simp [h.first other ho],
      List.eraseP_cons_of_pos h.found]
  simp only [call, h.find?, cut]

end Locates

theorem call_create (r : Rows) (ids : IdSupply) {entity : Entity}
    (falsy : Json.truthy (KeyMap.get? entity r.primary) = false) :
    r.call ids (.create entity) =
      (.ok (KeyMap.insert entity r.primary (.str (IdSupply.text ids.purpose ids.drawn))),
        { r with entities := r.entities ++
            [KeyMap.insert entity r.primary (.str (IdSupply.text ids.purpose ids.drawn))] }, ids.next.2) := by
  simp only [call, Entity.withKey, falsy, Bool.false_eq_true, if_false, IdSupply.next]

/-- Without a filter and without pages a fetch gives all rows, in the order that is asked for. -/
theorem select_whole (r : Rows) (params : FetchParams) (filter : params.filter = none) (page : params.page = none) :
    ∃ collection, r.select params = .ok collection ∧
      collection.data = orderRows r.entities (.ofStored params.sort) .asc := by
  have every (rows : List Entity) : rows.filter (fun _ => true) = rows := List.filter_eq_self.2 fun _ _ => rfl
  have compiled : FilterInput.absent.compile .empty = .ok fun _ => true := rfl
  have whole (rows : List Entity) : Rows.page none params.pageSize rows = rows := rfl
  simp only [select, filter, page, Option.map_none, Option.getD_none, compiled, every, whole]
  cases params.sort <;> exact ⟨_, rfl, rfl⟩

end Rows

end RecordSync
