import RecordSync.Proofs.Provider.Keys
import RecordSync.Proofs.Source.History

/-!
# Keys that address their own entities

The rows of a provider and the members of a source are found by the key that is read from one of them. As long as the
value is not far from zero, what is found has the same key, and nothing but that is changed.
-/

set_option autoImplicit false

namespace RecordSync

namespace Source

variable {s : Source} {id : ModelId} {before after : List ModelId}

def keyValue (s : Source) (id : ModelId) : Option Json := (s.model? id).bind Model.key?

structure PendsAlike (s t : Source) (id : ModelId) : Prop where
  added : id ∈ t.changes.added ↔ id ∈ s.changes.added
  updated : id ∈ t.changes.updated ↔ id ∈ s.changes.updated
  removed : id ∈ t.changes.removed ↔ id ∈ s.changes.removed

theorem pendsAlike_leave {other : ModelId} (ne : other ≠ id) (s : Source) (index : Nat) :
    s.PendsAlike (s.leave id index) other where
  added := by rw [added_leave, List.mem_erase_of_ne ne]
  updated := by rw [updated_leave, List.mem_erase_of_ne ne]
  removed := by
    rw [mem_removed_leave]
    exact ⟨fun listed => listed.resolve_right fun same => ne same.1, .inl⟩

theorem exchange_member (split : s.data = before ++ id :: after) : ∃ start scheduled,
    (s.exchange before.length 1 []).2 =
      { ({ s with data := before ++ after } : Source).leave id start with scheduled } := by
  obtain ⟨placed, left, removed, start, scheduled, parts, rfl, rfl, result⟩ := exchange_eq s before.length 1 []
  have front : s.data.take before.length = before := by rw [split, List.take_left]
  have back : s.data.drop (before.length + 1) = after := by rw [split, ← List.drop_drop, List.drop_left]; rfl
  rw [front, back] at parts result
  have cut : removed = [id] := by
    rw [split, List.append_assoc, List.append_cancel_left_eq] at parts
    exact (List.append_cancel_right (show [id] ++ after = removed ++ after from parts)).symm
  rw [cut, List.append_nil] at result
  exact ⟨start, scheduled, result⟩

/-- One member leaves the list, and nothing else changes about the others. -/
structure Loses (s : Source) (before : List ModelId) (id : ModelId) (after : List ModelId) (t : Source) : Prop where
  data : t.data = before ++ after
  models : s.SameModels t
  others : ∀ other, other ≠ id → s.PendsAlike t other

theorem loses_exchange (split : s.data = before ++ id :: after) :
    s.Loses before id after (s.exchange before.length 1 []).2 := by
  obtain ⟨start, scheduled, result⟩ := exchange_member split
  obtain ⟨rearranged, data⟩ := leave_frame { s with data := before ++ after } id start
  rw [result]
  refine ⟨data, rearranged.models, fun other ne => ?_⟩
  have alike := pendsAlike_leave ne { s with data := before ++ after } start
  exact ⟨alike.added, alike.updated, alike.removed⟩

variable {v : Json} {key : PrimaryKey} {found : ModelId}

theorem hasKey_iff (read : PrimaryKey.ofValue? v = some key) (near : ¬PrimaryKey.Far v) (id : ModelId) :
    s.hasKey key id = true ↔ PrimaryKey.Same v (s.keyValue id) :=
  PrimaryKey.matchesValue_of_near read near (s.keyValue id)

section First

variable (read : PrimaryKey.ofValue? v = some key) (near : ¬PrimaryKey.Far v)
  (first : PrimaryKey.First s.keyValue v s.data before found after)
include read near first

theorem find?_of_first : s.find? key = some found := by
  have missed : before.find? (s.hasKey key) = none :=
    List.find?_eq_none.2 fun other ho hit => first.others other ho ((hasKey_iff read near other).1 hit)
  rw [find?, first.split, List.find?_append, missed, Option.none_or,
    List.find?_cons_of_pos ((hasKey_iff read near found).2 first.same)]

theorem removeKey_of_first :
    (s.removeKey key).1 = some before.length ∧ s.Loses before found after (s.removeKey key).2 := by
  have place : s.data.findIdx? (s.hasKey key) = some before.length := by
    have missed : before.findIdx? (s.hasKey key) = none :=
      List.findIdx?_eq_none_iff.2 fun other ho => Bool.eq_false_iff.2 fun hit =>
        first.others other ho ((hasKey_iff read near other).1 hit)
    rw [first.split, List.findIdx?_append, missed, List.findIdx?_cons,
      if_pos ((hasKey_iff read near found).2 first.same)]
    simp
  rw [removeKey, removeFirst, place]
  exact ⟨rfl, loses_exchange first.split⟩

end First

end Source

/-- A key that is read from a value matches what is the same, unless both are numbers at least `2 ^ 53` away from zero.
Those it compares by their nearest doubles; what is the same it still matches up to `2 ^ 63`. So by a key that is not far,
rows and members are found, updated and removed that have the same key, and the first of them is reached. -/
theorem keys_address_same {v : Json} {key : PrimaryKey} (read : PrimaryKey.ofValue? v = some key) :
    (∀ w, ¬(PrimaryKey.Far v ∧ PrimaryKey.Far w) →
        (key.matchesValue (some w) = true ↔ PrimaryKey.Same v (some w))) ∧
      (v.WellFormed →
        (∀ x y, v = .num x → key.matchesValue (some (.num y)) = y.toDouble.numEq x.keyDouble) ∧
          (PrimaryKey.Fits v → ∀ w, w.WellFormed → PrimaryKey.Same v (some w) → key.matchesValue (some w) = true)) ∧
      (¬PrimaryKey.Far v →
        (∀ (r : Rows), ∀ row ∈ r.entities, r.keyValue row = some v → ∃ before found after,
            PrimaryKey.First r.keyValue v r.entities before found after ∧ (found = row ∨ row ∈ after) ∧
            ∀ ids changes,
              r.call ids (.get key) = (.ok (some found), r, ids) ∧
              r.call ids (.update key changes) = (.ok (KeyMap.union found changes),
                { r with entities := before ++ KeyMap.union found changes :: after }, ids) ∧
              r.call ids (.remove key) = (.ok (), { r with entities := before ++ after }, ids)) ∧
          ∀ (s : Source), ∀ id ∈ s.data, s.keyValue id = some v → ∃ before found after,
            PrimaryKey.First s.keyValue v s.data before found after ∧ (found = id ∨ id ∈ after) ∧
            s.find? key = some found ∧ (s.removeKey key).1 = some before.length ∧
            s.Loses before found after (s.removeKey key).2) := by
  refine ⟨fun w close => PrimaryKey.matchesValue_iff_same read close, fun wellFormed => ⟨?_, ?_⟩, fun near => ⟨?_, ?_⟩⟩
  · rintro x y rfl
    exact PrimaryKey.matchesValue_number wellFormed read
  · exact fun fits w hw same => PrimaryKey.matchesValue_of_same wellFormed hw fits read same
  · intro r row listed own
    obtain ⟨before, found, after, first, place⟩ := PrimaryKey.exists_first listed own read near
    have here := Rows.locates_of_first read near first
    refine ⟨before, found, after, first, place, fun ids changes => ⟨?_, Rows.call_update here ids changes, ?_⟩⟩
    · rw [Rows.call, here.find?]
    · exact Rows.call_remove here ids
  · intro s id listed own
    obtain ⟨before, found, after, first, place⟩ := PrimaryKey.exists_first listed own read near
    exact ⟨before, found, after, first, place, Source.find?_of_first read near first,
      Source.removeKey_of_first read near first⟩

def twos : Rows where
  primary := "id"
  entities := [[("id", .str "2")], [("id", .num (.double ⟨false, 2 <<< 1074⟩))], [("id", .num (.int 2))]]

/-- The key of the integer reaches the double in front of it. -/
theorem keys_address_same_twos : PrimaryKey.ofValue? (.num (.int 2)) = some (.number 2) ∧
    ¬PrimaryKey.Far (.num (.int 2)) ∧ [("id", .num (.int 2))] ∈ twos.entities ∧
    (∃ before found after, PrimaryKey.First twos.keyValue (.num (.int 2)) twos.entities before found after ∧
      (twos.call .keys (.get (.number 2))).1 = .ok (some found) ∧
      (twos.call .keys (.remove (.number 2))).2.1.entities = before ++ after) ∧
    ∃ s before found after, Source.fetched? twos.entities = some s ∧
      PrimaryKey.First s.keyValue (.num (.int 2)) [0, 1, 2] before found after ∧
      s.find? (.number 2) = some found ∧ (s.removeKey (.number 2)).2.data = before ++ after := by
  have near : ¬PrimaryKey.Far (.num (.int 2)) := fun far => far (Number.isNear_int.2 (by decide))
  have listed : [("id", .num (.int 2))] ∈ twos.entities := .tail _ (.tail _ (.head _))
  have read : PrimaryKey.ofValue? (.num (.int 2)) = some (.number 2) := rfl
  obtain ⟨-, -, addressed⟩ := keys_address_same read
  obtain ⟨rows, source⟩ := addressed near
  refine ⟨read, near, listed, ?_, ?_⟩
  · obtain ⟨before, found, after, first, -, answers⟩ := rows twos _ listed rfl
    obtain ⟨get, -, remove⟩ := answers .keys []
    exact ⟨before, found, after, first, by rw [get], by rw [remove]⟩
  · obtain ⟨s, fetched, data, own⟩ :
        ∃ s, Source.fetched? twos.entities = some s ∧ s.data = [0, 1, 2] ∧ s.keyValue 2 = some (.num (.int 2)) :=
      ⟨_, rfl, rfl, rfl⟩
    obtain ⟨before, found, after, first, -, get, -, loses⟩ :=
      source s 2 (data ▸ .tail _ (.tail _ (.head _))) own
    exact ⟨s, before, found, after, fetched, data ▸ first, get, loses.data⟩

def neighbours : Rows where
  primary := "id"
  entities := [[("id", .num (.int 9007199254740992))], [("id", .num (.int 9007199254740993))]]

/-- Far from zero the key of one row reaches another, and beyond the range of keys a key does not match its own value. -/
theorem not_keys_address_same :
    (∃ key row, row ∈ neighbours.entities ∧ neighbours.keyValue row = some (.num (.int 9007199254740993)) ∧
      PrimaryKey.ofValue? (.num (.int 9007199254740993)) = some key ∧
      key.matchesValue (some (.num (.int 9007199254740992))) = true ∧
      ¬PrimaryKey.Same (.num (.int 9007199254740993)) (some (.num (.int 9007199254740992))) ∧
      (neighbours.call .keys (.get key)).1 = .ok (some [("id", .num (.int 9007199254740992))]) ∧
      (neighbours.call .keys (.remove key)).2.1.entities = [row]) ∧
    ∃ key, PrimaryKey.ofValue? (.num (.int 18446744073709551615)) = some key ∧
      PrimaryKey.Same (.num (.int 18446744073709551615)) (some (.num (.int 18446744073709551615))) ∧
      key.matchesValue (some (.num (.int 18446744073709551615))) = false := by
  have taken : neighbours.Locates (.number 9007199254740993) [] [("id", .num (.int 9007199254740992))]
      [[("id", .num (.int 9007199254740993))]] :=
    ⟨rfl, by decide +kernel, by simp⟩
  refine ⟨⟨.number 9007199254740993, _, .tail _ (.head _), rfl, rfl, taken.found, ?_, ?_, ?_⟩,
    .number 9223372036854775807, by decide +kernel, rfl, by decide +kernel⟩
  · show ¬(Number.int 9007199254740993).exactUnits = (Number.int 9007199254740992).exactUnits
    decide +kernel
  · rw [Rows.call, taken.find?]
  · rw [Rows.call_remove taken]
    rfl

end RecordSync
