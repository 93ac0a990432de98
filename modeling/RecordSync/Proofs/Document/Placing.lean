import RecordSync.Proofs.Document.Parting
import RecordSync.Proofs.Document.Reversal

/-!
# Values put in their place

What a write of a value does to a document: the value is found under the path it was written to, and every path that
forks from this one leads to what it led to before. The places in between may be missing; then a value is written that
leads on by as many objects as are needed. Where nothing is missing, reading and overwriting obey the laws of a lens.
-/

set_option autoImplicit false

namespace RecordSync

namespace Json

/-- A container in which a value is put under a key: the field of an object, an element of an array, or a new one at
its end. -/
inductive Slotted (key : String) (value : Json) : Json → Json → Prop where
  | field (fields : Object) : Slotted key value (.obj fields) (.obj (KeyMap.insert fields key value))
  | element {items : List Json} {index : Nat} (read : readIndex? key = some index) (bound : index < items.length) :
      Slotted key value (.arr items) (.arr (items.set index value))
  | append {items : List Json} (read : readIndex? key = some items.length) :
      Slotted key value (.arr items) (.arr (items ++ [value]))

inductive Placed (value : Json) : Path → Json → Json → Prop where
  | here {key : String} {j after : Json} (slotted : Slotted key value j after) : Placed value [key] j after
  | within {key : String} {rest : Path} {j member changed after : Json} (found : j.child? key = some member)
      (deeper : Placed value rest member changed) (slotted : Slotted key changed j after) :
      Placed value (key :: rest) j after

/-- Two paths fork in a document: at some container they go on to different members. Where there is nothing yet an
object would be made, as in place of `null`. -/
inductive Forks : Json → Path → Path → Prop where
  | here {j : Json} {a b : String} {p q : Path} (apart : ¬j.SameSlot a b) : Forks j (a :: p) (b :: q)
  | within {j : Json} {a b : String} {p q : Path} (same : j.SameSlot a b)
      (deeper : Forks ((j.child? a).getD .null) p q) : Forks j (a :: p) (b :: q)

theorem child?_of_sameSlot {j : Json} {a b : String} (h : j.SameSlot a b) : j.child? a = j.child? b := by
  cases j with
  | arr items =>
    have read : readIndex? a = readIndex? b := h
    simp only [child?, read]
  | _ => rw [show a = b from h]

namespace Slotted

variable {key : String} {value j after : Json} (h : Slotted key value j after)
include h

theorem child?_self : after.child? key = some value := by
  cases h with
  | field fields => exact KeyMap.get?_insert_self fields key value
  | element read bound => simp [child?, read, bound]
  | append read => simp [child?, read]

theorem sameSlot {other : String} (same : j.SameSlot key other) : after.SameSlot key other := by
  cases h <;> exact same

theorem child?_of_apart {other : String} (apart : ¬j.SameSlot key other) : after.child? other = j.child? other := by
  cases h with
  | field fields => exact KeyMap.get?_insert_of_ne fields (Ne.symm apart) value
  | @element items index read bound =>
    cases hit : readIndex? other with
    | none => simp [child?, hit]
    | some position =>
      have ne : index ≠ position := by
        rintro rfl
        exact apart (read.trans hit.symm)
      simp [child?, hit, List.getElem?_set_ne ne]
  | @append items read =>
    cases hit : readIndex? other with
    | none => simp [child?, hit]
    | some position =>
      have ne : position ≠ items.length := by
        rintro rfl
        exact apart (read.trans hit.symm)
      simp only [child?, hit, Option.bind_some, List.getElem?_append]
      split
      · rfl
      · next beyond =>
        have past : position - items.length ≠ 0 := by omega
        rw [List.getElem?_eq_none (Nat.le_of_not_lt beyond)]
        exact List.getElem?_eq_none (by simp; omega)

end Slotted

theorem slotted_withChild {j old : Json} {key : String} (found : j.child? key = some old) (new : Json) :
    Slotted key new j (j.withChild key new) := by
  cases j with
  | obj fields => exact .field fields
  | arr items =>
    obtain ⟨index, read, shown⟩ := Option.bind_eq_some_iff.1 found
    simp only [withChild, read]
    exact .element read (List.getElem?_eq_some_iff.1 shown).1
  | _ => cases found

theorem get?_append (j : Json) (first second : Path) :
    j.get? (first ++ second) = (j.get? first).bind (·.get? second) := by
  induction first generalizing j with
  | nil => rfl
  | cons key rest ih => cases found : j.child? key <;> simp [get?, found, ih]

theorem Placed.get?_self {value j after : Json} {path : Path} (h : Placed value path j after) :
    after.get? path = some value := by
  induction h with
  | here slotted => rw [get?_cons, slotted.child?_self]; rfl
  | within found deeper slotted ih => rw [get?_cons, slotted.child?_self]; exact ih

theorem placed_of_replace? {value container changed j after : Json} {place : Path} {key : String}
    (found : j.get? place = some container) (slotted : Slotted key value container changed)
    (replaced : j.replace? place changed = some after) : Placed value (place ++ [key]) j after := by
  induction place generalizing j after with
  | nil =>
    cases found
    cases replaced
    exact .here slotted
  | cons step rest ih =>
    obtain ⟨member, here, inner⟩ := Option.bind_eq_some_iff.1 replaced
    obtain ⟨deeper, placed, rfl⟩ := Option.map_eq_some_iff.1 inner
    rw [get?_cons, here, Option.bind_some] at found
    exact .within here (ih found placed) (slotted_withChild here deeper)

def nest (path : Path) (value : Json) : Json := path.foldr (fun key inner => .obj [(key, inner)]) value

theorem get?_nest (path : Path) (value : Json) : (nest path value).get? path = some value := by
  induction path with
  | nil => rfl
  | cons key rest ih => simpa [nest, get?, child?, KeyMap.get?] using ih

theorem get?_null {path : Path} (h : path ≠ []) : null.get? path = none := by
  cases path with
  | nil => exact absurd rfl h
  | cons key rest => rfl

theorem Forks.ne_nil {j : Json} {path other : Path} (h : Forks j path other) : path ≠ [] ∧ other ≠ [] := by
  cases h <;> exact ⟨List.cons_ne_nil _ _, List.cons_ne_nil _ _⟩

theorem Forks.get?_nest {path other : Path} (h : Forks .null path other) (value : Json) :
    (nest path value).get? other = none := by
  induction path generalizing other with
  | nil => exact absurd rfl h.ne_nil.1
  | cons key rest ih =>
    cases h with
    | here apart =>
      have ne : key ≠ _ := apart
      simp [nest, get?, child?, KeyMap.get?, ne]
    | within same deeper =>
      have same : key = _ := same
      subst same
      simpa [nest, get?, child?, KeyMap.get?] using ih deeper

/-- A path that forks from a written one leads where it led before, when the value was put in the deepest place there
is, with objects around it for the rest of the way. -/
theorem Placed.get?_of_forks {value j after : Json} {place tail other : Path}
    (h : Placed (nest tail value) place j after) (vacant : tail ≠ [] → (j.get? place).getD .null = .null)
    (forks : Forks j (place ++ tail) other) : after.get? other = j.get? other := by
  induction h generalizing other with
  | @here key j after slotted =>
    cases forks with
    | here apart => rw [get?_cons, get?_cons, slotted.child?_of_apart apart]
    | @within _ _ other _ rest same deeper =>
      -- The paths fork further on, where there was nothing but what the value brings along.
      have nothing : (j.child? key).getD .null = .null := by
        simpa [get?] using vacant deeper.ne_nil.1
      have written : after.child? other = some (nest tail value) :=
        (child?_of_sameSlot (slotted.sameSlot same)).symm.trans slotted.child?_self
      have before : (j.child? key).bind (·.get? rest) = none := by
        cases shown : j.child? key with
        | none => rfl
        | some member =>
          rw [shown] at nothing
          rw [show member = .null from nothing]
          exact get?_null deeper.ne_nil.2
      rw [nothing] at deeper
      rw [get?_cons, get?_cons, written, ← child?_of_sameSlot same, before]
      exact deeper.get?_nest value
  | @within key rest j member changed after found deeper slotted ih =>
    cases forks with
    | here apart => rw [get?_cons, get?_cons, slotted.child?_of_apart apart]
    | @within _ _ other _ below same forks =>
      have written : after.child? other = some changed :=
        (child?_of_sameSlot (slotted.sameSlot same)).symm.trans slotted.child?_self
      have before : j.child? other = some member := (child?_of_sameSlot same).symm.trans found
      rw [found] at forks
      rw [get?_cons, get?_cons, written, before]
      refine ih (fun nonempty => ?_) forks
      simpa [get?, found] using vacant nonempty

theorem placed_of_overwritten {value j after : Json} {path : Path} (nonempty : path ≠ [])
    (replaced : j.replace? path value = some after) : Placed value path j after := by
  induction path generalizing j after with
  | nil => exact absurd rfl nonempty
  | cons key rest ih =>
    obtain ⟨member, found, inner⟩ := Option.bind_eq_some_iff.1 replaced
    obtain ⟨changed, deeper, rfl⟩ := Option.map_eq_some_iff.1 inner
    cases rest with
    | nil =>
      cases deeper
      exact .here (slotted_withChild found value)
    | cons next rest => exact .within found (ih (List.cons_ne_nil _ _) deeper) (slotted_withChild found changed)

theorem get?_replace?_of_forks {j after new : Json} {path other : Path} (replaced : j.replace? path new = some after)
    (forks : Forks j path other) : after.get? other = j.get? other := by
  -- Nothing of the path is missing, so the value brings no objects along.
  have placed : Placed (nest [] new) path j after := placed_of_overwritten forks.ne_nil.1 replaced
  exact placed.get?_of_forks (fun missing => absurd rfl missing) (by rwa [List.append_nil])

/-- Reading and overwriting at a path are a lens. There is a slot exactly where a value is read, and it holds this
value. What a slot receives is read under its path; if it held that already, the document, its fields in key order,
stays as it was; of two values the second one counts; and a path that forks from the written one, whether it leads
anywhere or not, leads where it led before. -/
theorem slots_lawful (j : Json) (path : Path) :
    (∀ f, modify? f j path = (j.get? path).bind fun value => j.replace? path (f value)) ∧
      ∀ new, (j.replace? path new).isSome = (j.get? path).isSome ∧
        (j.Canonical → j.get? path = some new → j.replace? path new = some j) ∧
        ∀ after, j.replace? path new = some after →
          after.get? path = some new ∧
            (∀ second, after.replace? path second = j.replace? path second) ∧
            ∀ other, j.Forks path other → after.get? other = j.get? other := by
  refine ⟨fun f => modify?_eq_bind f j path, fun new => ⟨isSome_modify? _ j path, replace?_self, ?_⟩⟩
  intro after replaced
  exact ⟨get?_replace? replaced, replace?_replace? replaced, fun other => get?_replace?_of_forks replaced⟩

/-- One element under three spellings of its index, with a field whose name looks like an index. -/
theorem slots_lawful_respelled :
    let j : Json := .obj [("a", .arr [.ofInt 7, .obj [("1", .bool true), ("x", .str "y")]])]
    let after : Json := .obj [("a", .arr [.ofInt 7, .obj [("1", .null), ("x", .str "y")]])]
    j.Canonical ∧ j.replace? ["a", "+1", "1"] .null = some after ∧
      after.get? ["a", "+1", "1"] = some .null ∧ after.replace? ["a", "+1", "1"] (.bool true) = some j ∧
      after.get? ["a", "01", "x"] = some (.str "y") ∧ after.get? ["a", "1", "01"] = none ∧
      after.get? ["a", "0"] = some (.ofInt 7) := by
  intro j after
  have ordered : KeyMap.Ordered [("1", Json.bool true), ("x", .str "y")] := List.pairwise_pair.2 (by decide)
  have canonical : j.Canonical := by
    refine .obj (List.pairwise_singleton _ _) fun field only => ?_
    rw [List.mem_singleton.1 only]
    refine .arr fun item listed => ?_
    simp only [List.mem_cons, List.not_mem_nil, or_false] at listed
    rcases listed with rfl | rfl
    · exact .num (.int 7)
    refine .obj ordered fun field listed => ?_
    simp only [List.mem_cons, List.not_mem_nil, or_false] at listed
    rcases listed with rfl | rfl
    · exact .bool true
    · exact .str "y"
  have replaced : j.replace? ["a", "+1", "1"] .null = some after := by rfl
  have spelled : readIndex? "+1" = readIndex? "01" := by decide +kernel
  have plain : readIndex? "+1" = readIndex? "1" := by decide +kernel
  have first : readIndex? "+1" ≠ readIndex? "0" := by decide +kernel
  obtain ⟨-, laws⟩ := slots_lawful j ["a", "+1", "1"]
  obtain ⟨-, same, -⟩ := laws (.bool true)
  obtain ⟨-, -, written⟩ := laws .null
  obtain ⟨read, second, others⟩ := written after replaced
  have field : j.Forks ["a", "+1", "1"] ["a", "01", "x"] :=
    .within rfl (.within spelled (.here (by decide : "1" ≠ "x")))
  have name : j.Forks ["a", "+1", "1"] ["a", "1", "01"] :=
    .within rfl (.within plain (.here (by decide : "1" ≠ "01")))
  have element : j.Forks ["a", "+1", "1"] ["a", "0"] := .within rfl (.here first)
  refine ⟨canonical, replaced, read, (second _).trans (same canonical rfl), ?_, ?_, ?_⟩
  · exact (others _ field).trans rfl
  · exact (others _ name).trans rfl
  · exact (others _ element).trans rfl

end Json

namespace Edit

theorem slotted_of_proposeSet {container after value : Json} {parent : Path} {name : String} {event : ChangeEvent}
    (h : proposeSet container parent name value = .change event)
    (applied : event.change.applyTo? container = some after) : Json.Slotted name value container after := by
  unfold proposeSet at h
  split at h
  · next fields =>
    split at h
    · split at h
      · cases h
      · cases h
        cases applied
        exact .field fields
    · cases h
      cases applied
      exact .field fields
  · next items =>
    split at h
    · cases h
    · next index read =>
      split at h
      · next old shown =>
        have bound : index < items.length := (List.getElem?_eq_some_iff.1 shown).1
        split at h
        · cases h
        · cases h
          simp only [Change.applyTo?, read, bound, if_true, Option.some.injEq] at applied
          exact applied ▸ .element read bound
      · split at h
        · next last =>
          cases h
          subst last
          simp only [Change.applyTo?, List.take_length, List.length_nil, Nat.add_zero, List.drop_length,
            List.append_nil, Option.some.injEq] at applied
          exact applied ▸ .append read
        · cases h
  · cases h

theorem child?_of_proposeSet_unchanged {container value : Json} {parent : Path} {name : String}
    (h : proposeSet container parent name value = .unchanged) :
    ∃ old, container.child? name = some old ∧ (old == value) = true := by
  unfold proposeSet at h
  split at h
  · split at h
    · next old shown =>
      split at h
      · next same => exact ⟨old, shown, same⟩
      · cases h
    · cases h
  · split at h
    · cases h
    · next index read =>
      split at h
      · next old shown =>
        split at h
        · next same => exact ⟨old, by simp [Json.child?, read, shown], same⟩
        · cases h
      · split at h <;> cases h
  · cases h

/-- What setting a value comes to, when it is applied as it was proposed. -/
theorem placed_of_set {path : Path} {value j after : Json} {event : ChangeEvent}
    (h : (Edit.set path value).propose j = .change event) (applied : event.applyTo? j = some after) :
    Json.Placed value path j after := by
  simp only [propose] at h
  split at h
  · next container parent name located =>
    obtain ⟨last, rfl, found⟩ := parent?_eq_some located
    obtain ⟨place, rfl⟩ := List.getLast?_eq_some_iff.1 last
    obtain ⟨path, -⟩ := tells_of_proposeSet h
    obtain ⟨there, changed, reached, wrote, replaced⟩ := ChangeEvent.applyTo?_eq_some.1 applied
    rw [path] at reached replaced
    obtain rfl := Option.some.inj (found.symm.trans reached)
    rw [List.dropLast_concat] at found replaced
    exact Json.placed_of_replace? found (slotted_of_proposeSet h wrote) replaced
  · cases h

theorem get?_of_set_unchanged {path : Path} {value j : Json} (h : (Edit.set path value).propose j = .unchanged) :
    ∃ old, j.get? path = some old ∧ (old == value) = true := by
  simp only [propose] at h
  split at h
  · next container parent name located =>
    obtain ⟨last, -, found⟩ := parent?_eq_some located
    obtain ⟨old, shown, same⟩ := child?_of_proposeSet_unchanged h
    obtain ⟨place, rfl⟩ := List.getLast?_eq_some_iff.1 last
    rw [List.dropLast_concat] at found
    refine ⟨old, ?_, same⟩
    rw [Json.get?_concat, found]
    exact shown
  · cases h

end Edit

end RecordSync
