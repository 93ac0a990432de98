import RecordSync.Proofs.Document.Placing
import RecordSync.Proofs.Model.Enforced
import RecordSync.Proofs.Model.Sparing

/-!
# Writes to a path

A write to a path is one change, at the deepest place that exists, so it happens as a whole or not at all. Where the
schema has nothing to say the value is then found under the path, whatever was missing on the way, and all that forks
from the path is as it was.
-/

set_option autoImplicit false

namespace RecordSync

namespace Schema

theorem standard_at (key : String) (rest : Path) : standard.at (key :: rest) = empty := by
  have unknown : standard.member? key = none := by
    unfold member?
    split
    · next found => cases found
    · split <;> rfl
  rw [«at», unknown]

theorem validateAt_empty (path : Path) (value : Json) : (validateAt empty path value).1 = value := by
  cases value <;> rfl

end Schema

namespace Model

/-- Inside of an entity the standard schema takes every value as it is. -/
theorem change_of_allow_standard {event : ChangeEvent} {change : Change} (h : allow .standard event = .ok change) :
    change = event.change := by
  have kept (key : String) (rest : Path) (value : Json) :
      (EntityRules.standard.validate value (key :: rest)).1 = value := by
    show (Schema.standard.validate value (key :: rest)).1 = value
    rw [Schema.validate, Schema.standard_at, Schema.validateAt_empty]
  obtain ⟨proposed, path⟩ := event
  cases passes_of_allow h with
  | key | plain => rfl
  | @value writable new some fine =>
    cases proposed with
    | add name value | update name old value =>
      cases some
      cases path with
      | nil => simp [ChangeEvent.fullPath, Change.name?, kept, Change.withNew]
      | cons key rest => simp [ChangeEvent.fullPath, kept, Change.withNew]
    | remove | splice => cases some

theorem write_of_not_accepted {m : Model} {edit : Edit} {bypass : Bool}
    (h : (m.write edit bypass).result.isAccepted = false) : (m.write edit bypass).result.event? = none := by
  cases told : (m.write edit bypass).result.event? with
  | none => rfl
  | some event =>
    rw [Mutation.isAccepted_of_event? (by rw [told]; rfl)] at h
    cases h

/-- An accepted edit finds the document as it wants it, or its change is let pass and is applied. -/
theorem write_of_accepted {m : Model} {edit : Edit} (h : (m.write edit false).result.isAccepted = true) :
    edit.propose m.root = .unchanged ∧ (m.write edit false).model = m ∨
      ∃ event change, edit.propose m.root = .change event ∧ allow m.schema event = .ok change ∧
        ({ event with change } : ChangeEvent).applyTo? m.root = some (m.write edit false).model.root := by
  simp only [write, Edit.run, Bool.false_eq_true, if_false] at h ⊢
  cases proposed : edit.propose m.root with
  | unchanged => exact .inl ⟨rfl, rfl⟩
  | unresolved => simp [proposed, Mutation.isAccepted] at h
  | change event =>
    cases allowed : allow m.schema event with
    | error text => simp [proposed, allowed, Except.toOption, Mutation.isAccepted] at h
    | ok change =>
      cases applied : ({ event with change } : ChangeEvent).applyTo? m.root with
      | none => simp [proposed, allowed, applied, Except.toOption, commitChange, Mutation.isAccepted] at h
      | some root =>
        simp only [allowed, applied, Except.toOption, commitChange, track_root]
        exact .inr ⟨event, change, rfl, allowed, applied⟩

/-- Under the standard schema an accepted value is put under its path, or an equal one is there. -/
theorem write_set_of_standard {m : Model} (standard : m.schema = .standard) {path : Path} {value : Json}
    (h : (m.write (.set path value) false).result.isAccepted = true) :
    ((∃ old, m.root.get? path = some old ∧ (old == value) = true) ∧ (m.write (.set path value) false).model = m) ∨
      Json.Placed value path m.root (m.write (.set path value) false).model.root := by
  rcases write_of_accepted h with ⟨unchanged, same⟩ | ⟨event, change, proposed, allowed, applied⟩
  · exact .inl ⟨Edit.get?_of_set_unchanged unchanged, same⟩
  · rw [standard] at allowed
    rw [change_of_allow_standard allowed] at applied
    exact .inr (Edit.placed_of_set proposed applied)

theorem vivify_eq (root : Json) (path : Path) (value : Json) :
    ∃ tail, (vivify root path value).1 ++ tail = path ∧ (vivify root path value).2 = Json.nest tail value ∧
      (tail ≠ [] → (root.get? (vivify root path value).1).getD .null = .null) := by
  unfold vivify
  extract_lets isVacant depth
  refine ⟨path.drop depth, List.take_append_drop depth path, rfl, fun missing => ?_⟩
  cases found : (List.range' 1 (path.length - 1)).find? isVacant with
  | none =>
    have whole : depth = path.length := by simp only [depth, found, Option.getD_none]
    exact absurd (by rw [whole, List.drop_length]) missing
  | some n =>
    have here : depth = n := by simp only [depth, found, Option.getD_some]
    have vacant := List.find?_some found
    rw [here]
    revert vacant
    simp only [isVacant]
    split
    · next none => rw [none]; exact fun _ => rfl
    · next null => rw [null]; exact fun _ => rfl
    · exact fun contradiction => by cases contradiction

structure Carried (path : Path) (value : Json) (old new : Model) : Prop where
  written : (new.getAt path == some value) = true
  others : ∀ other, old.root.Forks path other → new.getAt other = old.getAt other

theorem carried_of_standard {m : Model} (standard : m.schema = .standard) {path target : Path} {value folded : Json}
    (located : vivify m.root path value = (target, folded))
    (h : (m.write (.set target folded) false).result.isAccepted = true) :
    Carried path value m (m.write (.set target folded) false).model := by
  obtain ⟨tail, whole, nested, vacant⟩ := vivify_eq m.root path value
  rw [located] at whole nested vacant
  dsimp only at whole nested vacant
  subst nested
  rcases write_set_of_standard standard h with ⟨⟨old, shown, equal⟩, same⟩ | placed
  · rw [same]
    -- What is missing does not equal an object, so the path exists as a whole.
    cases tail with
    | nil =>
      rw [List.append_nil] at whole
      refine ⟨?_, fun _ _ => rfl⟩
      rw [← whole, getAt, shown]
      exact equal
    | cons key rest =>
      have null := vacant (List.cons_ne_nil _ _)
      rw [shown, Option.getD_some] at null
      rw [null] at equal
      cases equal
  · subst whole
    constructor
    · rw [getAt, Json.get?_append, placed.get?_self, Option.bind_some, Json.get?_nest]
      exact BEq.rfl
    · exact fun other forks => placed.get?_of_forks vacant forks

/-- A write to a path that is refused leaves the model as it was, and no observer hears of it. Under the standard schema
one that is accepted carries the value to its place, however much of the path was missing. -/
theorem setAt_all_or_nothing (m : Model) (path : Path) (value : Json) :
    ((m.setAt path value).result = false → (m.setAt path value).model = m ∧ OnlyWarns (m.setAt path value).signals) ∧
      (m.schema = .standard → (m.setAt path value).result = true → Carried path value m (m.setAt path value).model) := by
  unfold setAt
  split
  · exact ⟨fun _ => ⟨rfl, onlyWarns_nil⟩, fun _ contradiction => by cases contradiction⟩
  · split
    next target folded located =>
    split
    · refine ⟨fun _ => ⟨rfl, ?_⟩, fun _ contradiction => by cases contradiction⟩
      exact fun signal listed => ⟨_, List.mem_singleton.1 listed⟩
    · refine ⟨fun refused => ?_, fun standard accepted => carried_of_standard standard located accepted⟩
      have untold := write_of_not_accepted refused
      refine ⟨write_of_event?_eq_none untold, ?_⟩
      rw [edit, untold]
      exact (write_onlyWarns m _ false).append onlyWarns_nil

/-- A value below a field that is `null`, and one below a text; a number that is refused under rules of another kind. -/
theorem setAt_all_or_nothing_home :
    ∃ m, build "u" .standard [("home", .null), ("name", .str "a")] = .ok m ∧
      (m.setAt ["home", "city", "name"] (.str "b")).result = true ∧
      ((m.setAt ["home", "city", "name"] (.str "b")).model.getAt ["home", "city", "name"] == some (.str "b")) = true ∧
      (m.setAt ["home", "city", "name"] (.str "b")).model.getAt ["home", "city", "code"] = none ∧
      (m.setAt ["name", "first"] (.str "b")).result = false ∧ (m.setAt ["name", "first"] (.str "b")).model = m ∧
      ({ m with schema := bounded }.setAt ["rank"] (.num (.int (-1)))).result = false ∧
      ({ m with schema := bounded }.setAt ["rank"] (.num (.int (-1)))).model = { m with schema := bounded } := by
  let m : Model := { uuid := "u", schema := .standard, root := .obj [("home", .null), ("name", .str "a")],
                     committed := [("home", .null), ("name", .str "a")], dirty := [], observers := [],
                     nextObserver := 0 }
  have accepted : (m.setAt ["home", "city", "name"] (.str "b")).result = true := by decide +kernel
  have refused : (m.setAt ["name", "first"] (.str "b")).result = false := by decide +kernel
  have carried := (setAt_all_or_nothing m ["home", "city", "name"] (.str "b")).2 rfl accepted
  have forks : m.root.Forks ["home", "city", "name"] ["home", "city", "code"] :=
    .within rfl (.within rfl (.here (by decide : "name" ≠ "code")))
  have below : ({ m with schema := bounded }.setAt ["rank"] (.num (.int (-1)))).result = false := by decide +kernel
  refine ⟨m, rfl, accepted, carried.written, (carried.others _ forks).trans rfl, refused, ?_, below, ?_⟩
  · exact ((setAt_all_or_nothing m ["name", "first"] (.str "b")).1 refused).1
  · exact ((setAt_all_or_nothing { m with schema := bounded } ["rank"] (.num (.int (-1)))).1 below).1

end Model

end RecordSync
