import Mathlib.Data.List.Nodup
import RecordSync.Proofs.Model.Enforced
import RecordSync.Proofs.Model.Reachable

/-!
# Batches of writes

The write of a top-level field looks at the schema and at that field, and at nothing else. So the writes of a batch do
not get into each other's way: they come to what each of them would come to alone, in whatever order they are made. A
batch differs from single writes in what observers see, which is the model with all of them in place.
-/

set_option autoImplicit false

namespace RecordSync

def ModelSignal.callsTo (id : Nat) : ModelSignal → List (ChangeEvent × Model)
  | .changed event shown => (shown.observers.filter (· == id)).map fun _ => (event, shown)
  | .warning _ => []

namespace Model

def setEach (m : Model) : List (String × Json) → Written Bool
  | [] => ⟨true, m, []⟩
  | (name, value) :: rest =>
    let w := m.setAt [name] value
    let later := w.model.setEach rest
    ⟨w.result && later.result, later.model, w.signals ++ later.signals⟩

def fieldWrite (schema : EntityRules) (name : String) (value : Json) (old : Option Json) : Mutation × Option Json :=
  if old == some value then (.unchanged, old)
  else
    let change := match old with
      | some old => Change.update name old value
      | none => .add name value
    match allow schema ⟨change, []⟩ with
    | .ok change => (.applied ⟨change, []⟩, change.new?)
    | .error _ => (.rejected, old)

theorem insert_of_allow {schema : EntityRules} {event : ChangeEvent} {change : Change} {name : String} {value : Json}
    (h : allow schema event = .ok change) (named : event.change.name? = some name)
    (writes : event.change.new? = some value) :
    ∃ new, change.new? = some new ∧
      ∀ fields, change.applyTo? (.obj fields) = some (.obj (KeyMap.insert fields name new)) := by
  have same := (name?_of_allow h).trans named
  have written : ∃ new, change.new? = some new := by
    cases passes_of_allow h with
    | key | plain => exact ⟨value, writes⟩
    | value => exact ⟨_, Change.new?_withNew writes _⟩
  obtain ⟨new, some⟩ := written
  refine ⟨new, some, fun fields => ?_⟩
  cases change with
  | add | update =>
    cases same
    cases some
    rfl
  | remove | splice => cases some

theorem write_set_of_proposed {m : Model} {fields : Object} (root : m.root = .obj fields) {name : String}
    {value : Json} {change : Change} (named : change.name? = some name) (writes : change.new? = some value)
    (proposed : (Edit.set [name] value).propose (.obj fields) = .change ⟨change, []⟩) :
    ((m.write (.set [name] value) false).result, (m.write (.set [name] value) false).model.field? name) =
      match allow m.schema ⟨change, []⟩ with
      | .ok change => (.applied ⟨change, []⟩, change.new?)
      | .error _ => (.rejected, m.field? name) := by
  simp only [write, Edit.run, root, proposed, Bool.false_eq_true, if_false]
  cases allowed : allow m.schema ⟨change, []⟩ with
  | error text => simp only [Except.toOption]
  | ok passed =>
    obtain ⟨new, some, applied⟩ := insert_of_allow allowed named writes
    simp only [Except.toOption, commitChange, ChangeEvent.applyTo?_nil, applied, some, field?, track_root]
    rw [show (Json.obj (KeyMap.insert fields name new)).field? name = _ from KeyMap.get?_insert_self fields name new]

theorem write_set {m : Model} {fields : Object} (root : m.root = .obj fields) (name : String) (value : Json) :
    ((m.write (.set [name] value) false).result, (m.write (.set [name] value) false).model.field? name) =
      fieldWrite m.schema name value (m.field? name) := by
  have proposed : (Edit.set [name] value).propose (.obj fields) = Edit.proposeSet (.obj fields) [] name value := rfl
  have present := field?_of_root root name
  unfold fieldWrite
  cases shown : KeyMap.get? fields name with
  | none =>
    rw [shown] at present
    simp only [Edit.proposeSet, shown] at proposed
    rw [write_set_of_proposed root rfl rfl proposed, present]
    rfl
  | some old =>
    rw [shown] at present
    simp only [Edit.proposeSet, shown] at proposed
    by_cases same : (old == value) = true
    · have equal : (some old == some value) = true := same
      rw [if_pos same] at proposed
      rw [present, if_pos equal]
      simp only [write, Edit.run, root, proposed, field?_of_root root, shown]
    · have unequal : ¬(some old == some value) = true := same
      rw [if_neg same] at proposed
      rw [write_set_of_proposed root rfl rfl proposed, present, if_neg unequal]

/-- Models of one schema that agree in a field agree in what a write of it comes to. -/
theorem write_set_congr {m n : Model} (hm : m.Accounted) (hn : n.Accounted) (schema : n.schema = m.schema)
    {name : String} (same : n.field? name = m.field? name) (value : Json) :
    (n.write (.set [name] value) false).result = (m.write (.set [name] value) false).result ∧
      (n.write (.set [name] value) false).model.field? name =
        (m.write (.set [name] value) false).model.field? name := by
  obtain ⟨f, rootM, -⟩ := hm.isObject
  obtain ⟨g, rootN, -⟩ := hn.isObject
  have outcome : _ = _ := (write_set rootN name value).trans (schema ▸ same ▸ (write_set rootM name value).symm)
  exact Prod.mk.inj outcome

structure Agrees (m : Model) (entries : List (String × Json)) (n : Model) : Prop where
  accounted : n.Accounted
  schema : n.schema = m.schema
  fields : ∀ entry ∈ entries, n.field? entry.1 = m.field? entry.1

namespace Agrees

variable {m n : Model} {entry : String × Json} {rest : List (String × Json)}

theorem write (h : Agrees m (entry :: rest) n) (fresh : ∀ other ∈ rest, other.1 ≠ entry.1) :
    Agrees m rest (n.write (.set [entry.1] entry.2) false).model where
  accounted := write_accounted h.accounted _ false
  schema := (write_keeps n _ false).schema.trans h.schema
  fields := by
    intro other listed
    have spares : (Edit.set [entry.1] entry.2).path.head? ≠ some other.1 :=
      fun head => fresh other listed (Option.some.inj head).symm
    rw [(write_spared false spares (.refl h.accounted other.1)).field]
    exact h.fields other (.tail _ listed)

end Agrees

def alone (m : Model) (entry : String × Json) : Written Mutation := m.write (.set [entry.1] entry.2) false

theorem writeAll_alone {m n : Model} (hm : m.Accounted) {entries : List (String × Json)}
    (distinct : (entries.map (·.1)).Nodup) (h : Agrees m entries n) :
    (n.writeAll false entries).result =
        (entries.all fun entry => (m.alone entry).result.isAccepted,
          entries.filterMap fun entry => (m.alone entry).result.event?) ∧
      ∀ name, (n.writeAll false entries).model.field? name =
        match KeyMap.get? entries name with
        | some value => (m.alone (name, value)).model.field? name
        | none => n.field? name := by
  induction entries generalizing n with
  | nil => exact ⟨rfl, fun _ => rfl⟩
  | cons entry rest ih =>
    obtain ⟨key, value⟩ := entry
    obtain ⟨fresh, distinct⟩ := List.nodup_cons.1 distinct
    have others : ∀ other ∈ rest, other.1 ≠ key := fun other listed same =>
      fresh (List.mem_map.2 ⟨other, listed, same⟩)
    obtain ⟨result, field⟩ := write_set_congr hm h.accounted h.schema (h.fields _ (.head _)) value
    obtain ⟨later, fields⟩ := ih distinct (h.write others)
    constructor
    · simp only [writeAll, later, alone, result, List.all_cons, List.filterMap_cons, Prod.mk.injEq, true_and]
      cases (m.write (.set [key] value) false).result.event? <;> rfl
    · intro name
      show ((n.write (.set [key] value) false).model.writeAll false rest).model.field? name = _
      rw [fields, KeyMap.get?_cons]
      by_cases same : key = name
      · subst same
        rw [if_pos rfl, KeyMap.get?_eq_none others]
        exact field
      · have spares : (Edit.set [key] value).path.head? ≠ some name := fun head => same (Option.some.inj head)
        rw [if_neg same, (write_spared false spares (.refl h.accounted name)).field]

/-- Where names are distinct a map shows the same in every order of its entries. -/
theorem get?_of_perm {first second : List (String × Json)} (perm : first.Perm second)
    (distinct : (second.map (·.1)).Nodup) (name : String) : KeyMap.get? first name = KeyMap.get? second name := by
  have other : (first.map (·.1)).Nodup := (perm.map _).nodup_iff.2 distinct
  refine Option.ext fun value => ⟨fun shown => ?_, fun shown => ?_⟩
  · exact KeyMap.get?_of_mem distinct (perm.mem_iff.1 (KeyMap.mem_of_get? shown))
  · exact KeyMap.get?_of_mem other (perm.mem_iff.2 (KeyMap.mem_of_get? shown))

/-- Two models that cannot be told apart by their copies and by what is dirty. -/
structure Alike (m n : Model) : Prop where
  root : n.root = m.root
  committed : n.committed = m.committed
  dirty : ∀ name, name ∈ n.dirty ↔ name ∈ m.dirty

theorem alike_of_fields {m n : Model} (hm : m.Accounted) (hn : n.Accounted) (committed : n.committed = m.committed)
    (fields : ∀ name, n.field? name = m.field? name) : Alike m n where
  root := by
    obtain ⟨f, rootM, orderedM⟩ := hm.isObject
    obtain ⟨g, rootN, orderedN⟩ := hn.isObject
    rw [rootM, rootN]
    refine congrArg Json.obj (orderedN.ext orderedM fun name => ?_)
    rw [← field?_of_root rootM, ← field?_of_root rootN]
    exact fields name
  committed := committed
  dirty := by
    intro name
    rw [hn.mem_dirty, hm.mem_dirty, Differs, Differs, fields, committed]

theorem writeAll_committed (m : Model) (bypass : Bool) (entries : List (String × Json)) :
    (m.writeAll bypass entries).model.committed = m.committed := by
  induction entries generalizing m with
  | nil => rfl
  | cons entry rest ih => exact (ih _).trans (write_committed m _ bypass)

theorem setAt_single (m : Model) (name : String) (value : Json) :
    m.setAt [name] value = m.edit (.set [name] value) := rfl

theorem setEach_eq (m : Model) (entries : List (String × Json)) :
    (m.setEach entries).model = (m.writeAll false entries).model ∧
      (m.setEach entries).result = (m.writeAll false entries).result.1 := by
  induction entries generalizing m with
  | nil => exact ⟨rfl, rfl⟩
  | cons entry rest ih =>
    obtain ⟨model, result⟩ := ih (m.write (.set [entry.1] entry.2) false).model
    simp only [setEach, setAt_single, edit, writeAll, model, result, and_self]

theorem setFields_stored (m : Model) {fields : VirtualFields} {values : Entity}
    (stored : ∀ entry ∈ values, fields.setter? entry.1 = none) :
    (m.setFields fields values).model = (m.setMany values).model ∧
      (m.setFields fields values).result = (m.setMany values).result ∧
      (m.setFields fields values).signals = (m.setMany values).signals := by
  have virtual : values.filter (fun entry => (fields.setter? entry.1).isSome) = [] :=
    List.filter_eq_nil_iff.2 fun entry listed => by simp [stored entry listed]
  have rest : values.filter (not ∘ fun entry => (fields.setter? entry.1).isSome) = values :=
    List.filter_eq_self.2 fun entry listed => by simp [stored entry listed]
  rw [setFields, List.partition_eq_filter_filter, virtual, rest]
  exact ⟨rfl, Bool.and_true _, List.append_nil _⟩

theorem OnlyWarns.flatMap_callsTo {signals : List ModelSignal} (h : OnlyWarns signals) (id : Nat) :
    signals.flatMap (·.callsTo id) = [] := by
  refine List.flatMap_eq_nil_iff.2 fun signal listed => ?_
  obtain ⟨text, rfl⟩ := h signal listed
  rfl

/-- An observer that is registered once is called once for each event. -/
theorem flatMap_callsTo_announce {m : Model} (distinct : m.observers.Nodup) {id : Nat} (registered : id ∈ m.observers)
    (events : List ChangeEvent) : (m.announce events).flatMap (·.callsTo id) = events.map (·, m) := by
  have once : m.observers.filter (· == id) = [id] := by
    rw [List.filter_beq, List.count_eq_one_of_mem distinct registered]
    rfl
  induction events with
  | nil => rfl
  | cons event rest ih =>
    rw [announce, List.map_cons, List.flatMap_cons, ← announce, ih, ModelSignal.callsTo, once]
    rfl

theorem setEach_calls {m : Model} (distinct : m.observers.Nodup) {id : Nat} (registered : id ∈ m.observers)
    (entries : List (String × Json)) :
    ((m.setEach entries).signals.flatMap (·.callsTo id)).map (·.1) = (m.writeAll false entries).result.2 := by
  induction entries generalizing m with
  | nil => rfl
  | cons entry rest ih =>
    have kept := (write_keeps m (.set [entry.1] entry.2) false).observers
    rw [← kept] at distinct registered
    have warns := write_onlyWarns m (.set [entry.1] entry.2) false
    simp only [setEach, setAt_single, edit, List.flatMap_append, warns.flatMap_callsTo,
      flatMap_callsTo_announce distinct registered, List.map_append, ih distinct registered, writeAll, List.map_map]
    simp [Function.comp_def]

/-- A batch of values for stored fields comes to the same as writing each of them on its own, in any order: the same
copies and dirty fields and the same verdict. Every observer is called once for each write that is applied, and it is
shown the model with all of them in place. -/
theorem setFields_independent {fields : VirtualFields} {m : Model} (reachable : m.Reachable) {values : Entity}
    (ordered : KeyMap.Ordered values) (stored : ∀ entry ∈ values, fields.setter? entry.1 = none)
    {order : List (String × Json)} (perm : order.Perm values) :
    Alike (m.setEach order).model (m.setFields fields values).model ∧
      (m.setFields fields values).result = (m.setEach order).result ∧
      ∀ id ∈ m.observers,
        (m.setFields fields values).signals.flatMap (·.callsTo id) =
            (values.filterMap fun entry => (m.alone entry).result.event?).map (·, (m.setFields fields values).model) ∧
          (((m.setEach order).signals.flatMap (·.callsTo id)).map (·.1)).Perm
            (values.filterMap fun entry => (m.alone entry).result.event?) := by
  have accounted := reachable.founded.toAccounted
  have distinct := ordered.nodup_keys
  have same : Agrees m values m := ⟨accounted, rfl, fun _ _ => rfl⟩
  have other : Agrees m order m := ⟨accounted, rfl, fun _ _ => rfl⟩
  have batch := writeAll_alone accounted distinct same
  have single := writeAll_alone accounted ((perm.map (·.1)).nodup_iff.2 distinct) other
  obtain ⟨model, result, signals⟩ := m.setFields_stored stored
  obtain ⟨modelEach, resultEach⟩ := m.setEach_eq order
  refine ⟨?_, ?_, fun id registered => ⟨?_, ?_⟩⟩
  · rw [model, modelEach]
    refine alike_of_fields (accounted_preserved.writeAll false (fun _ _ => trivial) accounted)
      (accounted_preserved.writeAll false (fun _ _ => trivial) accounted) ?_ fun name => ?_
    · exact (m.writeAll_committed false values).trans (m.writeAll_committed false order).symm
    · rw [single.2, get?_of_perm perm distinct]
      exact batch.2 name
  · rw [result, resultEach, single.1, setMany, batch.1]
    exact perm.symm.all_eq
  · have kept := (writeAll_keeps m false values).observers
    rw [← kept] at registered
    rw [model, signals, setMany, List.flatMap_append, (writeAll_onlyWarns m false values).flatMap_callsTo,
      flatMap_callsTo_announce (kept ▸ reachable.observers) registered, batch.1]
    rfl
  · rw [setEach_calls reachable.observers registered, single.1]
    exact perm.filterMap _

/-- Values of which the first is brought down, the second is the key of a new model, and the last two are refused, the one
for its place and the other for what it is. -/
def variedValues : Entity :=
  [("age", .num (.int 12)), ("id", .str "k"), ("name", .str "a"), ("origin", .null), ("rank", .num (.int (-1)))]

/-- The name is there already. -/
theorem setFields_independent_bounded :
    ∃ m : Model, m.Reachable ∧ m.observers = [0] ∧ m.schema = bounded ∧
      (m.setFields [] variedValues).result = false ∧ (m.setFields [] variedValues).model.dirty = ["age", "id"] ∧
      Alike (m.setEach variedValues.reverse).model (m.setFields [] variedValues).model := by
  have built : build "u" bounded [("name", .str "a")] = .ok _ := rfl
  have reachable := Reachable.observe (.build (by decide) built)
  have ordered : KeyMap.Ordered variedValues := by decide
  have stored : ∀ entry ∈ variedValues, VirtualFields.setter? [] entry.1 = none := fun _ _ => rfl
  have independent := setFields_independent reachable ordered stored (List.reverse_perm _)
  exact ⟨_, reachable, rfl, rfl, by decide +kernel, by decide +kernel, independent.1⟩

end Model

end RecordSync
