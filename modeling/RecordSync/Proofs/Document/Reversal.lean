import RecordSync.Proofs.Document.Notice
import RecordSync.Proofs.Json.Path

/-!
# Taking changes back

A change tells of its container what was in the place it writes to. So it can be taken back, by a change that puts this
there again, and the log of a tree leads from the first document to the last and back. Interceptors may veto changes and
exchange the values that are written; another place or another tale of what was there would spoil the log.
-/

set_option autoImplicit false

namespace RecordSync

/-- A stretch of a list that has been exchanged is put back by the same exchange the other way round. -/
theorem exchange_back {items removed added : List Json} {index : Nat} (within : index ≤ items.length)
    (same : (items.drop index).take removed.length = removed) :
    let after := items.take index ++ added ++ items.drop (index + removed.length)
    after.take index ++ removed ++ after.drop (index + added.length) = items := by
  intro after
  have front : (items.take index).length = index := List.length_take_of_le within
  have kept : after.take index = items.take index := by
    simp only [after, List.append_assoc]
    exact List.take_left' front
  have behind : after.drop (index + added.length) = items.drop (index + removed.length) :=
    List.drop_left' (by rw [List.length_append, front])
  have tail : removed ++ items.drop (index + removed.length) = items.drop index := by
    simpa only [same, List.drop_drop] using List.take_append_drop removed.length (items.drop index)
  rw [kept, behind, List.append_assoc, tail, List.take_append_drop]

namespace Change

def inverse : Change → Change
  | .add name new => .remove name new
  | .update name old new => .update name new old
  | .remove name old => .add name old
  | .splice index removed added => .splice index added removed

def written : Change → List Json
  | .add _ new | .update _ _ new => [new]
  | .remove _ _ => []
  | .splice _ _ added => added

def Tells (container : Json) : Change → Prop
  | .add name _ => container.child? name = none
  | .update name old _ | .remove name old => container.child? name = some old
  | .splice index removed _ =>
    ∃ items, container = .arr items ∧ index ≤ items.length ∧ (items.drop index).take removed.length = removed

inductive SamePlace : Change → Change → Prop where
  | add (name : String) (new other : Json) : SamePlace (.add name new) (.add name other)
  | update (name : String) (old new other : Json) : SamePlace (.update name old new) (.update name old other)
  | remove (name : String) (old : Json) : SamePlace (.remove name old) (.remove name old)
  | splice (index : Nat) (removed added other : List Json) :
      SamePlace (.splice index removed added) (.splice index removed other)

theorem SamePlace.refl (change : Change) : change.SamePlace change := by
  cases change with
  | add name new => exact .add name new new
  | update name old new => exact .update name old new new
  | remove name old => exact .remove name old
  | splice index removed added => exact .splice index removed added added

theorem SamePlace.trans {first second third : Change} (h : first.SamePlace second) (k : second.SamePlace third) :
    first.SamePlace third := by
  cases h <;> cases k <;> constructor

theorem SamePlace.tells {change other : Change} (h : change.SamePlace other) {container : Json}
    (tells : change.Tells container) : other.Tells container := by
  cases h <;> exact tells

/-- A change of a container in key order that tells what is there is taken back by its inverse. -/
theorem inverse_applyTo? {change : Change} {container after : Json} (canonical : container.Canonical)
    (tells : change.Tells container) (applied : change.applyTo? container = some after) :
    change.inverse.applyTo? after = some container := by
  cases container with
  | obj fields =>
    have ordered := canonical.ordered
    cases change with
    | add name new =>
      cases applied
      simp [inverse, applyTo?, ordered.erase_insert tells]
    | update name old new =>
      cases applied
      simp [inverse, applyTo?, KeyMap.insert_insert_self, ordered.insert_of_get? tells]
    | remove name old =>
      cases applied
      simp [inverse, applyTo?, ordered.insert_erase tells]
    | splice index removed added => cases applied
  | arr items =>
    cases change with
    | add name new => cases applied
    | update name old new =>
      obtain ⟨index, read, shown⟩ := Option.bind_eq_some_iff.1 tells
      obtain ⟨bound, rfl⟩ := List.getElem?_eq_some_iff.1 shown
      simp only [applyTo?, read, if_pos bound, Option.some.injEq] at applied
      subst applied
      simp [inverse, applyTo?, read, bound]
    | remove name old => cases applied
    | splice index removed added =>
      obtain ⟨_, same, within, told⟩ := tells
      cases same
      cases applied
      exact congrArg (fun list => some (Json.arr list)) (exchange_back within told)
  | _ => cases change <;> cases applied

theorem canonical_applyTo? {change : Change} {container after : Json} (canonical : container.Canonical)
    (written : ∀ value ∈ change.written, value.Canonical) (applied : change.applyTo? container = some after) :
    after.Canonical := by
  cases container with
  | obj fields =>
    cases change with
    | add name new | update name old new =>
      cases applied
      exact canonical.insert name (written new (by simp [Change.written]))
    | remove name old =>
      cases applied
      exact canonical.erase name
    | splice index removed added => cases applied
  | arr items =>
    cases change with
    | update name old new =>
      simp only [applyTo?] at applied
      split at applied
      · split at applied <;> cases applied
        exact canonical.set _ (written new (by simp [Change.written]))
      · cases applied
    | splice index removed added =>
      cases applied
      refine .arr fun item listed => ?_
      simp only [List.mem_append] at listed
      rcases listed with (front | new) | back
      · exact canonical.item (List.mem_of_mem_take front)
      · exact written item new
      · exact canonical.item (List.mem_of_mem_drop back)
    | _ => cases applied
  | _ => cases change <;> cases applied

end Change

namespace ChangeEvent

def inverse (event : ChangeEvent) : ChangeEvent := ⟨event.change.inverse, event.path⟩

def Tells (root : Json) (event : ChangeEvent) : Prop :=
  ∀ container, root.get? event.path = some container → event.change.Tells container

theorem applyTo?_eq_some {event : ChangeEvent} {root after : Json} :
    event.applyTo? root = some after ↔ ∃ container changed, root.get? event.path = some container ∧
      event.change.applyTo? container = some changed ∧ root.replace? event.path changed = some after := by
  simp [applyTo?, Option.bind_eq_some_iff]

theorem inverse_applyTo? {event : ChangeEvent} {root after : Json} (canonical : root.Canonical)
    (tells : event.Tells root) (applied : event.applyTo? root = some after) :
    event.inverse.applyTo? after = some root := by
  obtain ⟨container, changed, found, made, replaced⟩ := applyTo?_eq_some.1 applied
  have back := Change.inverse_applyTo? (canonical.get? found) (tells container found) made
  refine applyTo?_eq_some.2 ⟨changed, container, Json.get?_replace? replaced, back, ?_⟩
  rw [inverse, Json.replace?_replace? replaced, Json.replace?_self canonical found]

theorem canonical_applyTo? {event : ChangeEvent} {root after : Json} (canonical : root.Canonical)
    (written : ∀ value ∈ event.change.written, value.Canonical) (applied : event.applyTo? root = some after) :
    after.Canonical := by
  obtain ⟨container, changed, found, made, replaced⟩ := applyTo?_eq_some.1 applied
  exact canonical.replace? (Change.canonical_applyTo? (canonical.get? found) written made) replaced

def replay (events : List ChangeEvent) (root : Json) : Option Json :=
  events.foldlM (fun root event => event.applyTo? root) root

def reversal (events : List ChangeEvent) : List ChangeEvent := events.reverse.map inverse

end ChangeEvent

namespace Edit

def values : Edit → List Json
  | .set _ value | .push _ value => [value]
  | .remove _ => []
  | .splice _ _ _ items => items

theorem tells_of_proposeSet {container value : Json} {parent : Path} {name : String} {event : ChangeEvent}
    (h : proposeSet container parent name value = .change event) :
    event.path = parent ∧ event.change.Tells container ∧ event.change.written = [value] := by
  unfold proposeSet at h
  split at h
  · split at h
    · next old shown =>
      split at h <;> cases h
      exact ⟨rfl, shown, rfl⟩
    · next absent =>
      cases h
      exact ⟨rfl, absent, rfl⟩
  · next items =>
    split at h
    · cases h
    · next index read =>
      split at h
      · next old shown =>
        split at h <;> cases h
        refine ⟨rfl, ?_, rfl⟩
        simpa [Change.Tells, Json.child?, read] using shown
      · split at h <;> cases h
        next last => exact ⟨rfl, ⟨items, rfl, by omega, rfl⟩, rfl⟩
  · cases h

theorem tells_of_proposeRemove {container : Json} {parent : Path} {name : String} {event : ChangeEvent}
    (h : proposeRemove container parent name = .change event) :
    event.path = parent ∧ event.change.Tells container ∧ event.change.written = [] := by
  unfold proposeRemove at h
  split at h
  · split at h <;> cases h
    next old shown => exact ⟨rfl, shown, rfl⟩
  · next items =>
    split at h <;> cases h
    next index old shown =>
    obtain ⟨position, -, found⟩ := Option.bind_eq_some_iff.1 shown
    obtain ⟨element, here, same⟩ := Option.map_eq_some_iff.1 found
    cases same
    obtain ⟨bound, rfl⟩ := List.getElem?_eq_some_iff.1 here
    refine ⟨rfl, ⟨items, rfl, by omega, ?_⟩, rfl⟩
    rw [List.drop_eq_getElem_cons bound]
    rfl
  · cases h

theorem tells_of_proposeSplice {container : Json} {path : Path} {index count : Nat} {items : List Json}
    {event : ChangeEvent} (h : proposeSplice container path index count items = .change event) :
    event.path = path ∧ event.change.Tells container ∧ event.change.written = items := by
  unfold proposeSplice at h
  split at h
  · next current =>
    dsimp only at h
    split at h <;> cases h
    exact ⟨rfl, ⟨current, rfl, Nat.min_le_right _ _, by simp⟩, rfl⟩
  · cases h

/-- What an edit proposes tells what is there, and writes what the edit brings in. -/
theorem tells_of_propose {edit : Edit} {root : Json} {event : ChangeEvent} (h : edit.propose root = .change event) :
    event.Tells root ∧ event.change.written = edit.values := by
  have told {place : Path} {container : Json} (found : root.get? place = some container) (path : event.path = place)
      (tells : event.change.Tells container) : event.Tells root := by
    intro other shown
    rw [path, found] at shown
    cases shown
    exact tells
  cases edit with
  | set path value =>
    simp only [propose] at h
    split at h
    · next located =>
      obtain ⟨-, rfl, found⟩ := parent?_eq_some located
      obtain ⟨path, tells, written⟩ := tells_of_proposeSet h
      exact ⟨told found path tells, written⟩
    · cases h
  | remove path =>
    simp only [propose] at h
    split at h
    · next located =>
      obtain ⟨-, rfl, found⟩ := parent?_eq_some located
      obtain ⟨path, tells, written⟩ := tells_of_proposeRemove h
      exact ⟨told found path tells, written⟩
    · cases h
  | splice path index count items =>
    simp only [propose] at h
    split at h
    · next found =>
      obtain ⟨path, tells, written⟩ := tells_of_proposeSplice h
      exact ⟨told found path tells, written⟩
    · cases h
  | push path value =>
    simp only [propose] at h
    split at h
    · next found =>
      obtain ⟨path, tells, written⟩ := tells_of_proposeSplice h
      exact ⟨told found path tells, written⟩
    · cases h

end Edit

namespace ChangeEvent

/-- Events lead from one document to another, and taken back they lead from there to the first. -/
structure Links (first : Json) (events : List ChangeEvent) (last : Json) : Prop where
  forth : replay events first = some last
  back : replay (reversal events) last = some first

theorem links_nil (j : Json) : Links j [] j := ⟨rfl, rfl⟩

theorem links_single {event : ChangeEvent} {root after : Json} (canonical : root.Canonical) (tells : event.Tells root)
    (applied : event.applyTo? root = some after) : Links root [event] after where
  forth := by simp [replay, applied]
  back := by simp [replay, reversal, inverse_applyTo? canonical tells applied]

theorem Links.append {first middle last : Json} {before after : List ChangeEvent} (h : Links first before middle)
    (k : Links middle after last) : Links first (before ++ after) last where
  forth := by
    have forth := h.forth
    rw [replay] at forth
    simp [replay, List.foldlM_append, forth, ← k.forth]
  back := by
    have back := k.back
    rw [replay] at back
    have turned : reversal (before ++ after) = reversal after ++ reversal before := by simp [reversal]
    simp [turned, replay, List.foldlM_append, back, ← h.back]

end ChangeEvent

def Change.Rewrites (change other : Change) : Prop :=
  change.SamePlace other ∧ ((∀ value ∈ change.written, value.Canonical) → ∀ value ∈ other.written, value.Canonical)

/-- An interceptor that vetoes changes or exchanges the values they write. -/
def Interceptor.Regular (i : Interceptor) : Prop := ∀ change path other, i change path = some other → change.Rewrites other

def TreeCommand.Regular : TreeCommand → Prop
  | .write edit _ => ∀ value ∈ edit.values, value.Canonical
  | .intercept i => i.Regular
  | .observe | .unsubscribe _ => True

namespace Tree

variable {t : Tree}

structure Regular (t : Tree) : Prop where
  canonical : t.root.Canonical
  interceptors : ∀ entry ∈ t.interceptors, entry.2.Regular

theorem rewrites_consult {interceptors : List (Nat × Interceptor)} (regular : ∀ entry ∈ interceptors, entry.2.Regular)
    {change other : Change} {path : Path} (admitted : (consult interceptors change path).1 = some other) :
    change.Rewrites other := by
  induction interceptors generalizing change with
  | nil =>
    cases admitted
    exact ⟨.refl _, id⟩
  | cons first rest ih =>
    obtain ⟨number, i⟩ := first
    cases altered : i change path with
    | none => simp [consult, altered] at admitted
    | some next =>
      have here := regular _ (.head _) change path next altered
      have later : next.Rewrites other := by
        refine ih (fun entry listed => regular entry (.tail _ listed)) ?_
        simpa [consult, altered] using admitted
      exact ⟨here.1.trans later.1, fun written => later.2 (here.2 written)⟩

/-- A write to a regular tree leaves it regular, and its event leads to the new root and back. -/
theorem Regular.write (h : t.Regular) {edit : Edit} (values : ∀ value ∈ edit.values, value.Canonical) (bypass : Bool) :
    (t.write edit bypass).2.1.Regular ∧
      ChangeEvent.Links t.root (t.write edit bypass).1.event?.toList (t.write edit bypass).2.1.root := by
  have ends := ends_write t edit bypass
  generalize t.write edit bypass = outcome at ends
  cases ends with
  | idle none silent =>
    rw [none]
    exact ⟨h, ChangeEvent.links_nil t.root⟩
  | @applied event change root log proposed admitted made told =>
    obtain ⟨tells, written⟩ := Edit.tells_of_propose proposed
    have rewrites : event.change.Rewrites change := by
      refine rewrites_consult (fun entry listed => ?_) admitted
      cases bypass with
      | false => exact h.interceptors entry listed
      | true => cases listed
    have canonical : ∀ value ∈ change.written, value.Canonical := rewrites.2 (written ▸ values)
    have told : ({ event with change } : ChangeEvent).Tells t.root :=
      fun container found => rewrites.1.tells (tells container found)
    exact ⟨⟨ChangeEvent.canonical_applyTo? h.canonical canonical made, h.interceptors⟩,
      ChangeEvent.links_single h.canonical told made⟩

theorem Regular.perform (h : t.Regular) {command : TreeCommand} (regular : command.Regular) :
    (t.perform command).2.Regular ∧
      ChangeEvent.Links t.root (t.perform command).1.toList (t.perform command).2.root := by
  cases command with
  | write edit bypass => exact h.write regular bypass
  | intercept i =>
    refine ⟨⟨h.canonical, fun entry listed => ?_⟩, ChangeEvent.links_nil t.root⟩
    rcases List.mem_append.1 listed with old | new
    · exact h.interceptors entry old
    · rw [List.mem_singleton.1 new]
      exact regular
  | observe => exact ⟨⟨h.canonical, h.interceptors⟩, ChangeEvent.links_nil t.root⟩
  | unsubscribe id =>
    exact ⟨⟨h.canonical, fun entry listed => h.interceptors entry (List.mem_filter.1 listed).1⟩,
      ChangeEvent.links_nil t.root⟩

theorem Regular.performAll (h : t.Regular) {commands : List TreeCommand}
    (regular : ∀ command ∈ commands, command.Regular) :
    ChangeEvent.Links t.root (t.performAll commands).1 (t.performAll commands).2.root := by
  induction commands generalizing t with
  | nil => exact ChangeEvent.links_nil t.root
  | cons command rest ih =>
    obtain ⟨first, later⟩ := List.forall_mem_cons.1 regular
    obtain ⟨next, links⟩ := h.perform first
    exact links.append (ih next later)

/-- The log of a tree leads from the first document to the last, and taken back it leads from there to the first,
whatever has been written and whatever regular interceptors have come and gone. -/
theorem replay_log {fields : Object} (canonical : (Json.obj fields).Canonical) {commands : List TreeCommand}
    (regular : ∀ command ∈ commands, command.Regular) :
    let (events, t) := (ofObject fields).performAll commands
    ChangeEvent.replay events (.obj fields) = some t.root ∧
      ChangeEvent.replay (ChangeEvent.reversal events) t.root = some (.obj fields) := by
  have start : (ofObject fields).Regular := ⟨canonical, by simp [ofObject]⟩
  have links := start.performAll regular
  exact ⟨links.forth, links.back⟩

def flagging : Interceptor := fun change _ => some (change.withNew (.bool true))

theorem flagging_regular : flagging.Regular := by
  intro change path other altered
  cases altered
  cases change with
  | add name new =>
    refine ⟨.add name new _, fun _ value listed => ?_⟩
    rw [List.mem_singleton.1 listed]
    exact .bool true
  | update name old new =>
    refine ⟨.update name old new _, fun _ value listed => ?_⟩
    rw [List.mem_singleton.1 listed]
    exact .bool true
  | remove name old => exact ⟨.remove name old, id⟩
  | splice index removed added => exact ⟨.splice index removed added added, id⟩

/-- An element is appended by its index, another one is overwritten under a second spelling of its index, a stretch
that reaches beyond the end is exchanged, a field is added and another one removed. -/
def noteEdits : List TreeCommand :=
  [.intercept flagging, .write (.set ["tags", "1"] (.str "b")) false, .write (.set ["tags", "+0"] (.str "c")) false,
    .write (.splice ["tags"] 1 9 [.null, .null]) false, .write (.set ["tags", "7"] .null) false,
    .write (.set ["done"] (.str "yes")) false, .write (.remove ["text"]) true]

theorem replay_log_note : ∃ events t,
    (ofObject [("tags", .arr [.str "a"]), ("text", .str "x")]).performAll noteEdits = (events, t) ∧
      events.length = 5 ∧
      t.root = .obj [("done", .bool true), ("tags", .arr [.bool true, .null, .null])] ∧
      ChangeEvent.replay events (.obj [("tags", .arr [.str "a"]), ("text", .str "x")]) = some t.root ∧
      ChangeEvent.replay (ChangeEvent.reversal events) t.root =
        some (.obj [("tags", .arr [.str "a"]), ("text", .str "x")]) := by
  have ordered : KeyMap.Ordered [("tags", Json.arr [.str "a"]), ("text", .str "x")] :=
    List.pairwise_pair.2 (by decide)
  have canonical : (Json.obj [("tags", .arr [.str "a"]), ("text", .str "x")]).Canonical := by
    refine .obj ordered fun field listed => ?_
    simp only [List.mem_cons, List.not_mem_nil, or_false] at listed
    rcases listed with rfl | rfl
    · exact .arr fun item only => List.mem_singleton.1 only ▸ .str "a"
    · exact .str "x"
  have regular : ∀ command ∈ noteEdits, command.Regular := by
    simp [noteEdits, TreeCommand.Regular, flagging_regular, Edit.values, Json.Canonical.str, Json.Canonical.null]
  obtain ⟨forth, back⟩ := replay_log canonical regular
  exact ⟨_, _, rfl, rfl, rfl, forth, back⟩

end Tree

end RecordSync
