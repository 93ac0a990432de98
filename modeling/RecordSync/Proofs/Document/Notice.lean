import RecordSync.Document.Tree
import RecordSync.Proofs.Document.Frame

/-!
# What observers are told

A write is applied, and then every observer that is subscribed is told of it once, or it leaves the tree as it was and
no observer hears of it, whatever the interceptors make of the change. Observers are numbered as they come and are told
in that order; the root is an object all the time. Interceptors come and go between writes, so one that remembers what
it was shown is a new one for each write.
-/

set_option autoImplicit false

namespace RecordSync

def Sighting.isObserved : Sighting → Bool
  | .intercepted .. => false
  | .observed .. => true

namespace TreeCommand

/-- Which observers are subscribed after commands, when the next registration gets the number `next`: those registered
and not unsubscribed since. -/
def Subscribed (next : Nat) : List TreeCommand → Nat → Prop
  | [], _ => False
  | .observe :: rest, id => id = next ∧ .unsubscribe id ∉ rest ∨ Subscribed (next + 1) rest id
  | .intercept _ :: rest, id => Subscribed (next + 1) rest id
  | .write _ _ :: rest, id | .unsubscribe _ :: rest, id => Subscribed next rest id

end TreeCommand

namespace Tree

variable {t : Tree}

theorem not_isObserved_consult (interceptors : List (Nat × Interceptor)) (change : Change) (path : Path) :
    ∀ sighting ∈ (consult interceptors change path).2, sighting.isObserved = false := by
  induction interceptors generalizing change with
  | nil => simp [consult]
  | cons first rest ih =>
    obtain ⟨id, i⟩ := first
    cases altered : i change path with
    | none => simp [consult, altered, Sighting.isObserved]
    | some other => simpa [consult, altered, Sighting.isObserved] using ih other

theorem filter_consult (interceptors : List (Nat × Interceptor)) (change : Change) (path : Path) :
    (consult interceptors change path).2.filter Sighting.isObserved = [] := by
  simpa using not_isObserved_consult interceptors change path

theorem filter_notify (observers : List Nat) (event : ChangeEvent) (root : Json) :
    (notify observers event root).filter Sighting.isObserved = notify observers event root := by
  simp [notify, Sighting.isObserved]

inductive Ends (t : Tree) (edit : Edit) (bypass : Bool) : Mutation × Tree × List Sighting → Prop where
  | applied {event : ChangeEvent} {change : Change} {root : Json} {log : List Sighting}
      (proposed : edit.propose t.root = .change event)
      (admitted : (consult (if bypass then [] else t.interceptors) event.change event.path).1 = some change)
      (made : ({ event with change } : ChangeEvent).applyTo? t.root = some root)
      (told : log.filter Sighting.isObserved = notify t.observers { event with change } root) :
      Ends t edit bypass (.applied { event with change }, { t with root }, log)
  | idle {result : Mutation} {log : List Sighting} (none : result.event? = none)
      (silent : log.filter Sighting.isObserved = []) : Ends t edit bypass (result, t, log)

theorem ends_write (t : Tree) (edit : Edit) (bypass : Bool) : t.Ends edit bypass (t.write edit bypass) := by
  unfold write
  split
  · exact .idle rfl rfl
  · exact .idle rfl rfl
  · next event proposed =>
    have unobserved := filter_consult (if bypass then [] else t.interceptors) event.change event.path
    cases consulted : consult (if bypass then [] else t.interceptors) event.change event.path with
    | mk admitted seen =>
      rw [consulted] at unobserved
      cases admitted with
      | none => exact .idle rfl unobserved
      | some change =>
        dsimp only
        split
        · exact .idle rfl unobserved
        · next root made =>
          refine .applied proposed (congrArg Prod.fst consulted) made ?_
          rw [List.filter_append, unobserved, filter_notify, List.nil_append]

structure Sound (t : Tree) : Prop where
  isObject : ∃ fields, t.root = .obj fields
  ascending : t.observers.Pairwise (· < ·)
  known : ∀ id ∈ t.observers, id < t.nextId

theorem sound_ofObject (fields : Object) : (ofObject fields).Sound where
  isObject := ⟨fields, rfl⟩
  ascending := .nil
  known := by simp [ofObject]

theorem Sound.perform (h : t.Sound) (command : TreeCommand) : (t.perform command).2.Sound := by
  cases command with
  | write edit bypass =>
    have ends := ends_write t edit bypass
    rw [Tree.perform]
    generalize t.write edit bypass = outcome at ends
    cases ends with
    | idle => exact h
    | applied proposed admitted made told =>
      obtain ⟨fields, root⟩ := h.isObject
      rw [root] at made
      obtain ⟨name, after, -, same, -⟩ := ChangeEvent.applyTo?_obj made
      exact ⟨⟨after, same⟩, h.ascending, h.known⟩
  | intercept i => exact ⟨h.isObject, h.ascending, fun id listed => Nat.lt_succ_of_lt (h.known id listed)⟩
  | observe =>
    refine ⟨h.isObject, ?_, fun id listed => ?_⟩
    · simpa [Tree.perform, Tree.observe, List.pairwise_append, h.ascending] using h.known
    · simp only [Tree.perform, Tree.observe, List.mem_append, List.mem_singleton] at listed ⊢
      rcases listed with old | rfl
      · exact Nat.lt_succ_of_lt (h.known id old)
      · exact Nat.lt_succ_self _
  | unsubscribe id =>
    exact ⟨h.isObject, h.ascending.filter _, fun other listed => h.known other (List.mem_filter.1 listed).1⟩

theorem Sound.performAll (h : t.Sound) (commands : List TreeCommand) : (t.performAll commands).2.Sound := by
  induction commands generalizing t with
  | nil => exact h
  | cons command rest ih => exact ih (h.perform command)

/-- Observers are those that were registered and not unsubscribed since. -/
theorem mem_observers_performAll (t : Tree) (commands : List TreeCommand) (id : Nat) :
    id ∈ (t.performAll commands).2.observers ↔
      id ∈ t.observers ∧ .unsubscribe id ∉ commands ∨ TreeCommand.Subscribed t.nextId commands id := by
  induction commands generalizing t with
  | nil => simp [performAll, TreeCommand.Subscribed]
  | cons command rest ih =>
    show id ∈ ((t.perform command).2.performAll rest).2.observers ↔ _
    rw [ih]
    cases command with
    | write edit bypass =>
      have ends := ends_write t edit bypass
      rw [perform]
      generalize t.write edit bypass = outcome at ends
      cases ends <;> simp [TreeCommand.Subscribed]
    | intercept i => simp [perform, intercept, TreeCommand.Subscribed]
    | observe =>
      simp only [perform, observe, List.mem_append, TreeCommand.Subscribed, List.mem_cons]
      grind
    | unsubscribe other =>
      simp only [perform, unsubscribe, List.mem_filter, bne_iff_ne, TreeCommand.Subscribed, List.mem_cons,
        TreeCommand.unsubscribe.injEq]
      grind

/-- Whatever has been done to a tree, and whatever its interceptors make of a change: the root is an object; an applied
write is the reported change and nothing else, and is told once to each observer that is subscribed, in the order of
subscription, together with the root after it; any other write leaves the tree as it is and is told to no one. -/
theorem write_atomic (fields : Object) (commands : List TreeCommand) (edit : Edit) (bypass : Bool) :
    let t := ((ofObject fields).performAll commands).2
    let (result, after, log) := t.write edit bypass
    (∃ top, t.root = .obj top) ∧
      t.observers.Pairwise (· < ·) ∧ (∀ id, id ∈ t.observers ↔ TreeCommand.Subscribed 0 commands id) ∧
      (result.event? = none → after = t ∧ log.filter Sighting.isObserved = []) ∧
      ∀ event, result = .applied event →
        event.applyTo? t.root = some after.root ∧ after = { t with root := after.root } ∧
          log.filter Sighting.isObserved =
            t.observers.map fun id => .observed id event.change event.path after.root := by
  have sound := (sound_ofObject fields).performAll commands
  have members := mem_observers_performAll (ofObject fields) commands
  generalize ((ofObject fields).performAll commands).2 = t at sound members
  have ends := ends_write t edit bypass
  dsimp only
  generalize t.write edit bypass = outcome at ends
  refine ⟨sound.isObject, sound.ascending, fun id => by simpa [ofObject] using members id, ?_⟩
  cases ends with
  | applied proposed admitted made told =>
    refine ⟨fun none => (nomatch none), fun event same => ?_⟩
    cases same
    exact ⟨made, rfl, told⟩
  | idle none silent =>
    refine ⟨fun _ => ⟨rfl, silent⟩, fun event same => ?_⟩
    subst same
    cases none

def watched : Tree :=
  ((ofObject [("name", .str "a")]).performAll
    [.observe, .observe, .intercept fun change _ => some (change.withNew (.str "c"))]).2

/-- Both observers are told of the write as the interceptor has left it. -/
theorem write_atomic_watched :
    ∃ event, (watched.write (.set ["name"] (.str "b")) false).1 = .applied event ∧
      event.applyTo? watched.root = some (.obj [("name", .str "c")]) ∧
      (watched.write (.set ["name"] (.str "b")) false).2.2.filter Sighting.isObserved =
        [.observed 0 event.change event.path (.obj [("name", .str "c")]),
          .observed 1 event.change event.path (.obj [("name", .str "c")])] := by
  obtain ⟨-, -, -, -, told⟩ := write_atomic [("name", .str "a")]
    [.observe, .observe, .intercept fun change _ => some (change.withNew (.str "c"))] (.set ["name"] (.str "b")) false
  obtain ⟨applies, -, shown⟩ := told _ rfl
  exact ⟨_, rfl, applies, shown⟩

end Tree

end RecordSync
