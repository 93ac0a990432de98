import RecordSync.Proofs.Source.Cancelling

/-!
# Removals undone

A removal remembers the index that the model had in the list as it was at that moment, and to undo it puts the model
back at that index. By then the list may have lost other members or got them back. So members that were taken out one
after the other come back to their places when the last is put back first, and those that were taken out together when
they are put back in the order of the list; otherwise it is a matter of counting.
-/

set_option autoImplicit false

namespace RecordSync

/-- The command takes members out of the list and brings none in. -/
def SourceCommand.TakesOut : SourceCommand → Prop
  | .remove _ | .removeKey _ | .removeAt _ => True
  | .splice _ _ items => items = []
  | _ => False

namespace Source

variable {s t u : Source} {id : ModelId} {list data members : List ModelId} {place : ModelId → Nat}

def countBefore (list members : List ModelId) (id : ModelId) : Nat :=
  members.countP fun other => list.idxOf other < list.idxOf id

def putBack (place : ModelId → Nat) (data order : List ModelId) : List ModelId :=
  order.foldl (fun data id => data.insertIdx (min (place id) data.length) id) data

theorem insertIdx_append_length (front back : List ModelId) (id : ModelId) :
    (front ++ back).insertIdx front.length id = front ++ id :: back := by
  induction front with
  | nil => rfl
  | cons first rest ih => exact congrArg (first :: ·) ih

theorem pairwise_idxOf (nodup : list.Nodup) : list.Pairwise fun a b => list.idxOf a < list.idxOf b := by
  rw [List.pairwise_iff_getElem]
  intro i j hi hj less
  rwa [nodup.idxOf_getElem, nodup.idxOf_getElem]

/-- Where the members are divided as the list is, those in front are counted. -/
theorem countBefore_append {front back : List ModelId} (front_lt : ∀ a ∈ front, list.idxOf a < list.idxOf id)
    (lt_back : ∀ b ∈ back, list.idxOf id < list.idxOf b) : countBefore list (front ++ back) id = front.length := by
  have all := List.countP_eq_length.2 fun a ha => decide_eq_true (front_lt a ha)
  have none := List.countP_eq_zero.2 fun b hb => fun late => Nat.lt_asymm (lt_back b hb) (of_decide_eq_true late)
  rw [countBefore, List.countP_append, all, none, Nat.add_zero]

/-- A model is put where it belongs exactly if the index counts the members that come before it. -/
theorem insertIdx_sublist_iff (nodup : list.Nodup) (sub : data.Sublist list) (inside : id ∈ list) (fresh : id ∉ data)
    {index : Nat} (le : index ≤ data.length) :
    (data.insertIdx index id).Sublist list ↔ index = countBefore list data id := by
  constructor
  · intro grown
    obtain ⟨front, back, rfl, rfl⟩ : ∃ front back, data = front ++ back ∧ front.length = index :=
      ⟨_, _, (List.take_append_drop index data).symm, List.length_take_of_le le⟩
    rw [insertIdx_append_length] at grown
    obtain ⟨-, later, apart⟩ := List.pairwise_append.1 ((pairwise_idxOf nodup).sublist grown)
    exact (countBefore_append (fun a ha => apart a ha id (.head _)) (List.pairwise_cons.1 later).1).symm
  · intro counted
    obtain ⟨front, back, rfl⟩ := List.append_of_mem inside
    obtain ⟨-, later, apart⟩ := List.pairwise_append.1 (pairwise_idxOf nodup)
    obtain ⟨left, right, rfl, ahead, behind⟩ := List.sublist_append_iff.1 sub
    have behind : right.Sublist back := by
      cases behind with
      | cons _ behind => exact behind
      | cons_cons => simp at fresh
    have split : countBefore (front ++ id :: back) (left ++ right) id = left.length :=
      countBefore_append (fun a ha => apart a (ahead.subset ha) id (.head _))
        fun b hb => (List.pairwise_cons.1 later).1 b (behind.subset hb)
    rw [counted, split, insertIdx_append_length]
    exact ahead.append (behind.cons_cons id)

theorem putBack_cons (data rest : List ModelId) (id : ModelId) :
    putBack place data (id :: rest) = putBack place (data.insertIdx (min (place id) data.length) id) rest := rfl

theorem putBack_append (data first later : List ModelId) :
    putBack place data (first ++ later) = putBack place (putBack place data first) later := List.foldl_append

theorem putBack_congr {other : ModelId → Nat} {order : List ModelId} (same : ∀ id ∈ order, place id = other id)
    (data : List ModelId) : putBack place data order = putBack other data order := by
  induction order generalizing data with
  | nil => rfl
  | cons id rest ih =>
    rw [putBack_cons, putBack_cons, same id (.head _)]
    exact ih (fun later hl => same later (.tail _ hl)) _

theorem sublist_putBack (data order : List ModelId) : data.Sublist (putBack place data order) := by
  induction order generalizing data with
  | nil => exact .refl data
  | cons id rest ih => exact (List.sublist_insertIdx _ _ _).trans (ih _)

theorem putBack_perm (data order : List ModelId) : (putBack place data order).Perm (order ++ data) := by
  induction order generalizing data with
  | nil => exact .refl data
  | cons id rest ih =>
    have grown := List.perm_insertIdx id data (Nat.min_le_right (place id) data.length)
    exact (ih _).trans ((grown.append_left rest).trans List.perm_middle)

/-- The list comes out as it was exactly if each model is put back where it belongs. -/
theorem putBack_eq_iff (nodup : list.Nodup) {order : List ModelId} (sub : data.Sublist list)
    (all : (order ++ data).Perm list) :
    putBack place data order = list ↔ ∀ first id later, order = first ++ id :: later →
      min (place id) (data.length + first.length) = countBefore list (data ++ first) id := by
  induction order generalizing data with
  | nil => exact iff_of_true (sub.eq_of_length all.length_eq) (by simp)
  | cons id rest ih =>
    have inside : id ∈ list := all.subset (.head _)
    have fresh : id ∉ data := fun twice =>
      (List.nodup_cons.1 (all.nodup_iff.2 nodup)).1 (List.mem_append_right _ twice)
    have le := Nat.min_le_right (place id) data.length
    have step := insertIdx_sublist_iff nodup sub inside fresh le
    have grown := List.perm_insertIdx id data le
    have rested := (grown.append_left rest).trans (List.perm_middle.trans all)
    -- what is counted for the later models does not depend on where this one was put
    have shift (first : List ModelId) (other : ModelId) :
        (data.insertIdx (min (place id) data.length) id).length + first.length = data.length + (id :: first).length ∧
          countBefore list (data.insertIdx (min (place id) data.length) id ++ first) other =
            countBefore list (data ++ id :: first) other := by
      refine ⟨?_, ((grown.append_right first).trans List.perm_middle.symm).countP_eq _⟩
      rw [grown.length_eq, List.length_cons, List.length_cons]
      omega
    rw [putBack_cons]
    constructor
    · intro whole first other later split
      have placed : (data.insertIdx (min (place id) data.length) id).Sublist list := whole ▸ sublist_putBack _ _
      cases first with
      | nil =>
        obtain ⟨rfl, rfl⟩ := List.cons.inj split
        simpa using step.1 placed
      | cons head first =>
        obtain ⟨rfl, rfl⟩ := List.cons.inj split
        obtain ⟨length, count⟩ := shift first other
        rw [← length, ← count]
        exact (ih placed rested).1 whole first other later rfl
    · intro places
      refine (ih (step.2 (by simpa using places [] id rest rfl)) rested).2 fun first other later split => ?_
      obtain ⟨length, count⟩ := shift first other
      rw [length, count]
      exact places (id :: first) other later (congrArg (id :: ·) split)

/-- Members that include all in front of a model count as many as its index says. -/
theorem countBefore_of_complete (nodup : list.Nodup) (distinct : members.Nodup) (sub : members ⊆ list)
    (inside : id ∈ list) (complete : ∀ other ∈ list, list.idxOf other < list.idxOf id → other ∈ members) :
    countBefore list members id = list.idxOf id := by
  have ahead : (members.filter fun other => list.idxOf other < list.idxOf id).Perm (list.take (list.idxOf id)) := by
    refine (List.perm_ext_iff_of_nodup (distinct.filter _) (nodup.sublist (List.take_sublist _ _))).2 fun other => ?_
    rw [List.mem_filter, decide_eq_true_iff]
    constructor
    · exact fun ⟨listed, less⟩ => (List.mem_take_iff_idxOf_lt (sub listed)).2 less
    · intro taken
      have listed := List.mem_of_mem_take taken
      have less := (List.mem_take_iff_idxOf_lt listed).1 taken
      exact ⟨complete other listed less, less⟩
  rw [countBefore, List.countP_eq_length_filter, ahead.length_eq]
  exact List.length_take_of_le (Nat.le_of_lt (List.idxOf_lt_length_of_mem inside))

theorem filter_append_perm (nodup : list.Nodup) (sub : data.Sublist list) :
    (list.filter (· ∉ data) ++ data).Perm list := by
  have whole : (list.filter (· ∉ data) ++ data).Nodup := by
    refine List.nodup_append.2 ⟨nodup.filter _, nodup.sublist sub, ?_⟩
    rintro a ha b hb rfl
    exact of_decide_eq_true (List.mem_filter.1 ha).2 hb
  refine (List.perm_ext_iff_of_nodup whole nodup).2 fun id => ?_
  rw [List.mem_append, List.mem_filter, decide_eq_true_iff]
  by_cases kept : id ∈ data
  · simp [kept, sub.subset kept]
  · simp [kept]

/-- What went together comes back to its places in the order of the list. -/
theorem putBack_idxOf (nodup : list.Nodup) (sub : data.Sublist list) :
    putBack list.idxOf data (list.filter (· ∉ data)) = list := by
  have part : (list.filter (· ∉ data)).Sublist list := List.filter_sublist
  have all := filter_append_perm nodup sub
  refine (putBack_eq_iff nodup sub all).2 fun first id later split => ?_
  have inside : id ∈ list := part.subset (split ▸ List.mem_append_right _ (.head _))
  have distinct : (data ++ first).Nodup := by
    refine ((List.perm_append_comm.trans all).nodup_iff.2 nodup).sublist ?_
    rw [split]
    exact List.sublist_append_left _ _ |>.append_left data
  have counted : countBefore list (data ++ first) id = list.idxOf id :=
    countBefore_of_complete nodup distinct ?_ inside ?_
  · rw [counted, Nat.min_eq_left]
    rw [← counted, ← List.length_append]
    exact List.countP_le_length
  · refine List.append_subset.2 ⟨sub.subset, fun other listed => part.subset ?_⟩
    rw [split]
    exact List.mem_append_left _ listed
  · intro other listed less
    by_cases kept : other ∈ data
    · exact List.mem_append_left _ kept
    · -- it went as well, and in the order of the list it stands in front
      have went : other ∈ first ++ id :: later := split ▸ List.mem_filter.2 ⟨listed, decide_eq_true kept⟩
      have ordered := (pairwise_idxOf nodup).sublist part
      rw [split] at ordered
      refine List.mem_append_right _ ((List.mem_append.1 went).resolve_right fun behind => ?_)
      rcases List.mem_cons.1 behind with rfl | behind
      · exact Nat.lt_irrefl _ less
      · exact Nat.lt_asymm less ((List.pairwise_cons.1 (List.pairwise_append.1 ordered).2.1).1 other behind)

def lastPlace (id : ModelId) : List ModelId → List (List ModelId) → Nat
  | list, [] => list.idxOf id
  | list, next :: later => if id ∈ next then lastPlace id next later else list.idxOf id

def lastGone : List ModelId → List (List ModelId) → List ModelId
  | _, [] => []
  | list, next :: later => lastGone next later ++ list.filter (· ∉ next)

theorem lastGone_subset (list : List ModelId) (later : List (List ModelId))
    (shrinks : (list :: later).Pairwise fun a b => b.Sublist a) : lastGone list later ⊆ list := by
  induction later generalizing list with
  | nil => simp [lastGone]
  | cons next later ih =>
    obtain ⟨first, rest⟩ := List.pairwise_cons.1 shrinks
    exact List.append_subset.2 ⟨fun id gone => (first next (.head _)).subset (ih next rest gone),
      List.filter_sublist.subset⟩

/-- Of lists that only lose members, the first is made again from the last. -/
theorem putBack_lastGone (nodup : list.Nodup) {later : List (List ModelId)}
    (shrinks : (list :: later).Pairwise fun a b => b.Sublist a) :
    putBack (lastPlace · list later) (later.getLastD list) (lastGone list later) = list := by
  induction later generalizing list with
  | nil => rfl
  | cons next later ih =>
    obtain ⟨first, rest⟩ := List.pairwise_cons.1 shrinks
    have sub := first next (.head _)
    have inner : putBack (lastPlace · list (next :: later)) (later.getLastD next) (lastGone next later) = next := by
      refine Eq.trans (putBack_congr (fun id gone => ?_) _) (ih (nodup.sublist sub) rest)
      exact if_pos (lastGone_subset next later rest gone)
    have outer : putBack (lastPlace · list (next :: later)) next (list.filter (· ∉ next)) = list := by
      refine Eq.trans (putBack_congr (fun id gone => ?_) next) (putBack_idxOf nodup sub)
      exact if_neg (of_decide_eq_true (List.mem_filter.1 gone).2)
    rw [lastGone, putBack_append, List.getLastD_cons, inner, outer]

def Cut (s t : Source) : Prop :=
  ∃ front cut back, s.data = front ++ cut ++ back ∧
    t = ({ s with data := front ++ back } : Source).leaveAll front.length cut

theorem cut_nothing (s : Source) : s.Cut s :=
  ⟨s.data, [], [], by simp, by simp [leaveAll]⟩

theorem cut_exchange (s : Source) (index count : Nat) : s.Cut (s.exchange index count []).2 := by
  let start := min index s.data.length
  obtain ⟨behind, whole⟩ := List.take_prefix count (s.data.drop start)
  have rest : s.data.drop (start + ((s.data.drop start).take count).length) = behind := by
    have same := congrArg (List.drop ((s.data.drop start).take count).length) whole
    rwa [List.drop_left, List.drop_drop, eq_comm] at same
  have front : (s.data.take start).length = start := List.length_take_of_le (Nat.min_le_right _ _)
  refine ⟨s.data.take start, (s.data.drop start).take count, behind, ?_, ?_⟩
  · rw [List.append_assoc, whole, List.take_append_drop]
  · rw [front, ← rest]
    simp only [exchange, enterAll, List.append_nil]
    rfl

theorem perform_takesOut (s : Source) {command : SourceCommand} (takesOut : command.TakesOut) :
    ∃ reply t, s.perform command = .ok (reply, t) ∧ s.Cut t := by
  cases command with
  | remove id => exact ⟨_, _, rfl, removeFirst_preserves s.cut_nothing (s.cut_exchange · 1) (· == id)⟩
  | removeKey key => exact ⟨_, _, rfl, removeFirst_preserves s.cut_nothing (s.cut_exchange · 1) (s.hasKey key)⟩
  | removeAt index => exact ⟨_, _, rfl, s.cut_exchange index 1⟩
  | splice index count items =>
    obtain rfl : items = [] := takesOut
    exact ⟨_, _, rfl, s.cut_exchange index count⟩
  | _ => exact takesOut.elim

theorem data_of_cut (cut : s.Cut t) : t.data.Sublist s.data := by
  obtain ⟨front, gone, back, split, rfl⟩ := cut
  rw [split, (leaveAll_frame _ _ gone).2]
  exact (List.sublist_append_left front gone).append_right back

def Persisted (s : Source) (id : ModelId) : Prop := id ∉ s.changes.added ∧ s.holds Model.isNew id = false

/-- The members that are gone have their removals pending, each with its place. -/
structure TakenOut (place : ModelId → Nat) (s t : Source) : Prop where
  models : s.SameModels t
  added : t.changes.added = s.changes.added
  removed : ∀ id, id ∈ t.changes.removed ↔ id ∈ s.changes.removed ∨ id ∈ s.data ∧ id ∉ t.data
  places : ∀ id ∈ s.data, id ∉ t.data → t.removedAt.lookup id = some (place id)
  others : ∀ id, (id ∈ s.data → id ∈ t.data) → t.removedAt.lookup id = s.removedAt.lookup id

theorem leave_persisted (persisted : s.Persisted id) (kept : id ∉ s.changes.removed) (index : Nat) :
    (s.leave id index).changes.added = s.changes.added ∧
      (s.leave id index).changes.removed = s.changes.removed ++ [id] ∧
      ∀ other, (s.leave id index).removedAt.lookup other =
        if other = id then some index else s.removedAt.lookup other := by
  have detached := detach_reobserved s id
  have keyed := detached.models.isNew id
  rcases leave_cases (rfl : s.detach id = s.detach id) index with
    ⟨added, -⟩ | ⟨-, gone, -⟩ | ⟨-, -, -, result⟩
  · exact absurd (detached.changes ▸ added) persisted.1
  · rw [detached.changes, keyed, persisted.2] at gone
    exact absurd (gone.resolve_left (by simp)) kept
  · rw [result, detached.changes, detached.removedAt]
    refine ⟨rfl, rfl, fun other => ?_⟩
    rw [lookup_append, lookup_without]
    split <;> simp

theorem leaveAll_persisted {ids : List ModelId} (nodup : ids.Nodup) (persisted : ∀ id ∈ ids, s.Persisted id)
    (kept : ∀ id ∈ ids, id ∉ s.changes.removed) (start : Nat) :
    (s.leaveAll start ids).changes.added = s.changes.added ∧
      (s.leaveAll start ids).changes.removed = s.changes.removed ++ ids ∧
      ∀ other, (s.leaveAll start ids).removedAt.lookup other =
        if other ∈ ids then some (start + ids.idxOf other) else s.removedAt.lookup other := by
  induction ids generalizing s start with
  | nil => simp [leaveAll]
  | cons id rest ih =>
    obtain ⟨alone, nodup⟩ := List.nodup_cons.1 nodup
    obtain ⟨added, removed, places⟩ := leave_persisted (persisted id (.head _)) (kept id (.head _)) start
    have same := (leave_frame s id start).1.models
    have ne {other : ModelId} (listed : other ∈ rest) : other ≠ id := fun here => alone (here ▸ listed)
    obtain ⟨added', removed', places'⟩ := ih (s := s.leave id start) nodup
      (fun other listed => ⟨added ▸ (persisted other (.tail _ listed)).1,
        (same.isNew other).trans (persisted other (.tail _ listed)).2⟩)
      (fun other listed => by
        rw [removed, List.mem_append, List.mem_singleton]
        exact not_or.2 ⟨kept other (.tail _ listed), ne listed⟩) (start + 1)
    rw [leaveAll_cons]
    refine ⟨added'.trans added, ?_, fun other => ?_⟩
    · rw [removed', removed, List.append_assoc]
      rfl
    · rw [places', places]
      by_cases here : other = id
      · subst here
        simp [alone]
      · simp only [List.mem_cons, here, false_or, if_false]
        rw [List.idxOf_cons_ne _ (Ne.symm here), Nat.add_assoc, Nat.add_comm 1]

/-- No model stands in the list twice or has its removal pending. -/
structure Tidy (s : Source) : Prop where
  nodup : s.data.Nodup
  kept : ∀ id ∈ s.data, id ∉ s.changes.removed

theorem takenOut_of_cut (tidy : s.Tidy) (cut : s.Cut t)
    (persisted : ∀ id ∈ s.data, id ∉ t.data → s.Persisted id) : TakenOut s.data.idxOf s t := by
  obtain ⟨front, gone, back, split, rfl⟩ := cut
  obtain ⟨moved, data⟩ := leaveAll_frame ({ s with data := front ++ back } : Source) front.length gone
  have data : (({ s with data := front ++ back } : Source).leaveAll front.length gone).data = front ++ back := data
  have nodup := split ▸ tidy.nodup
  have apart (id : ModelId) : id ∈ gone ↔ id ∈ s.data ∧ id ∉ front ++ back := by
    have stays := mem_without_cut nodup id
    rw [split, ← stays, not_and, not_not]
    simp only [List.mem_append]
    tauto
  have known : ∀ id ∈ gone, s.Persisted id := fun id listed =>
    persisted id ((apart id).1 listed).1 (by rw [data]; exact ((apart id).1 listed).2)
  have single : gone.Nodup :=
    nodup.sublist ((List.sublist_append_right _ _).trans (List.sublist_append_left _ _))
  obtain ⟨added, removed, places⟩ := leaveAll_persisted (s := { s with data := front ++ back }) single known
    (fun id listed => tidy.kept id ((apart id).1 listed).1) front.length
  refine ⟨moved.models, added, fun id => ?_, fun id member left => ?_, fun id stays => ?_⟩
  · rw [removed, data, List.mem_append, apart]
  · have listed := (apart id).2 ⟨member, by rwa [data] at left⟩
    have fresh : id ∉ front := fun inside => ((apart id).1 listed).2 (List.mem_append_left _ inside)
    rw [places, if_pos listed, split, List.append_assoc, List.idxOf_append, if_neg fresh, List.idxOf_append,
      if_pos listed, Nat.add_comm]
  · rw [places, if_neg]
    intro listed
    obtain ⟨member, left⟩ := (apart id).1 listed
    exact left (by rw [← data]; exact stays member)

def lists (s : Source) : List SourceCommand → List (List ModelId)
  | [] => []
  | command :: rest =>
    match s.perform command with
    | .ok (_, t) => t.data :: t.lists rest
    | .error _ => s.data :: s.lists rest

theorem lists_cons {command : SourceCommand} {reply : SourceReply} (done : s.perform command = .ok (reply, t))
    (rest : List SourceCommand) : s.lists (command :: rest) = t.data :: t.lists rest := by
  rw [lists, done]

theorem performAll?_cons {command : SourceCommand} {reply : SourceReply} (done : s.perform command = .ok (reply, t))
    (rest : List SourceCommand) : s.performAll? (command :: rest) = t.performAll? rest := by
  rw [performAll?, List.foldlM_cons, done]
  rfl

/-- Commands that only take members out never fail, and the list only loses members. -/
theorem exists_performAll? {commands : List SourceCommand} (takeOut : ∀ command ∈ commands, command.TakesOut)
    (s : Source) : ∃ t, s.performAll? commands = some t ∧ t.data.Sublist s.data ∧
      t.data = (s.lists commands).getLastD s.data ∧ (s.data :: s.lists commands).Pairwise fun a b => b.Sublist a := by
  induction commands generalizing s with
  | nil => exact ⟨s, rfl, .refl _, rfl, List.pairwise_singleton _ _⟩
  | cons command rest ih =>
    obtain ⟨reply, u, done, cut⟩ := perform_takesOut s (takeOut command (.head _))
    obtain ⟨t, later, sub, last, shrinks⟩ := ih (fun c hc => takeOut c (.tail _ hc)) u
    rw [performAll?_cons done, lists_cons done]
    refine ⟨t, later, sub.trans (data_of_cut cut), by rw [List.getLastD_cons, last], List.pairwise_cons.2 ⟨fun list listed => ?_, shrinks⟩⟩
    rcases List.mem_cons.1 listed with rfl | listed
    · exact data_of_cut cut
    · exact ((List.pairwise_cons.1 shrinks).1 list listed).trans (data_of_cut cut)

theorem TakenOut.tidy (taken : TakenOut place s t) (sub : t.data.Sublist s.data) (tidy : s.Tidy) :
    t.Tidy where
  nodup := tidy.nodup.sublist sub
  kept := fun id member pending => by
    rcases (taken.removed id).1 pending with before | ⟨-, gone⟩
    · exact tidy.kept id (sub.subset member) before
    · exact gone member

/-- The removals of all members that commands take out are pending, each with the place in the last list that has the
member. -/
theorem takenOut_of_performAll? {commands : List SourceCommand} (takeOut : ∀ command ∈ commands, command.TakesOut)
    (tidy : s.Tidy) (done : s.performAll? commands = some t)
    (persisted : ∀ id ∈ s.data, id ∉ t.data → s.Persisted id) :
    TakenOut (lastPlace · s.data (s.lists commands)) s t := by
  induction commands generalizing s with
  | nil =>
    cases done
    exact ⟨rfl, rfl, by tauto, fun id member gone => absurd member gone, fun _ _ => rfl⟩
  | cons command rest ih =>
    obtain ⟨reply, u, first, cut⟩ := perform_takesOut s (takeOut command (.head _))
    rw [performAll?_cons first] at done
    have rested : ∀ c ∈ rest, c.TakesOut := fun c hc => takeOut c (.tail _ hc)
    have sub := data_of_cut cut
    have later : t.data.Sublist u.data := by
      obtain ⟨_, again, sub, -⟩ := exists_performAll? rested u
      rwa [Option.some.inj (again.symm.trans done)] at sub
    have head := takenOut_of_cut tidy cut fun id member gone =>
      persisted id member fun still => gone (later.subset still)
    have tail := ih rested (head.tidy sub tidy) done fun id member gone =>
      ⟨head.added ▸ (persisted id (sub.subset member) gone).1,
        (head.models.isNew id).trans (persisted id (sub.subset member) gone).2⟩
    rw [lists_cons first]
    refine ⟨head.models.trans tail.models, tail.added.trans head.added, fun id => ?_, fun id member gone => ?_,
      fun id stays => ?_⟩
    · rw [tail.removed, head.removed]
      have inner : id ∈ t.data → id ∈ u.data := fun h => later.subset h
      have outer : id ∈ u.data → id ∈ s.data := fun h => sub.subset h
      tauto
    · rw [lastPlace]
      split
      · next still => exact tail.places id still gone
      · next left => rw [tail.others id (fun still => absurd still left), head.places id member left]
    · by_cases still : id ∈ u.data
      · rw [tail.others id (fun _ => stays (sub.subset still)), head.others id (fun _ => still)]
      · rw [tail.others id (fun inside => absurd inside still),
          head.others id (fun member => later.subset (stays member))]

theorem removedAt_cancel (pending : id ∈ s.changes.removed) (keyed : s.holds Model.isNew id = false) {index : Nat}
    (placed : s.removedAt.lookup id = some index) :
    (s.cancel id).data = s.data.insertIdx (min index s.data.length) id ∧
      (s.cancel id).removedAt = s.removedAt.filter fun entry => entry.1 != id := by
  have reset : ∃ u : Source, s.cancel id = u.restore id ∧ u.data = s.data ∧ u.removedAt = s.removedAt ∧
      u.changes.removed = s.changes.removed := by
    rw [cancel, keyed]
    cases s.holds Model.isDirty id with
    | false => exact ⟨s, rfl, rfl, rfl, rfl⟩
    | true =>
      refine ⟨s.resetModel id, rfl, ?_⟩
      unfold resetModel
      split
      · exact ⟨rfl, rfl, rfl⟩
      · next written =>
        rw [(writtenAt_write written).rest]
        exact ⟨rfl, rfl, rfl⟩
  obtain ⟨u, undone, data, places, removed⟩ := reset
  have attached := attach_reobserved ({ u with
    changes := { u.changes with removed := u.changes.removed.erase id }
    removedAt := u.removedAt.filter fun entry => entry.1 != id } : Source) id
  rw [undone, restore, if_pos (List.contains_iff_mem.2 (removed ▸ pending))]
  dsimp only
  rw [attached.data, attached.removedAt, places, placed, data]
  exact ⟨rfl, rfl⟩

theorem Unmoved.isNew (h : Unmoved id s t) : t.holds Model.isNew id = s.holds Model.isNew id := by
  have same := congrArg (Option.any Model.isNew) h.model
  rwa [Option.any_map, Option.any_map] at same

/-- Persisted models whose removals are pending are put back to the places that are remembered. -/
theorem data_cancelEach {order : List ModelId} (nodup : order.Nodup) (pending : ∀ id ∈ order, id ∈ s.changes.removed)
    (keyed : ∀ id ∈ order, s.holds Model.isNew id = false)
    (places : ∀ id ∈ order, s.removedAt.lookup id = some (place id)) :
    (order.foldl cancel s).data = putBack place s.data order := by
  induction order generalizing s with
  | nil => rfl
  | cons id rest ih =>
    obtain ⟨alone, nodup⟩ := List.nodup_cons.1 nodup
    obtain ⟨data, left⟩ := removedAt_cancel (pending id (.head _)) (keyed id (.head _)) (places id (.head _))
    have aside {other : ModelId} (listed : other ∈ rest) : other ≠ id ∧ Aside other s (s.cancel id) :=
      have ne : other ≠ id := fun same => alone (same ▸ listed)
      ⟨ne, aside_cancel ne s⟩
    rw [putBack_cons, ← data]
    refine ih nodup (fun other listed => ?_) (fun other listed => ?_) (fun other listed => ?_)
    · exact (aside listed).2.removed.2 (pending other (.tail _ listed))
    · rw [(aside listed).2.toUnmoved.isNew]
      exact keyed other (.tail _ listed)
    · rw [left, lookup_without, if_neg (aside listed).1]
      exact places other (.tail _ listed)

/-- Persisted members that are taken out come back when their removals are undone, whatever the order, and the others
stay as they stand. The list is as it was exactly if each model comes back to the index it had when it was taken out at a
moment at which that many of the members before it are there, or to the end of a list that is shorter if all of it comes
before the model. This is so when what was taken out last comes back first, and what one command took out comes back in
the order of the list. -/
theorem removals_undone (tidy : s.Tidy) {commands : List SourceCommand}
    (takeOut : ∀ command ∈ commands, command.TakesOut) :
    ∃ t, s.performAll? commands = some t ∧ ((∀ id ∈ s.data, id ∉ t.data → s.Persisted id) →
      ∀ order : List ModelId, order.Perm (s.data.filter (· ∉ t.data)) →
        (order.foldl cancel t).data.Perm s.data ∧ t.data.Sublist (order.foldl cancel t).data ∧
        ((order.foldl cancel t).data = s.data ↔ ∀ first id later, order = first ++ id :: later →
          min (lastPlace id s.data (s.lists commands)) (t.data.length + first.length) =
            countBefore s.data (t.data ++ first) id) ∧
        (order = lastGone s.data (s.lists commands) → (order.foldl cancel t).data = s.data)) := by
  obtain ⟨t, done, sub, last, shrinks⟩ := exists_performAll? takeOut s
  refine ⟨t, done, fun persisted order all => ?_⟩
  have taken := takenOut_of_performAll? takeOut tidy done persisted
  have gone {id : ModelId} (listed : id ∈ order) : id ∈ s.data ∧ id ∉ t.data := by
    simpa using List.mem_filter.1 (all.subset listed)
  have data : (order.foldl cancel t).data = putBack (lastPlace · s.data (s.lists commands)) t.data order := by
    refine data_cancelEach (all.nodup_iff.2 (tidy.nodup.filter _)) (fun id listed => ?_) (fun id listed => ?_)
      fun id listed => taken.places id (gone listed).1 (gone listed).2
    · exact (taken.removed id).2 (.inr (gone listed))
    · exact (taken.models.isNew id).trans (persisted id (gone listed).1 (gone listed).2).2
  have whole := (all.append_right t.data).trans (filter_append_perm tidy.nodup sub)
  rw [data]
  refine ⟨(putBack_perm _ _).trans whole, sublist_putBack _ _, putBack_eq_iff tidy.nodup sub whole, ?_⟩
  rintro rfl
  rw [last]
  exact putBack_lastGone tidy.nodup shrinks

theorem Coherent.tidy (h : s.Coherent) : s.Tidy where
  nodup := h.nodup
  kept := fun id member removed => h.removed_outside id removed member

/-- Of four members two are taken out at once and then the first one; that one comes back first. -/
theorem removals_undone_sample : ∃ s t : Source, s.Regular ∧ s.data = [0, 1, 2, 3] ∧
    s.performAll? [.splice 1 2 [], .removeAt 0] = some t ∧ t.data = [3] ∧ ([0, 1, 2].foldl cancel t).data = s.data := by
  have shown : (worked? [namedRow 1, namedRow 2, namedRow 3, namedRow 4] []).bind (fun s =>
      (s.performAll? [.splice 1 2 [], .removeAt 0]).map fun t =>
        (s.data, s.changes.added, (s.data.map (s.holds Model.isNew)), t.data,
          lastGone s.data (s.lists [.splice 1 2 [], .removeAt 0]))) =
      some ([0, 1, 2, 3], [], [false, false, false, false], [3], [0, 1, 2]) := by decide +kernel
  obtain ⟨s, found, rest⟩ := Option.bind_eq_some_iff.1 shown
  obtain ⟨t, done, facts⟩ := Option.map_eq_some_iff.1 rest
  simp only [Prod.mk.injEq] at facts
  obtain ⟨data, added, keyed, left, last⟩ := facts
  have regular : s.Regular := regular_of_worked? (by simp [namedRow_ordered]) (by simp) found
  have takeOut : ∀ command ∈ [SourceCommand.splice 1 2 [], .removeAt 0], command.TakesOut := by
    simp [SourceCommand.TakesOut]
  obtain ⟨_, done', undone⟩ := removals_undone regular.coherent.tidy takeOut
  obtain rfl := Option.some.inj (done.symm.trans done')
  have persisted : ∀ id ∈ s.data, id ∉ t.data → s.Persisted id := by
    rw [data] at keyed ⊢
    simp only [List.map_cons, List.map_nil, List.cons.injEq] at keyed
    simp [Persisted, added, keyed]
  have all : [0, 1, 2].Perm (s.data.filter (· ∉ t.data)) := by
    rw [data, left]
    decide
  exact ⟨s, t, regular, data, done, left, (undone persisted [0, 1, 2] all).2.2.2 last.symm⟩

/-- Two members are taken out one after the other and are put back in that order, and two are taken out at once and are
put back in the other order: in both cases the list is not as it was. And a member that is listed twice comes back
once. -/
theorem not_restored :
    (∃ s t : Source, s.Regular ∧ s.data = [0, 1] ∧ s.Persisted 0 ∧ s.Persisted 1 ∧
      s.performAll? [.remove 0, .remove 1] = some t ∧ ((t.cancel 0).cancel 1).data = [1, 0]) ∧
    (∃ s t : Source, s.Regular ∧ s.data = [0, 1, 2] ∧ s.Persisted 0 ∧ s.Persisted 1 ∧
      s.performAll? [.splice 0 2 []] = some t ∧ ((t.cancel 1).cancel 0).data = [0, 2, 1]) ∧
    ∃ s t : Source, s.Reachable (fun _ _ => True) ∧ s.data = [0, 0] ∧ s.Persisted 0 ∧
      s.performAll? [.remove 0, .remove 0] = some t ∧ ((t.cancel 0).cancel 0).data = [0] := by
  refine ⟨?_, ?_, ?_⟩
  · have shown : (worked? [namedRow 1, namedRow 2] []).bind (fun s =>
        (s.performAll? [.remove 0, .remove 1]).map fun t =>
          (s.data, s.changes.added, s.holds Model.isNew 0, s.holds Model.isNew 1, ((t.cancel 0).cancel 1).data)) =
        some ([0, 1], [], false, false, [1, 0]) := by decide +kernel
    obtain ⟨s, found, rest⟩ := Option.bind_eq_some_iff.1 shown
    obtain ⟨t, done, facts⟩ := Option.map_eq_some_iff.1 rest
    simp only [Prod.mk.injEq] at facts
    obtain ⟨data, added, first, second, undone⟩ := facts
    exact ⟨s, t, regular_of_worked? (by simp [namedRow_ordered]) (by simp) found, data, ⟨by simp [added], first⟩,
      ⟨by simp [added], second⟩, done, undone⟩
  · have shown : (worked? [namedRow 1, namedRow 2, namedRow 3] []).bind (fun s =>
        (s.performAll? [.splice 0 2 []]).map fun t =>
          (s.data, s.changes.added, s.holds Model.isNew 0, s.holds Model.isNew 1, ((t.cancel 1).cancel 0).data)) =
        some ([0, 1, 2], [], false, false, [0, 2, 1]) := by decide +kernel
    obtain ⟨s, found, rest⟩ := Option.bind_eq_some_iff.1 shown
    obtain ⟨t, done, facts⟩ := Option.map_eq_some_iff.1 rest
    simp only [Prod.mk.injEq] at facts
    obtain ⟨data, added, first, second, undone⟩ := facts
    exact ⟨s, t, regular_of_worked? (by simp [namedRow_ordered]) (by simp) found, data, ⟨by simp [added], first⟩,
      ⟨by simp [added], second⟩, done, undone⟩
  · have shown : (fetched? [namedRow 1]).bind (fun r =>
        (r.perform (.setData [.model 0, .model 0])).toOption.bind fun set =>
          (set.2.performAll? [.remove 0, .remove 0]).map fun t =>
            (r.models.length, set.2.data, set.2.changes.added, set.2.holds Model.isNew 0,
              ((t.cancel 0).cancel 0).data)) = some (1, [0, 0], [], false, [0]) := by decide +kernel
    obtain ⟨r, found, rest⟩ := Option.bind_eq_some_iff.1 shown
    obtain ⟨⟨reply, s⟩, set, rest⟩ := Option.bind_eq_some_iff.1 rest
    obtain ⟨t, done, facts⟩ := Option.map_eq_some_iff.1 rest
    simp only [Prod.mk.injEq] at facts
    obtain ⟨size, data, added, keyed, undone⟩ := facts
    have reached : History (fun _ _ _ => True) [.fetched r.data] r :=
      fetched?_history (by simp [namedRow_ordered]) (fun _ _ _ => trivial) found
    refine ⟨s, t, ?_, data, ⟨by simp [added], keyed⟩, done, undone⟩
    exact reached.reachable_any.perform trivial (by simp [SourceCommand.items, size]) (ok_of_toOption set)

end Source

end RecordSync
