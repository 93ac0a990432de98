import Mathlib.Data.List.Pairwise
import RecordSync.Proofs.Query.Alike
import RecordSync.Proofs.Query.Canonical
import RecordSync.Proofs.Query.Ordering

/-!
# Comparing filters

To compare two groups their children are sorted by key and then compared place by place. Keys do not tell all children
apart, and children with equal keys stay in the order in which they are. So filters that compare equal are alike, but
alike filters compare equal, whatever their order, only if no group has two children with one key that are not alike.
-/

set_option autoImplicit false

namespace RecordSync

deriving instance DecidableEq for NodeKey

namespace NodeKey

def order (a b : NodeKey) : Ordering :=
  (compare a.field b.field).then ((compare a.kind b.kind).then (compare a.value b.value))

theorem le_eq (a b : NodeKey) : a.le b = (a.order b != .gt) := by
  unfold le order
  cases compare a.field b.field with
  | lt | gt => rfl
  | eq => cases compare a.kind b.kind <;> rfl

theorem eq_of_order {a b : NodeKey} (h : a.order b = .eq) : a = b := by
  obtain ⟨f, k, v⟩ := a
  obtain ⟨g, l, w⟩ := b
  simp only [order, Ordering.then_eq_eq, Std.compare_eq_iff_eq] at h
  obtain ⟨rfl, rfl, rfl⟩ := h
  rfl

theorem orders {α : Type} (rows : List α) (key : α → NodeKey) : Orders rows fun a b => (key a).order (key b) := by
  apply (Orders.ofText rows fun a => (key a).field).combine
  apply (Orders.ofText rows fun a => (key a).kind).combine
  exact Orders.ofText rows fun a => (key a).value

end NodeKey

namespace FilterNode

theorem sortChildren_eq (children : List FilterNode) :
    sortChildren children = children.mergeSort fun a b => a.sortKey.order b.sortKey != .gt := by
  simp only [sortChildren, NodeKey.le_eq]

theorem perm_sortChildren (children : List FilterNode) : (sortChildren children).Perm children :=
  List.mergeSort_perm _ _

theorem pairwise_sortKey (children : List FilterNode) :
    ((sortChildren children).map sortKey).Pairwise fun k l => k.order l ≠ .gt := by
  rw [List.pairwise_map, sortChildren_eq]
  exact (NodeKey.orders children sortKey).pairwise_mergeSort

/-- The keys come in one order, whichever the order of the children is. -/
theorem map_sortKey_sortChildren {as bs : List FilterNode} (perm : as.Perm bs) :
    (sortChildren as).map sortKey = (sortChildren bs).map sortKey := by
  have keys : ((sortChildren as).map sortKey).Perm ((sortChildren bs).map sortKey) :=
    ((perm_sortChildren as).trans (perm.trans (perm_sortChildren bs).symm)).map sortKey
  refine List.Perm.eq_of_pairwise ?_ (pairwise_sortKey as) (pairwise_sortKey bs) keys
  intro k l hk _ kl lk
  have ordered := NodeKey.orders [k, l] id
  exact NodeKey.eq_of_order (ordered.antisymm (.head _) (.tail _ (.head _)) kl lk)

/-- Children with the same keys at the same places are sorted alike. -/
theorem forall₂_sortChildren {R : FilterNode → FilterNode → Prop} {as bs : List FilterNode}
    (keys : as.map sortKey = bs.map sortKey) :
    List.Forall₂ R (sortChildren as) (sortChildren bs) ↔ List.Forall₂ R as bs := by
  obtain ⟨length, keys⟩ := List.forall₂_iff_zip.1 (forall₂_map_eq.2 keys)
  -- both lists are sorted as one list of pairs, by the key that the two of a pair share
  let pairs := (as.zip bs).mergeSort fun p q => p.1.sortKey.le q.1.sortKey
  have left : pairs.map Prod.fst = sortChildren as := by
    rw [← List.map_fst_zip (Nat.le_of_eq length)]
    exact List.map_mergeSort fun _ _ _ _ => rfl
  have right : pairs.map Prod.snd = sortChildren bs := by
    rw [← List.map_snd_zip (Nat.le_of_eq length.symm)]
    exact List.map_mergeSort fun p hp q hq => by rw [keys hp, keys hq]
  have perm : pairs.Perm (as.zip bs) := List.mergeSort_perm _ _
  rw [← left, ← right, List.forall₂_map_left_iff, List.forall₂_map_right_iff, List.forall₂_same, List.forall₂_iff_zip]
  constructor
  · intro each
    exact ⟨length, fun pair => each _ (perm.mem_iff.2 pair)⟩
  · intro each pair listed
    exact each.2 (perm.mem_iff.1 listed)

theorem arrangeAll_eq (children : List FilterNode) : arrangeAll children = children.map arrange := by
  induction children with
  | nil => rfl
  | cons child rest ih => rw [arrangeAll, ih, List.map_cons]

@[simp] theorem sortKey_arrange (node : FilterNode) : node.arrange.sortKey = node.sortKey := by
  cases node with
  | item i => rfl
  | group logic children =>
    have length : (sortChildren (arrangeAll children)).length = children.length := by
      rw [(perm_sortChildren _).length_eq, arrangeAll_eq, List.length_map]
    simp only [arrange, sortKey, length]

theorem arrange_group (logic : Logic) (children : List FilterNode) :
    (group logic children).arrange = .group logic ((sortChildren children).map arrange) := by
  rw [arrange, arrangeAll_eq, sortChildren, sortChildren]
  rw [List.map_mergeSort (s := fun a b => a.sortKey.le b.sortKey)]
  simp

theorem sameAll_iff {as bs : List FilterNode} :
    sameAll as bs = true ↔ List.Forall₂ (fun a b => a.same b = true) as bs := by
  induction as generalizing bs with
  | nil => cases bs <;> simp [sameAll]
  | cons a rest ih => cases bs <;> simp [sameAll, ih]

def Matches (a b : FilterNode) : Prop := a.arrange.same b.arrange = true

instance (a b : FilterNode) : Decidable (Matches a b) := inferInstanceAs (Decidable (_ = true))

theorem matches_group {logic other : Logic} {as bs : List FilterNode} :
    Matches (.group logic as) (.group other bs) ↔
      logic = other ∧ List.Forall₂ Matches (sortChildren as) (sortChildren bs) := by
  rw [Matches, arrange_group, arrange_group, same, Bool.and_eq_true, beq_iff_eq, sameAll_iff,
    List.forall₂_map_left_iff, List.forall₂_map_right_iff]
  rfl

variable {a b : FilterNode}

/-- Sorting moves the children of both nodes; what then stands side by side is alike. -/
theorem Matches.alike (h : Matches a b) : Alike a b := by
  induction a using induct generalizing b with
  | item i =>
    cases b with
    | item j => exact .item (FilterItem.sameItem_iff.1 h)
    | group logic children => cases h
  | group logic children ih =>
    cases b with
    | item j => cases h
    | group other others =>
      obtain ⟨rfl, sorted⟩ := matches_group.1 h
      have beside : List.Forall₂ Alike (sortChildren children) (sortChildren others) :=
        forall₂_mono sorted fun x hx y _ same => ih x ((perm_sortChildren children).mem_iff.1 hx) same
      obtain ⟨moved, perm, beside⟩ := forall₂_moved beside (perm_sortChildren others)
      exact .group ((perm_sortChildren children).symm.trans perm) beside

/-- No item asks for a negative zero, which equals a zero that is written differently. -/
def PlainZeros (node : FilterNode) : Prop := ∀ i ∈ node.items, i.value.plainZeros = true

instance (node : FilterNode) : Decidable node.PlainZeros :=
  inferInstanceAs (Decidable (∀ i ∈ node.items, i.value.plainZeros = true))

theorem PlainZeros.child {logic : Logic} {children : List FilterNode} (h : PlainZeros (.group logic children))
    {child : FilterNode} (listed : child ∈ children) : PlainZeros child :=
  fun i held => h i (mem_itemsOfAll.2 ⟨child, listed, held⟩)

theorem Alike.sortKey_eq (h : Alike a b) (ha : a.PlainZeros) (hb : b.PlainZeros) : a.sortKey = b.sortKey := by
  cases h with
  | @item i j agrees =>
    have value := Json.eq_of_equal i.value j.value (ha i (.head _)) (hb j (.head _)) agrees.value
    simp only [sortKey, agrees.field, Operator.name_eq_of_beq agrees.operator, value]
  | group perm beside => simp only [sortKey, perm.length_eq, beside.length_eq]

/-- In each group, children that have the same key are alike, so that it does not matter which of them comes first. -/
inductive ToldApart : FilterNode → Prop where
  | item (i : FilterItem) : ToldApart (.item i)
  | group {logic : Logic} {children : List FilterNode} : (∀ child ∈ children, ToldApart child) →
      children.Pairwise (fun c d => c.sortKey = d.sortKey → Alike c d) → ToldApart (.group logic children)

theorem ToldApart.of_nodup {logic : Logic} {children : List FilterNode} (deeper : ∀ child ∈ children, ToldApart child)
    (distinct : (children.map sortKey).Nodup) : ToldApart (.group logic children) :=
  .group deeper ((List.pairwise_map.1 distinct).imp fun differ same => absurd same differ)

theorem alike_of_sortKey {children : List FilterNode}
    (apart : children.Pairwise fun c d => c.sortKey = d.sortKey → Alike c d) {c d : FilterNode} (hc : c ∈ children)
    (hd : d ∈ children) (key : c.sortKey = d.sortKey) : Alike c d := by
  have : Std.Symm fun c d : FilterNode => c.sortKey = d.sortKey → Alike c d :=
    ⟨fun _ _ ahead same => (ahead same.symm).symm⟩
  exact apart.forall_of_forall (fun x _ _ => .refl x) hc hd key

/-- Two arrangements of children that are told apart are sorted alike. -/
theorem alike_sortChildren {children moved : List FilterNode}
    (apart : children.Pairwise fun c d => c.sortKey = d.sortKey → Alike c d) (perm : children.Perm moved) :
    List.Forall₂ Alike (sortChildren children) (sortChildren moved) := by
  have keys := forall₂_map_eq.2 (map_sortKey_sortChildren perm)
  refine forall₂_mono keys fun c hc d hd key => alike_of_sortKey apart ?_ ?_ key
  · exact (perm_sortChildren children).mem_iff.1 hc
  · exact perm.mem_iff.2 ((perm_sortChildren moved).mem_iff.1 hd)

theorem ToldApart.matches_of_alike (apart : ToldApart a) (ha : a.PlainZeros) (hb : b.PlainZeros) (h : Alike a b) :
    Matches a b := by
  induction a using induct generalizing b with
  | item i =>
    cases h with
    | item agrees => exact FilterItem.sameItem_iff.2 agrees
  | group logic children ih =>
    cases h with
    | @group _ _ moved others perm beside =>
      cases apart with
      | group deeper here =>
        have keys : moved.map sortKey = others.map sortKey := by
          apply forall₂_map_eq.1
          exact forall₂_mono beside fun c hc d hd alike =>
            alike.sortKey_eq (ha.child (perm.mem_iff.2 hc)) (hb.child hd)
        -- the children may have been moved among others with the same key, which are alike
        have sorted : List.Forall₂ Alike (sortChildren children) (sortChildren others) :=
          forall₂_trans (fun _ _ _ first second => first.trans second) (alike_sortChildren here perm)
            ((forall₂_sortChildren keys).2 beside)
        refine matches_group.2 ⟨rfl, forall₂_mono sorted fun c hc d hd alike => ?_⟩
        have member := (perm_sortChildren children).mem_iff.1 hc
        exact ih c member (deeper c member) (ha.child member) (hb.child ((perm_sortChildren others).mem_iff.1 hd)) alike

/-- Two groups whose children have the same keys at the same places, and that differ at one of them. -/
theorem not_matches_group {logic : Logic} {front back later : List FilterNode} {c d : FilterNode}
    (keys : (front ++ c :: back).map sortKey = (front ++ d :: later).map sortKey)
    (differ : ¬Matches c d) : ¬Matches (.group logic (front ++ c :: back)) (.group logic (front ++ d :: later)) := by
  intro same
  have beside := (forall₂_sortChildren keys).1 (matches_group.1 same).2
  apply differ
  apply (List.forall₂_iff_zip.1 beside).2
  rw [List.zip_append rfl]
  exact List.mem_append_right _ (.head _)

theorem items_subset {logic other : Logic} {children others : List FilterNode}
    (within : ∀ d ∈ others, ∃ c ∈ children, d.items ⊆ c.items) :
    (group other others).items ⊆ (group logic children).items := by
  intro i listed
  obtain ⟨d, hd, held⟩ := mem_itemsOfAll.1 listed
  obtain ⟨c, hc, subset⟩ := within d hd
  exact mem_itemsOfAll.2 ⟨c, hc, subset held⟩

theorem exists_split {α : Type} {c d : α} {children : List α} (inOrder : [c, d].Sublist children) :
    ∃ front between back, children = front ++ c :: (between ++ d :: back) := by
  obtain ⟨upTo, after, rfl, hc, hd⟩ := List.cons_sublist_iff.1 inOrder
  obtain ⟨front, near, rfl⟩ := List.append_of_mem hc
  obtain ⟨far, back, rfl⟩ := List.append_of_mem (List.singleton_sublist.1 hd)
  exact ⟨front, near ++ far, back, by simp⟩

theorem perm_exchanged {α : Type} (c d : α) (front between back : List α) :
    (front ++ c :: (between ++ d :: back)).Perm (front ++ d :: (between ++ c :: back)) := by
  apply List.Perm.append_left
  have ahead : (c :: (between ++ d :: back)).Perm (c :: d :: (between ++ back)) := List.perm_middle.cons c
  have behind : (d :: c :: (between ++ back)).Perm (d :: (between ++ c :: back)) := List.perm_middle.symm.cons d
  exact ahead.trans ((List.Perm.swap d c _).trans behind)

/-- A node with its children moved which the comparison does not recognise. -/
structure Missed (a b : FilterNode) : Prop where
  alike : Alike a b
  within : b.items ⊆ a.items
  differ : ¬Matches a b

/-- Two children with the same key that are not alike change places. -/
theorem exists_missed_of_children {logic : Logic} {children : List FilterNode}
    (untold : ¬children.Pairwise fun c d => c.sortKey = d.sortKey → Alike c d) :
    ∃ b, Missed (.group logic children) b := by
  simp only [List.pairwise_iff_forall_sublist, not_forall] at untold
  obtain ⟨c, d, inOrder, key, differ⟩ := untold
  obtain ⟨front, between, back, rfl⟩ := exists_split inOrder
  have perm := perm_exchanged c d front between back
  refine ⟨.group logic (front ++ d :: (between ++ c :: back)), ?_, ?_, ?_⟩
  · exact .group perm (List.forall₂_same.2 fun x _ => .refl x)
  · exact items_subset fun x hx => ⟨x, perm.mem_iff.2 hx, fun _ held => held⟩
  · apply not_matches_group
    · simp [key]
    · exact fun same => differ same.alike

theorem Missed.exists_in_group {logic : Logic} {children : List FilterNode} {child other : FilterNode}
    (missed : Missed child other) (listed : child ∈ children) (key : child.sortKey = other.sortKey) :
    ∃ b, Missed (.group logic children) b := by
  obtain ⟨front, back, rfl⟩ := List.append_of_mem listed
  refine ⟨.group logic (front ++ other :: back), ?_, ?_, ?_⟩
  · exact .group (.refl _) (forall₂_replaced .refl front back missed.alike)
  · apply items_subset
    intro d hd
    rcases List.mem_append.1 hd with before | later
    · exact ⟨d, List.mem_append_left _ before, fun _ held => held⟩
    · rcases List.mem_cons.1 later with rfl | later
      · exact ⟨child, listed, missed.within⟩
      · exact ⟨d, List.mem_append_right _ (.tail _ later), fun _ held => held⟩
  · exact not_matches_group (by simp [key]) missed.differ

theorem exists_missed (untold : ¬ToldApart a) (plain : a.PlainZeros) : ∃ b, Missed a b := by
  induction a using induct with
  | item i => exact absurd (.item i) untold
  | group logic children ih =>
    by_cases deeper : ∀ child ∈ children, ToldApart child
    · exact exists_missed_of_children fun here => untold (.group deeper here)
    · simp only [not_forall] at deeper
      obtain ⟨child, listed, unsettled⟩ := deeper
      obtain ⟨other, missed⟩ := ih child listed unsettled (plain.child listed)
      have plain' : other.PlainZeros := fun i held => plain.child listed i (missed.within held)
      exact missed.exists_in_group listed (missed.alike.sortKey_eq (plain.child listed) plain')

end FilterNode

mutual

theorem FilterNode.canonical_of_items : (node : FilterNode) → (∀ i ∈ node.items, i.canonical = i) → node.canonical = node
  | .item i, h => by rw [canonical, h i (.head _)]
  | .group _ children, h => by rw [canonical, canonicalAll_of_items children h]

theorem FilterNode.canonicalAll_of_items : (nodes : List FilterNode) → (∀ i ∈ itemsOfAll nodes, i.canonical = i) →
    canonicalAll nodes = nodes
  | [], _ => rfl
  | node :: rest, h => by
    rw [itemsOfAll, List.forall_mem_append] at h
    rw [canonicalAll, canonical_of_items node h.1, canonicalAll_of_items rest h.2]

end

/-- Two filters are equal up to the order of children when both are missing, or the children of the groups of one of them
can be moved so that it asks for the same as the other at every place. -/
def UpToOrder (g h : Option FilterGroup) : Prop := Option.Rel (fun g h => FilterNode.Alike g.toNode h.toNode) g h

def FoundEqual (g h : Option FilterGroup) : Prop := Option.Rel (fun g h => FilterNode.Matches g.toNode h.toNode) g h

namespace FilterInput

variable {a b : FilterInput} {g h : Option FilterGroup} {group other : FilterGroup}

def PlainZeros (input : FilterInput) : Prop := ∀ i ∈ input.leaves, i.value.plainZeros = true

instance (input : FilterInput) : Decidable input.PlainZeros :=
  inferInstanceAs (Decidable (∀ i ∈ input.leaves, i.value.plainZeros = true))

/-- The items of a normal form are those of the request, with their operators resolved. -/
theorem mem_leaves_of_normalize (normal : a.normalize = .ok (some group)) {i : FilterItem} (listed : i ∈ group.items) :
    ∃ given ∈ a.leaves, given.field ≠ [] ∧ i = given.canonical := by
  obtain ⟨sound, shape⟩ := (a.normalize_failsIff.ok_iff _).1 normal
  obtain ⟨whole, present, rfl⟩ := Option.map_eq_some_iff.1 shape.symm
  obtain ⟨given, member, rfl⟩ := FilterGroup.mem_items_canonical listed
  have leaf : given ∈ a.leaves := leaves_of_group? present ▸ member
  exact ⟨given, leaf, fun fieldless => sound ⟨given, leaf, fieldless⟩, rfl⟩

theorem PlainZeros.of_normalize (plain : a.PlainZeros) (normal : a.normalize = .ok (some group)) :
    group.toNode.PlainZeros := by
  intro i listed
  obtain ⟨given, leaf, -, rfl⟩ := mem_leaves_of_normalize normal listed
  exact plain given leaf

theorem normalize_of_items (normal : a.normalize = .ok (some group)) (within : other.items ⊆ group.items) :
    (FilterInput.group other).normalize = .ok (some other) := by
  apply ((normalize_failsIff (.group other)).ok_iff _).2
  constructor
  · rintro ⟨i, listed, fieldless⟩
    obtain ⟨given, -, present, rfl⟩ := mem_leaves_of_normalize normal (within listed)
    exact present fieldless
  · have resolved : ∀ i ∈ other.items, i.canonical = i := by
      intro i listed
      obtain ⟨given, -, -, rfl⟩ := mem_leaves_of_normalize normal (within listed)
      exact given.canonical_canonical
    show some other = some { other with filters := FilterNode.canonicalAll other.filters }
    rw [FilterNode.canonicalAll_of_items other.filters resolved]

/-- A group whose children are not told apart is missed in another arrangement, which is a normal form as well. -/
theorem exists_missed (normal : a.normalize = .ok (some group)) (plain : a.PlainZeros)
    (untold : ¬group.toNode.ToldApart) :
    ∃ other : FilterGroup, (FilterInput.group other).normalize = .ok (some other) ∧
      (FilterInput.group other).PlainZeros ∧ FilterNode.Missed group.toNode other.toNode := by
  obtain ⟨node, alike, within, differ⟩ := FilterNode.exists_missed untold (plain.of_normalize normal)
  cases alike with
  | @group _ _ _ others perm beside =>
    refine ⟨⟨group.logic, others⟩, normalize_of_items normal within, ?_, .group perm beside, within, differ⟩
    exact fun i listed => plain.of_normalize normal i (within listed)

theorem compare_of_normalize (normal : a.normalize = .ok g) (normal' : b.normalize = .ok h) :
    ∃ answer, a.compare b = .ok answer ∧ (answer = true ↔ FoundEqual g h) := by
  simp only [compare, normal, normal']
  cases g with
  | none =>
    cases h with
    | none => exact ⟨true, rfl, iff_of_true rfl .none⟩
    | some h => exact ⟨false, rfl, iff_of_false nofun nofun⟩
  | some g =>
    cases h with
    | none => exact ⟨false, rfl, iff_of_false nofun nofun⟩
    | some h => exact ⟨_, rfl, fun same => .some same, fun | .some same => same⟩

theorem compare_eq_true_iff (normal : a.normalize = .ok g) (normal' : b.normalize = .ok h) :
    a.compare b = .ok true ↔ FoundEqual g h := by
  obtain ⟨answer, result, reads⟩ := compare_of_normalize normal normal'
  rw [result, ← reads, Except.ok.injEq]

theorem upToOrder_of_compare (normal : a.normalize = .ok g) (normal' : b.normalize = .ok h)
    (equal : a.compare b = .ok true) : UpToOrder g h := by
  cases (compare_eq_true_iff normal normal').1 equal with
  | none => exact .none
  | some same => exact .some same.alike

/-- Comparing requests that have normal forms succeeds, and requests that compare equal are equal up to the order of
children. Negative zeros left aside, the comparison recognises all requests that are equal to a given one up to order
exactly if, in each group of the given one, children with the same sort key are alike. -/
theorem compare_decides_iff (normal : a.normalize = .ok g) :
    (∀ b h, b.normalize = .ok h → ∃ answer, a.compare b = .ok answer ∧ (answer = true → UpToOrder g h)) ∧
      (a.PlainZeros →
        ((∀ b h, b.normalize = .ok h → b.PlainZeros → (a.compare b = .ok true ↔ UpToOrder g h)) ↔
          ∀ group, g = some group → group.toNode.ToldApart)) := by
  refine ⟨fun b h normal' => ?_, fun plain => ⟨?_, ?_⟩⟩
  · obtain ⟨answer, result, -⟩ := compare_of_normalize normal normal'
    exact ⟨answer, result, fun equal => upToOrder_of_compare normal normal' (equal ▸ result)⟩
  · rintro decides group rfl
    apply Classical.byContradiction
    intro untold
    obtain ⟨other, normal', plain', missed⟩ := exists_missed normal plain untold
    cases (compare_eq_true_iff normal normal').1 ((decides _ _ normal' plain').2 (.some missed.alike)) with
    | some same => exact missed.differ same
  · intro apart b h normal' plain'
    refine ⟨upToOrder_of_compare normal normal', fun upToOrder => ?_⟩
    apply (compare_eq_true_iff normal normal').2
    cases upToOrder with
    | none => exact .none
    | some alike =>
      exact .some ((apart _ rfl).matches_of_alike (plain.of_normalize normal) (plain'.of_normalize normal') alike)

end FilterInput

def spells (field text : String) : FilterNode :=
  .item { FilterItem.equality [field] (.str text) with operator := some (.builtin .eq) }

def toldApartSample : FilterGroup := ⟨.and, [spells "a" "p", .group .or [spells "b" "q", spells "a" "q"]]⟩

def toldApartMoved : FilterGroup := ⟨.and, [.group .or [spells "a" "q", spells "b" "q"], spells "a" "p"]⟩

theorem toldApartSample_toldApart : toldApartSample.toNode.ToldApart := by
  have inner : FilterNode.ToldApart (.group .or [spells "b" "q", spells "a" "q"]) := by
    apply FilterNode.ToldApart.of_nodup
    · simp only [List.forall_mem_cons]
      exact ⟨.item _, .item _, nofun⟩
    · decide
  apply FilterNode.ToldApart.of_nodup
  · simp only [toldApartSample, List.forall_mem_cons]
    exact ⟨.item _, inner, nofun⟩
  · decide

theorem toldApartSample_alike : FilterNode.Alike toldApartSample.toNode toldApartMoved.toNode := by
  apply FilterNode.Alike.group (.swap _ _ _)
  refine .cons (.group (.swap _ _ _) ?_) (.cons (.refl _) .nil)
  exact List.forall₂_same.2 fun child _ => .refl child

theorem FilterInput.compare_decides_iff_sample :
    (FilterInput.group toldApartSample).normalize = .ok (some toldApartSample) ∧
      (FilterInput.group toldApartMoved).normalize = .ok (some toldApartMoved) ∧
      (FilterInput.group toldApartSample).compare (.group toldApartMoved) = .ok true := by
  have normal : (FilterInput.group toldApartSample).normalize = .ok (some toldApartSample) := by rfl
  have moved : (FilterInput.group toldApartMoved).normalize = .ok (some toldApartMoved) := by rfl
  have plain : (FilterInput.group toldApartSample).PlainZeros := by decide
  have plain' : (FilterInput.group toldApartMoved).PlainZeros := by decide
  have decides := ((FilterInput.compare_decides_iff normal).2 plain).2 fun group present => by
    cases present
    exact toldApartSample_toldApart
  exact ⟨normal, moved, (decides _ _ moved plain').2 (.some toldApartSample_alike)⟩

def twinSample (first second : String) : FilterGroup :=
  ⟨.and, [.group .or [spells "a" first], .group .or [spells "a" second]]⟩

theorem not_matches_twins : ¬FilterNode.Matches (twinSample "p" "q").toNode (twinSample "q" "p").toNode := by
  have differ : ¬FilterNode.Matches (.group .or [spells "a" "p"]) (.group .or [spells "a" "q"]) := by
    intro same
    have beside := (FilterNode.matches_group.1 same).2
    simp only [FilterNode.sortChildren, List.mergeSort_singleton, List.forall₂_cons] at beside
    exact absurd beside.1 (by decide)
  show ¬FilterNode.Matches (.group .and ([] ++ _ :: [_])) (.group .and ([] ++ _ :: [_]))
  exact FilterNode.not_matches_group rfl differ

theorem FilterInput.compare_twins :
    (FilterInput.group (twinSample "p" "q")).normalize = .ok (some (twinSample "p" "q")) ∧
      (FilterInput.group (twinSample "q" "p")).normalize = .ok (some (twinSample "q" "p")) ∧
      UpToOrder (some (twinSample "p" "q")) (some (twinSample "q" "p")) ∧
      (FilterInput.group (twinSample "p" "q")).compare (.group (twinSample "q" "p")) = .ok false := by
  refine ⟨rfl, rfl, .some ?_, ?_⟩
  · exact .group (.swap _ _ _) (List.forall₂_same.2 fun child _ => .refl child)
  · obtain ⟨answer, result, reads⟩ := FilterInput.compare_of_normalize (a := .group (twinSample "p" "q"))
      (b := .group (twinSample "q" "p")) rfl rfl
    cases answer with
    | false => exact result
    | true =>
      cases reads.1 rfl with
      | some same => exact absurd same not_matches_twins

end RecordSync
