import RecordSync.KeyMap

/-!
# Maps in key order, as functions

What a map shows under each name, for every operation on maps. Erasing needs the order of keys: it takes away one
entry, and only in an ordered map is that the only one of its name.
-/

set_option autoImplicit false

namespace RecordSync.KeyMap

variable {α : Type}

theorem get?_cons (k : String) (v : α) (rest : KeyMap α) (key : String) :
    get? ((k, v) :: rest) key = if k = key then some v else get? rest key := rfl

theorem get?_eq_none {m : KeyMap α} {key : String} (h : ∀ entry ∈ m, entry.1 ≠ key) : get? m key = none := by
  induction m with
  | nil => rfl
  | cons entry rest ih =>
    rw [get?_cons, if_neg (h entry (by simp)), ih fun e he => h e (by simp [he])]

theorem get?_eq_none_of_lt {m : KeyMap α} {key : String} (h : ∀ entry ∈ m, key < entry.1) :
    get? m key = none :=
  get?_eq_none fun entry he => (Std.ne_of_lt (h entry he)).symm

theorem mem_of_get? {m : KeyMap α} {key : String} {value : α} (h : get? m key = some value) : (key, value) ∈ m := by
  induction m with
  | nil => cases h
  | cons entry rest ih =>
    obtain ⟨k, v⟩ := entry
    rw [get?_cons] at h
    split at h
    · next same =>
      subst same
      cases h
      exact .head _
    · exact .tail _ (ih h)

/-- Where names are distinct, every entry is the one that is shown. -/
theorem get?_of_mem {m : KeyMap α} (distinct : (m.map (·.1)).Nodup) {key : String} {value : α}
    (h : (key, value) ∈ m) : get? m key = some value := by
  induction m with
  | nil => cases h
  | cons entry rest ih =>
    obtain ⟨k, v⟩ := entry
    obtain ⟨fresh, distinct⟩ := List.nodup_cons.1 distinct
    rw [get?_cons]
    rcases List.mem_cons.1 h with same | later
    · cases same
      exact if_pos rfl
    · have ne : k ≠ key := by
        rintro rfl
        exact fresh (List.mem_map.2 ⟨_, later, rfl⟩)
      rw [if_neg ne]
      exact ih distinct later

theorem get?_insert (m : KeyMap α) (key other : String) (value : α) :
    get? (insert m key value) other = if key = other then some value else get? m other := by
  split
  · next h => subst h; exact get?_insert_self m key value
  · next h => exact get?_insert_of_ne m (Ne.symm h) value

theorem sublist_insert (m : KeyMap α) (key : String) (value : α) :
    (m.map (·.1)).Sublist ((insert m key value).map (·.1)) := by
  induction m with
  | nil => exact List.nil_sublist _
  | cons entry rest ih =>
    obtain ⟨k, v⟩ := entry
    unfold insert
    split
    · next same => simp [same]
    · split
      · exact List.sublist_cons_self _ _
      · exact ih.cons_cons k

theorem insert_insert_self (m : KeyMap α) (key : String) (first second : α) :
    insert (insert m key first) key second = insert m key second := by
  induction m with
  | nil => simp [insert]
  | cons entry rest ih =>
    by_cases here : entry.1 = key
    · simp [insert, here]
    · by_cases before : key < entry.1 <;> simp [insert, here, before, ih]

instance (m : KeyMap α) : Decidable (Ordered m) := inferInstanceAs (Decidable (List.Pairwise _ m))

theorem Ordered.tail {entry : String × α} {rest : KeyMap α} (h : Ordered (entry :: rest)) : Ordered rest :=
  (List.pairwise_cons.1 h).2

theorem Ordered.get?_tail {k : String} {v : α} {rest : KeyMap α} (h : Ordered ((k, v) :: rest)) :
    get? rest k = none :=
  get?_eq_none_of_lt (List.pairwise_cons.1 h).1

theorem mem_of_mem_erase {m : KeyMap α} {key : String} {entry : String × α} (h : entry ∈ erase m key) :
    entry ∈ m := by
  induction m with
  | nil => exact h
  | cons first rest ih =>
    unfold KeyMap.erase at h
    split at h
    · exact .tail _ h
    · rcases List.mem_cons.1 h with rfl | h
      · exact .head _
      · exact .tail _ (ih h)

theorem Ordered.get?_of_lt {k : String} {v : α} {rest : KeyMap α} (h : Ordered ((k, v) :: rest)) {key : String}
    (lt : key < k) : get? ((k, v) :: rest) key = none := by
  refine get?_eq_none_of_lt fun e he => ?_
  rcases List.mem_cons.1 he with rfl | he
  · exact lt
  · exact String.lt_trans lt ((List.pairwise_cons.1 h).1 e he)

theorem Ordered.erase {m : KeyMap α} (h : Ordered m) (key : String) : Ordered (erase m key) := by
  induction m with
  | nil => exact h
  | cons entry rest ih =>
    obtain ⟨k, v⟩ := entry
    obtain ⟨above, ordered⟩ := List.pairwise_cons.1 h
    unfold KeyMap.erase
    split
    · exact ordered
    · exact List.pairwise_cons.2 ⟨fun e he => above e (mem_of_mem_erase he), ih ordered⟩

theorem Ordered.get?_erase_self {m : KeyMap α} (h : Ordered m) (key : String) :
    get? (KeyMap.erase m key) key = none := by
  induction m with
  | nil => rfl
  | cons entry rest ih =>
    obtain ⟨k, v⟩ := entry
    unfold KeyMap.erase
    split
    · next hk => subst hk; exact h.get?_tail
    · next hk => rw [get?_cons, if_neg hk, ih h.tail]

theorem Ordered.get?_erase {m : KeyMap α} (h : Ordered m) (key other : String) :
    get? (KeyMap.erase m key) other = if key = other then none else get? m other := by
  by_cases same : key = other
  · rw [if_pos same, ← same, h.get?_erase_self]
  · rw [if_neg same, get?_erase_of_ne m (Ne.symm same)]

/-- The first entry of an ordered map is read off from what the map shows. -/
theorem Ordered.not_lt_of_shown {k l : String} {v w : α} {as bs : KeyMap α} (hb : Ordered ((l, w) :: bs))
    (shown : get? ((l, w) :: bs) k = get? ((k, v) :: as) k) : ¬k < l := by
  intro lt
  rw [hb.get?_of_lt lt, get?_cons, if_pos rfl] at shown
  cases shown

theorem Ordered.ext {a b : KeyMap α} (ha : Ordered a) (hb : Ordered b) (same : ∀ key, get? a key = get? b key) :
    a = b := by
  induction a generalizing b with
  | nil =>
    cases b with
    | nil => rfl
    | cons second bs => simpa [get?] using same second.1
  | cons first as ih =>
    cases b with
    | nil => simpa [get?] using same first.1
    | cons second bs =>
      obtain ⟨k, v⟩ := first
      obtain ⟨l, w⟩ := second
      have keys : k = l := Std.le_antisymm (String.not_lt.1 (ha.not_lt_of_shown (same l)))
        (String.not_lt.1 (hb.not_lt_of_shown (same k).symm))
      subst keys
      have values : v = w := by simpa [get?_cons] using same k
      have rests : as = bs := by
        refine ih ha.tail hb.tail fun key => ?_
        by_cases here : k = key
        · rw [← here, ha.get?_tail, hb.get?_tail]
        · simpa [get?_cons, here] using same key
      rw [values, rests]

theorem Ordered.insert_of_get? {m : KeyMap α} (h : Ordered m) {key : String} {value : α}
    (shown : get? m key = some value) : KeyMap.insert m key value = m := by
  refine (h.insert key value).ext h fun other => ?_
  by_cases same : key = other
  · simp [get?_insert, ← same, shown]
  · simp [get?_insert, same]

theorem Ordered.erase_insert {m : KeyMap α} (h : Ordered m) {key : String} (absent : get? m key = none) (value : α) :
    KeyMap.erase (KeyMap.insert m key value) key = m := by
  refine ((h.insert key value).erase key).ext h fun other => ?_
  by_cases same : key = other
  · simp [(h.insert key value).get?_erase, ← same, absent]
  · simp [(h.insert key value).get?_erase, get?_insert, same]

theorem Ordered.insert_erase {m : KeyMap α} (h : Ordered m) {key : String} {value : α}
    (shown : get? m key = some value) : KeyMap.insert (KeyMap.erase m key) key value = m := by
  refine ((h.erase key).insert key value).ext h fun other => ?_
  by_cases same : key = other
  · simp [get?_insert, ← same, shown]
  · simp [get?_insert, h.get?_erase, same]

theorem ordered_foldl_insert {m : KeyMap α} (h : Ordered m) (entries : List (String × α)) :
    Ordered (entries.foldl (fun m entry => insert m entry.1 entry.2) m) := by
  induction entries generalizing m with
  | nil => exact h
  | cons entry rest ih => exact ih (h.insert entry.1 entry.2)

theorem Ordered.union {m : KeyMap α} (h : Ordered m) (other : KeyMap α) : Ordered (union m other) :=
  ordered_foldl_insert h other

theorem get?_foldl_insert (m entries : KeyMap α) (distinct : (entries.map (·.1)).Nodup) (key : String) :
    get? (entries.foldl (fun m entry => insert m entry.1 entry.2) m) key = (get? entries key).or (get? m key) := by
  induction entries generalizing m with
  | nil => rfl
  | cons entry rest ih =>
    obtain ⟨k, v⟩ := entry
    obtain ⟨fresh, distinct⟩ := List.nodup_cons.1 distinct
    rw [List.foldl_cons, ih _ distinct, get?_insert, get?_cons]
    split
    · next hk =>
      subst hk
      have none : get? rest k = none :=
        get?_eq_none fun e he hk => fresh (List.mem_map.2 ⟨e, he, hk⟩)
      rw [none, Option.none_or, Option.some_or]
    · rfl

theorem Ordered.nodup_keys {m : KeyMap α} (h : Ordered m) : (m.map (·.1)).Nodup :=
  List.pairwise_map.2 (h.imp fun lt => Std.ne_of_lt lt)

theorem get?_union (m : KeyMap α) {other : KeyMap α} (h : Ordered other) (key : String) :
    get? (union m other) key = (get? other key).or (get? m key) :=
  get?_foldl_insert m other h.nodup_keys key

/-- What holds of an entry still holds of it in a union if it holds of all entries that may replace it. -/
theorem get?_union_of {P : Option α → Prop} {m other : KeyMap α} {key : String} (before : P (get? m key))
    (written : ∀ value, (key, value) ∈ other → P (some value)) : P (get? (union m other) key) := by
  induction other generalizing m with
  | nil => exact before
  | cons entry rest ih =>
    refine ih (m := insert m entry.1 entry.2) ?_ fun value listed => written value (.tail _ listed)
    by_cases same : key = entry.1
    · subst same
      rw [get?_insert_self]
      exact written entry.2 (.head _)
    · rwa [get?_insert_of_ne m same]

theorem get?_ofList (entries : KeyMap α) (distinct : (entries.map (·.1)).Nodup) (key : String) :
    get? (ofList entries) key = get? entries key := by
  rw [ofList, get?_foldl_insert _ _ distinct, get?_nil, Option.or_none]

theorem Ordered.ofList_eq {m : KeyMap α} (h : Ordered m) : ofList m = m :=
  (ordered_ofList m).ext h fun key => get?_ofList m h.nodup_keys key

theorem mem_of_mem_foldl_insert {m entries : KeyMap α} {entry : String × α}
    (h : entry ∈ entries.foldl (fun m entry => KeyMap.insert m entry.1 entry.2) m) : entry ∈ m ∨ entry ∈ entries := by
  induction entries generalizing m with
  | nil => exact .inl h
  | cons first entries ih =>
    rcases ih h with inserted | later
    · exact (mem_insert inserted).elim (fun eq => .inr (eq ▸ .head _)) .inl
    · exact .inr (.tail _ later)

theorem mem_of_mem_ofList {entries : KeyMap α} {entry : String × α} (h : entry ∈ ofList entries) : entry ∈ entries :=
  (mem_of_mem_foldl_insert h).resolve_left List.not_mem_nil

theorem get?_ofList_map {β : Type} (name : β → String) (f : String → α) (entries : List β) (key : String) :
    get? (ofList (entries.map fun entry => (name entry, f (name entry)))) key =
      if key ∈ entries.map name then some (f key) else none := by
  have folded (m : KeyMap α) : get? ((entries.map fun entry => (name entry, f (name entry))).foldl
      (fun m entry => insert m entry.1 entry.2) m) key = if key ∈ entries.map name then some (f key) else get? m key := by
    induction entries generalizing m with
    | nil => rfl
    | cons entry rest ih =>
      rw [List.map_cons, List.foldl_cons, ih, get?_insert]
      by_cases same : name entry = key
      · simp [same]
      · simp [same, Ne.symm same]
  exact folded []

theorem get?_eq_lookup (m : KeyMap α) (key : String) : get? m key = List.lookup key m := by
  induction m with
  | nil => rfl
  | cons entry rest ih =>
    rw [get?_cons, List.lookup_cons, ih]
    by_cases same : entry.1 = key
    · simp [same]
    · rw [if_neg same, beq_false_of_ne (Ne.symm same)]

theorem lookup_filterMap {κ : Type} [DecidableEq κ] (f : κ → Option α) (names : List κ) (name : κ) :
    (names.filterMap fun n => (f n).map (n, ·)).lookup name = if name ∈ names then f name else none := by
  induction names with
  | nil => rfl
  | cons first rest ih =>
    cases found : f first with
    | none =>
      rw [List.filterMap_cons_none (by rw [found]; rfl), ih]
      by_cases same : name = first
      · simp [same, found]
      · simp [same]
    | some value =>
      rw [List.filterMap_cons_some (by rw [found]; rfl), List.lookup_cons, ih]
      by_cases same : name = first
      · simp [same, found]
      · rw [beq_false_of_ne same]
        simp [same]

theorem get?_filterMap (f : String → Option α) (names : List String) (name : String) :
    get? (names.filterMap fun n => (f n).map (n, ·)) name = if name ∈ names then f name else none := by
  rw [get?_eq_lookup, lookup_filterMap]

/-- Entries that are made from the entries of a map, under the same names. -/
theorem get?_filterMap_entries {β : Type} {m : KeyMap α} (distinct : (m.map (·.1)).Nodup) (f : α → Option β)
    (key : String) : get? (m.filterMap fun entry => (f entry.2).map (entry.1, ·)) key = (get? m key).bind f := by
  induction m with
  | nil => rfl
  | cons entry rest ih =>
    obtain ⟨k, v⟩ := entry
    obtain ⟨fresh, distinct⟩ := List.nodup_cons.1 distinct
    rw [get?_cons]
    cases made : f v with
    | none =>
      rw [List.filterMap_cons_none (by rw [made]; rfl), ih distinct]
      split
      · next same =>
        subst same
        rw [get?_eq_none fun entry listed same => fresh (List.mem_map.2 ⟨entry, listed, same⟩)]
        exact made.symm
      · rfl
    | some value =>
      rw [List.filterMap_cons_some (by rw [made]; rfl), get?_cons, ih distinct]
      split
      · exact made.symm
      · rfl

theorem map_fst_filterMap (f : String → Option α) (names : List String) :
    ((names.filterMap fun n => (f n).map (n, ·)).map (·.1)).Sublist names := by
  induction names with
  | nil => exact .slnil
  | cons first rest ih =>
    cases found : f first with
    | none =>
      rw [List.filterMap_cons_none (by rw [found]; rfl)]
      exact ih.cons first
    | some value =>
      rw [List.filterMap_cons_some (by rw [found]; rfl)]
      exact ih.cons_cons first

end RecordSync.KeyMap
