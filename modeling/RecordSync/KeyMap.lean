/-!
# Maps in key order

A finite map from texts to values as its entries in ascending order of keys. Texts are compared by code
point, which is also the order of their UTF-8 bytes. Insertion keeps the order, so two maps with the same
entries are the same list.
-/

set_option autoImplicit false

namespace RecordSync

abbrev KeyMap (α : Type) := List (String × α)

namespace KeyMap

variable {α β : Type}

def get? : KeyMap α → String → Option α
  | [], _ => none
  | (k, v) :: rest, key => if k = key then some v else get? rest key

def contains (m : KeyMap α) (key : String) : Bool := (get? m key).isSome

def insert : KeyMap α → String → α → KeyMap α
  | [], key, value => [(key, value)]
  | (k, v) :: rest, key, value =>
    if k = key then (key, value) :: rest
    else if key < k then (key, value) :: (k, v) :: rest
    else (k, v) :: insert rest key value

def erase : KeyMap α → String → KeyMap α
  | [], _ => []
  | (k, v) :: rest, key => if k = key then rest else (k, v) :: erase rest key

def keys (m : KeyMap α) : List String := m.map (·.1)

def values (m : KeyMap α) : List α := m.map (·.2)

/-- The map of a list of entries; of two entries with one key the later one counts. -/
def ofList (entries : List (String × α)) : KeyMap α :=
  entries.foldl (fun m entry => insert m entry.1 entry.2) []

def union (m other : KeyMap α) : KeyMap α :=
  other.foldl (fun m entry => insert m entry.1 entry.2) m

def mapValues (f : α → β) (m : KeyMap α) : KeyMap β := m.map fun entry => (entry.1, f entry.2)

def Ordered (m : KeyMap α) : Prop := List.Pairwise (fun a b => a.1 < b.1) m

@[simp] theorem get?_nil (key : String) : get? ([] : KeyMap α) key = none := rfl

theorem get?_insert_self (m : KeyMap α) (key : String) (value : α) :
    get? (insert m key value) key = some value := by
  induction m with
  | nil => simp [insert, get?]
  | cons entry rest ih =>
    obtain ⟨k, v⟩ := entry
    unfold insert
    split
    · simp [get?]
    · split
      · simp [get?]
      · simp [get?, *]

theorem get?_insert_of_ne (m : KeyMap α) {key other : String} (h : other ≠ key) (value : α) :
    get? (insert m key value) other = get? m other := by
  induction m with
  | nil => simp [insert, get?, Ne.symm h]
  | cons entry rest ih =>
    obtain ⟨k, v⟩ := entry
    unfold insert
    split
    · next hk => subst hk; simp [get?, Ne.symm h]
    · split
      · simp [get?, Ne.symm h]
      · simp [get?, ih]

theorem get?_erase_of_ne (m : KeyMap α) {key other : String} (h : other ≠ key) :
    get? (erase m key) other = get? m other := by
  induction m with
  | nil => rfl
  | cons entry rest ih =>
    obtain ⟨k, v⟩ := entry
    unfold erase
    split
    · next hk => subst hk; simp [get?, Ne.symm h]
    · simp [get?, ih]

theorem key_lt_of_not_lt {a b : String} (h : ¬ b < a) (hne : a ≠ b) : a < b := by
  have hle : a ≤ b := String.not_lt.1 h
  exact Std.lt_of_le_of_ne hle hne

theorem mem_insert {m : KeyMap α} {key : String} {value : α} {entry : String × α}
    (h : entry ∈ insert m key value) : entry = (key, value) ∨ entry ∈ m := by
  induction m with
  | nil => simpa [insert] using h
  | cons first rest ih =>
    obtain ⟨k, v⟩ := first
    unfold insert at h
    split at h
    · rcases List.mem_cons.1 h with h | h
      · exact .inl h
      · exact .inr (.tail _ h)
    · split at h
      · simpa using h
      · rcases List.mem_cons.1 h with h | h
        · exact .inr (h ▸ .head _)
        · exact (ih h).imp id (.tail _)

theorem Ordered.insert {m : KeyMap α} (h : Ordered m) (key : String) (value : α) :
    Ordered (insert m key value) := by
  induction m with
  | nil => simp [KeyMap.insert, Ordered]
  | cons first rest ih =>
    obtain ⟨k, v⟩ := first
    obtain ⟨above, ordered⟩ := List.pairwise_cons.1 h
    unfold KeyMap.insert
    split
    · next hk => subst hk; exact List.pairwise_cons.2 ⟨above, ordered⟩
    · next hne =>
      split
      · next lt =>
        refine List.pairwise_cons.2 ⟨fun entry hm => ?_, h⟩
        rcases List.mem_cons.1 hm with rfl | hm
        · exact lt
        · exact String.lt_trans lt (above entry hm)
      · next notLt =>
        refine List.pairwise_cons.2 ⟨fun entry hm => ?_, ih ordered⟩
        rcases mem_insert hm with rfl | hm
        · exact key_lt_of_not_lt notLt hne
        · exact above entry hm

theorem ordered_ofList (entries : List (String × α)) : Ordered (ofList entries) := by
  unfold ofList
  suffices ∀ m : KeyMap α, Ordered m →
      Ordered (entries.foldl (fun m entry => KeyMap.insert m entry.1 entry.2) m) from this [] .nil
  induction entries with
  | nil => exact fun _ h => h
  | cons entry rest ih => exact fun m h => ih _ (h.insert entry.1 entry.2)

end KeyMap

end RecordSync
