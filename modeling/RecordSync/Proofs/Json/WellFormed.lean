import RecordSync.Json.Path
import RecordSync.Json.Reader
import RecordSync.Proofs.KeyMap
import RecordSync.Proofs.Numeric.Decimal

/-!
# Well-formed values

Data consists of values whose integers fit 64 bits, whose doubles are doubles and whose objects have their fields in key
order. Whatever is read from a text is such a value, and so is everything inside of it.
-/

set_option autoImplicit false

namespace RecordSync.Json

mutual

def WellFormed : Json → Prop
  | .num (.int n) => (fitsSigned64 n || fitsUnsigned64 n) = true
  | .num (.double x) => Binary64.Representable x.units
  | .arr items => WellFormedItems items
  | .obj fields => KeyMap.Ordered fields ∧ WellFormedFields fields
  | _ => True

def WellFormedItems : List Json → Prop
  | [] => True
  | j :: items => WellFormed j ∧ WellFormedItems items

def WellFormedFields : List (String × Json) → Prop
  | [] => True
  | (_, j) :: fields => WellFormed j ∧ WellFormedFields fields

end

theorem wellFormedItems_iff {items : List Json} : WellFormedItems items ↔ ∀ j ∈ items, j.WellFormed := by
  induction items with
  | nil => simp [WellFormedItems]
  | cons j items ih => simp [WellFormedItems, ih]

theorem wellFormedFields_iff {fields : List (String × Json)} :
    WellFormedFields fields ↔ ∀ field ∈ fields, field.2.WellFormed := by
  induction fields with
  | nil => simp [WellFormedFields]
  | cons field fields ih => simp [WellFormedFields, ih]

theorem WellFormed.child {j member : Json} {key : String} (h : j.WellFormed) (found : j.child? key = some member) :
    member.WellFormed := by
  cases j with
  | arr items =>
    obtain ⟨index, -, here⟩ := Option.bind_eq_some_iff.1 found
    exact wellFormedItems_iff.1 h member (List.mem_of_getElem? here)
  | obj fields => exact wellFormedFields_iff.1 h.2 _ (KeyMap.mem_of_get? found)
  | _ => cases found

theorem WellFormed.get? {j member : Json} {path : Path} (h : j.WellFormed) (found : j.get? path = some member) :
    member.WellFormed := by
  induction path generalizing j with
  | nil =>
    cases found
    exact h
  | cons key rest ih =>
    obtain ⟨inner, child, found⟩ := Option.bind_eq_some_iff.1 found
    exact ih (h.child child) found

namespace Reader

theorem wellFormed_makeNumber {negative : Bool} {whole fraction : List Char} {exponent : Option Int} {j : Json}
    (h : makeNumber negative whole fraction exponent = some j) : j.WellFormed := by
  have asDouble {digits : Nat} {power : Int} {x : FiniteDouble}
      (read : Double.ofDecimal negative digits power = .finite x) : (Json.num (.double x)).WellFormed := by
    have rep := Double.representable_ofDecimal negative digits power
    rwa [read] at rep
  unfold makeNumber at h
  dsimp only at h
  split at h
  · generalize (if negative = true then (-(_ : Int)) else (_ : Int)) = value at h
    split at h
    · next fits =>
      cases h
      exact fits
    · split at h
      · next x read =>
        cases h
        exact asDouble read
      · cases h
  · split at h
    · next x read =>
      cases h
      exact asDouble read
    · cases h

theorem wellFormed_readNumber? {cs rest : List Char} {j : Json} (h : readNumber? cs = some (j, rest)) :
    j.WellFormed := by
  unfold readNumber? at h
  dsimp only at h
  split at h
  · cases h
  · simp only [Option.bind_eq_bind, Option.bind_eq_some_iff] at h
    obtain ⟨_, -, _, -, number, made, same⟩ := h
    cases same
    exact wellFormed_makeNumber made

structure Yields (fuel : Nat) : Prop where
  value : ∀ {cs rest : List Char} {j : Json}, readValue? fuel cs = some (j, rest) → j.WellFormed
  items : ∀ {cs rest : List Char} {items : List Json}, readItems? fuel cs = some (items, rest) → WellFormedItems items
  fields : ∀ {cs rest : List Char} {fields : List (String × Json)}, readFields? fuel cs = some (fields, rest) →
    WellFormedFields fields

theorem wellFormed_ofList {fields : List (String × Json)} (h : WellFormedFields fields) :
    (Json.obj (KeyMap.ofList fields)).WellFormed :=
  ⟨KeyMap.ordered_ofList fields, wellFormedFields_iff.2 fun field listed =>
    wellFormedFields_iff.1 h field (KeyMap.mem_of_mem_ofList listed)⟩

theorem yields_zero : Yields 0 where
  value h := by cases h
  items h := by cases h
  fields h := by cases h

theorem Yields.succ {fuel : Nat} (h : Yields fuel) : Yields (fuel + 1) where
  value {cs rest j} read := by
    rw [readValue?] at read
    split at read
    iterate 3
      cases read
      trivial
    · obtain ⟨_, -, same⟩ := Option.map_eq_some_iff.1 read
      cases same
      trivial
    · split at read
      · cases read
        trivial
      · obtain ⟨_, inner, same⟩ := Option.map_eq_some_iff.1 read
        cases same
        exact h.items inner
    · split at read
      · cases read
        exact wellFormed_ofList (show WellFormedFields [] from trivial)
      · obtain ⟨_, inner, same⟩ := Option.map_eq_some_iff.1 read
        cases same
        exact wellFormed_ofList (h.fields inner)
    · exact wellFormed_readNumber? read
  items {cs rest items} read := by
    rw [readItems?] at read
    simp only [Option.bind_eq_bind, Option.bind_eq_some_iff] at read
    obtain ⟨⟨j, _⟩, first, next, -, read⟩ := read
    cases next with
    | done _ =>
      cases read
      exact ⟨h.value first, trivial⟩
    | more _ =>
      obtain ⟨_, others, same⟩ := Option.bind_eq_some_iff.1 read
      cases same
      exact ⟨h.value first, h.items others⟩
  fields {cs rest fields} read := by
    rw [readFields?] at read
    split at read
    · obtain ⟨_, -, read⟩ := Option.bind_eq_some_iff.1 read
      dsimp only at read
      split at read
      · simp only [Option.bind_eq_bind, Option.bind_eq_some_iff] at read
        obtain ⟨_, first, next, -, read⟩ := read
        cases next with
        | done _ =>
          cases read
          exact ⟨h.value first, trivial⟩
        | more _ =>
          obtain ⟨_, others, same⟩ := Option.bind_eq_some_iff.1 read
          cases same
          exact ⟨h.value first, h.fields others⟩
      · cases read
    · cases read

theorem yields (fuel : Nat) : Yields fuel := by
  induction fuel with
  | zero => exact yields_zero
  | succ fuel ih => exact ih.succ

end Reader

theorem wellFormed_of_read? {text : String} {j : Json} (h : read? text = some j) : j.WellFormed := by
  unfold read? at h
  obtain ⟨_, read, same⟩ := Option.bind_eq_some_iff.1 h
  dsimp only at same
  split at same
  · cases same
    exact (Reader.yields _).value read
  · cases same

end RecordSync.Json
