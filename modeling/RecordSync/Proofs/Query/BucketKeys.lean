import RecordSync.Proofs.Json.Equality
import RecordSync.Proofs.Json.ReadBack
import RecordSync.Proofs.Numeric.Integral
import RecordSync.Proofs.Query.Buckets
import RecordSync.Proofs.Time.Range

/-!
# Bucket keys

A bucket key is a text, whatever kind of value it is made of. The keys of different kinds never meet as long as no text
is among the values: a missing value, a boolean, a number, a timestamp and an array or object each have keys that begin
in their own way. A text is its own key, though, so it shares a bucket with the value that it spells. If that value is a
number the two are equal, otherwise they are not.
-/

set_option autoImplicit false

namespace RecordSync

namespace Scalar

def key : Scalar → String
  | .undefined | .null => "null"
  | .date millis => "date:" ++ toString millis
  | .text s => s
  | .number x => Decimal.plainText x
  | .bool b => if b then "true" else "false"
  | .other j => j.text

theorem key_of (value : Option Json) : (Scalar.of value false).key = bucketKey value := by
  unfold bucketKey
  cases Scalar.of value false <;> rfl

def WellFormed : Scalar → Prop
  | .date millis => millis.natAbs < 2 ^ 53
  | .number x => x.Representable ∧ x ≠ .nan
  | .other j => j.WellFormed ∧ (j.arr?.isSome ∨ j.obj?.isSome)
  | _ => True

theorem wellFormed_of {value : Option Json} (h : ∀ j ∈ value, j.WellFormed) : (Scalar.of value false).WellFormed := by
  cases value with
  | none => trivial
  | some j =>
    have wellFormed := h j rfl
    cases j with
    | null | bool _ => trivial
    | num n =>
      cases n with
      | int n => exact ⟨Double.representable_ofInt n, Double.ofInt_ne_nan n⟩
      | double x => exact ⟨wellFormed, Double.noConfusion⟩
    | str s =>
      rw [Scalar.of, Scalar.ofText]
      split
      · next millis read => exact natAbs_lt_of_parseInstant? read
      · trivial
    | arr items => exact ⟨wellFormed, .inl rfl⟩
    | obj fields => exact ⟨wellFormed, .inr rfl⟩

inductive Spells : Scalar → Scalar → Prop
  | undefined : Spells (.text "null") .undefined
  | null : Spells (.text "null") .null
  | bool (b : Bool) : Spells (.text (key (.bool b))) (.bool b)
  | date (millis : Int) : Spells (.text (key (.date millis))) (.date millis)
  | other (j : Json) : Spells (.text (key (.other j))) (.other j)

inductive Kind where
  | absent
  | bool
  | number
  | date
  | other
  deriving DecidableEq

def kind : Scalar → Kind
  | .undefined | .null => .absent
  | .bool _ => .bool
  | .number _ | .text _ => .number
  | .date _ => .date
  | .other _ => .other

def kindOfKey (key : String) : Kind :=
  match key.toList.head? with
  | some 'n' => .absent
  | some 't' | some 'f' => .bool
  | some 'd' => .date
  | some '[' | some '\x7b' => .other
  | _ => .number

theorem kindOfKey_of_head {key : String} {c : Char} {cs : List Char} (h : key.toList = c :: cs)
    (number : c = '-' ∨ Decimal.isDigit c = true) : kindOfKey key = .number := by
  rw [kindOfKey, h, List.head?_cons]
  rcases number with rfl | digit
  · rfl
  · have other : c ≠ 'n' ∧ c ≠ 't' ∧ c ≠ 'f' ∧ c ≠ 'd' ∧ c ≠ '[' ∧ c ≠ '\x7b' :=
      Decimal.forall_isDigit (P := fun c => c ≠ 'n' ∧ c ≠ 't' ∧ c ≠ 'f' ∧ c ≠ 'd' ∧ c ≠ '[' ∧ c ≠ '\x7b')
        (by decide) digit
    split <;> simp_all

theorem kindOfKey_plainText {x : Double} (rep : x.Representable) : kindOfKey (Decimal.plainText x) = .number := by
  cases x with
  | finite x =>
    obtain ⟨p, chars, valid, -⟩ := Decimal.exists_parts_render Decimal.proper_plainLayout rep
    obtain ⟨first, rest, begins, digit⟩ := valid.exists_first
    rw [begins] at chars
    cases negative : x.negative <;> rw [negative] at chars
    · exact kindOfKey_of_head chars (.inr digit)
    · exact kindOfKey_of_head chars (.inl rfl)
  | infinite negative => cases negative <;> decide
  | nan => decide

theorem kindOfKey_date (millis : Int) : kindOfKey ("date:" ++ toString millis) = .date := by
  rw [kindOfKey, String.toList_append]
  rfl

theorem kindOfKey_text {j : Json} (h : j.arr?.isSome ∨ j.obj?.isSome) : kindOfKey j.text = .other := by
  rw [kindOfKey, Json.toList_text]
  cases j with
  | arr items => rw [Json.Reader.spell_arr]; rfl
  | obj fields => rw [Json.Reader.spell_obj]; rfl
  | _ => simp [Json.arr?, Json.obj?] at h

theorem kindOfKey_key {a : Scalar} (wellFormed : a.WellFormed) (noText : ∀ s, a ≠ .text s) :
    kindOfKey a.key = a.kind := by
  cases a with
  | undefined | null => decide
  | bool b => cases b <;> decide
  | number x => exact kindOfKey_plainText wellFormed.1
  | text s => exact absurd rfl (noText s)
  | date millis => exact kindOfKey_date millis
  | other j => exact kindOfKey_text wellFormed.2

theorem looseEq_of_numbers {a b : Scalar} {x y : Double} (hx : a.number? = some x) (hy : b.number? = some y)
    (notTexts : ∀ s t, ¬(a = .text s ∧ b = .text t)) : a.looseEq b = x.numEq y := by
  cases a with
  | undefined | null | other _ => cases hx
  | text s =>
    cases b with
    | undefined | null | other _ => cases hy
    | text t => exact absurd ⟨rfl, rfl⟩ (notTexts s t)
    | _ => simp only [looseEq, hx, hy]
  | _ =>
    cases b with
    | undefined | null | other _ => cases hy
    | _ => simp only [looseEq, hx, hy]

theorem looseEq_of_no_number {s : String} (none : (Scalar.text s).number? = none) {b : Scalar}
    (noText : ∀ t, b ≠ .text t) : (Scalar.text s).looseEq b = false ∧ b.looseEq (.text s) = false := by
  cases b with
  | text t => exact absurd rfl (noText t)
  | undefined | null | other _ => exact ⟨rfl, rfl⟩
  | bool b | number b | date b =>
    simp only [looseEq, none]
    refine ⟨trivial, ?_⟩
    split
    · next absurd' => cases absurd'
    · rfl

theorem number?_plainText {x : Double} (rep : x.Representable) :
    (Scalar.text (Decimal.plainText x)).number? = some x := by
  have read := Decimal.readDouble?_plainText rep
  have nonempty : (Decimal.plainText x).isEmpty = false := by
    rw [Bool.eq_false_iff]
    intro empty
    rw [String.isEmpty_iff] at empty
    rw [empty] at read
    cases read
  simp only [number?, Decimal.trim_plainText rep, nonempty, read]
  rfl

theorem number?_date (millis : Int) : (Scalar.text ("date:" ++ toString millis)).number? = none := by
  have chars : ("date:" ++ toString millis).toList = "date:".toList ++ (toString millis).toList := String.toList_append
  have trimmed : Unicode.trim ("date:" ++ toString millis) = "date:" ++ toString millis := by
    refine Unicode.trim_eq_self ?_
    rw [chars, Decimal.toList_toString]
    refine List.forall_mem_append.2 ⟨by simp [Unicode.isBlank], List.forall_mem_append.2 ⟨?_, fun c listed => ?_⟩⟩
    · cases decide (millis < 0) <;> simp [Unicode.isBlank]
    · exact ((Decimal.valid_toDigits _).isNumeric c listed).not_isBlank
  have nonempty : ("date:" ++ toString millis).isEmpty = false := by
    rw [Bool.eq_false_iff]
    intro empty
    rw [String.isEmpty_iff] at empty
    rw [empty] at chars
    cases chars
  have read : Decimal.readDouble? ("date:" ++ toString millis) = none := Decimal.readDouble?_letter chars
  simp only [number?, trimmed, nonempty, read]
  rfl

theorem looseEq_of_spells {a b : Scalar} (h : Spells a b) : a.looseEq b = false ∧ b.looseEq a = false := by
  cases h with
  | undefined | null | other j => exact ⟨rfl, rfl⟩
  | bool b => exact looseEq_of_no_number (by cases b <;> decide) fun _ => Scalar.noConfusion
  | date millis => exact looseEq_of_no_number (number?_date millis) fun _ => Scalar.noConfusion

/-- A text that is the key of another scalar stands for it or spells it. -/
theorem spells_or_looseEq {s : String} {b : Scalar} (hb : b.WellFormed) (same : s = b.key) :
    Spells (.text s) b ∨ (Scalar.text s).looseEq b = true ∧ b.looseEq (.text s) = true := by
  subst same
  cases b with
  | undefined => exact .inl .undefined
  | null => exact .inl .null
  | bool b => exact .inl (.bool b)
  | date millis => exact .inl (.date millis)
  | other j => exact .inl (.other j)
  | text t => exact .inr ⟨beq_self_eq_true t, beq_self_eq_true t⟩
  | number x =>
    have number := number?_plainText hb.1
    have equal := Double.numEq_self hb.2
    exact .inr ⟨(looseEq_of_numbers number rfl (by simp)).trans equal,
      (looseEq_of_numbers rfl number (by simp)).trans equal⟩

theorem looseEq_of_key {a b : Scalar} (ha : a.WellFormed) (hb : b.WellFormed) (noText : ∀ s, a ≠ .text s)
    (noText' : ∀ s, b ≠ .text s) (same : a.key = b.key) : a.looseEq b = true := by
  have kinds : a.kind = b.kind := by
    rw [← kindOfKey_key ha noText, same, kindOfKey_key hb noText']
  cases a with
  | undefined | null =>
    cases b with
    | undefined | null => rfl
    | text s => exact absurd rfl (noText' s)
    | _ => cases kinds
  | bool a =>
    cases b with
    | bool b =>
      have equal : a = b := by cases a <;> cases b <;> first | rfl | exact absurd same (by decide)
      have number : (if b then Double.one else Double.zero) ≠ .nan := by
        split
        · exact Double.ofInt_ne_nan 1
        · exact Double.noConfusion
      rw [equal]
      exact (looseEq_of_numbers rfl rfl (by simp)).trans (Double.numEq_self number)
    | text s => exact absurd rfl (noText' s)
    | _ => cases kinds
  | number x =>
    cases b with
    | number y =>
      have read := Decimal.readDouble?_plainText ha.1
      rw [show Decimal.plainText x = Decimal.plainText y from same, Decimal.readDouble?_plainText hb.1] at read
      cases read
      exact (looseEq_of_numbers rfl rfl (by simp)).trans (Double.numEq_self ha.2)
    | text s => exact absurd rfl (noText' s)
    | _ => cases kinds
  | date millis =>
    cases b with
    | date millis' =>
      obtain rfl := Decimal.toString_injective ((String.append_right_inj _).1 same)
      exact (looseEq_of_numbers rfl rfl (by simp)).trans (Double.numEq_self (Double.ofInt_ne_nan millis))
    | text s => exact absurd rfl (noText' s)
    | _ => cases kinds
  | other j =>
    cases b with
    | other k =>
      obtain rfl := Json.text_injective ha.1 hb.1 same
      exact BEq.rfl
    | text s => exact absurd rfl (noText' s)
    | _ => cases kinds
  | text s => exact absurd rfl (noText s)

/-- Scalars with one key are equal, unless one of them is a text that spells the other. -/
theorem looseEq_iff_of_key {a b : Scalar} (ha : a.WellFormed) (hb : b.WellFormed) (same : a.key = b.key) :
    a.looseEq b = true ↔ ¬(Spells a b ∨ Spells b a) := by
  have apart : Spells a b ∨ Spells b a → a.looseEq b = false := by
    rintro (spells | spells)
    · exact (looseEq_of_spells spells).1
    · exact (looseEq_of_spells spells).2
  refine ⟨fun equal spells => Bool.noConfusion (equal.symm.trans (apart spells)), fun none => ?_⟩
  by_cases text : ∃ s, a = .text s
  · obtain ⟨s, rfl⟩ := text
    exact ((spells_or_looseEq hb same).resolve_left fun spells => none (.inl spells)).1
  · by_cases text' : ∃ s, b = .text s
    · obtain ⟨s, rfl⟩ := text'
      exact ((spells_or_looseEq ha same.symm).resolve_left fun spells => none (.inr spells)).2
    · exact looseEq_of_key ha hb (fun s eq => text ⟨s, eq⟩) (fun s eq => text' ⟨s, eq⟩) same

inductive OneKind : Scalar → Scalar → Prop
  | absent {a b : Scalar} (either : a.kind = .absent ∨ b.kind = .absent) : OneKind a b
  | bool (b c : Bool) : OneKind (.bool b) (.bool c)
  | text (s t : String) : OneKind (.text s) (.text t)
  | date (millis millis' : Int) : OneKind (.date millis) (.date millis')
  | number {x y : Double} (zeros : x.isZero = true → y.isZero = true → x.isNegative = y.isNegative) :
    OneKind (.number x) (.number y)

theorem key_of_absent {a : Scalar} (h : a.kind = .absent) : a.key = "null" := by
  cases a <;> first | rfl | cases h

theorem kind_of_looseEq_absent {a b : Scalar} (either : a.kind = .absent ∨ b.kind = .absent)
    (equal : a.looseEq b = true) : a.kind = .absent ∧ b.kind = .absent := by
  rcases either with left | right
  · cases a with
    | undefined | null =>
      cases b with
      | undefined | null => exact ⟨rfl, rfl⟩
      | _ => cases equal
    | _ => cases left
  · cases b with
    | undefined | null =>
      cases a with
      | undefined | null => exact ⟨rfl, rfl⟩
      | _ => cases equal
    | _ => cases right

theorem number?_bool (b : Bool) : (Scalar.bool b).number? = some (.ofInt (if b then 1 else 0)) := by
  cases b with
  | true =>
    rw [number?, if_pos rfl, if_pos rfl]
    unfold Double.one
    rfl
  | false => exact congrArg some Double.ofInt_zero.symm

theorem key_eq_of_looseEq {a b : Scalar} (ha : a.WellFormed) (hb : b.WellFormed) (kind : OneKind a b)
    (equal : a.looseEq b = true) : a.key = b.key := by
  cases kind with
  | absent either =>
    obtain ⟨left, right⟩ := kind_of_looseEq_absent either equal
    rw [key_of_absent left, key_of_absent right]
  | bool b c =>
    have same := Double.ofInt_numEq (by cases b <;> decide) (by cases c <;> decide)
      ((looseEq_of_numbers (number?_bool b) (number?_bool c) (by simp)).symm.trans equal)
    cases b <;> cases c <;> first | rfl | cases same
  | text s t => exact beq_iff_eq.1 equal
  | date millis millis' =>
    rw [Double.ofInt_numEq ha hb ((looseEq_of_numbers rfl rfl (by simp)).symm.trans equal)]
  | number zeros =>
    rw [Double.eq_of_numEq ((looseEq_of_numbers rfl rfl (by simp)).symm.trans equal) zeros]

theorem looseEq_iff_key_eq {a b : Scalar} (ha : a.WellFormed) (hb : b.WellFormed) (kind : OneKind a b)
    (unspelled : ¬(Spells a b ∨ Spells b a)) : a.looseEq b = true ↔ a.key = b.key :=
  ⟨key_eq_of_looseEq ha hb kind, fun same => (looseEq_iff_of_key ha hb same).2 unspelled⟩

end Scalar

section Rows

variable {α : Type} [Record α]

def GroupDescriptor.scalarOf (d : GroupDescriptor) (row : α) : Scalar := Scalar.of (Record.lookup row d.field) false

def GroupDescriptor.WellFormedOn (d : GroupDescriptor) (rows : List α) : Prop :=
  ∀ row ∈ rows, ∀ j ∈ Record.lookup row d.field, j.WellFormed

theorem GroupDescriptor.WellFormedOn.scalarOf {d : GroupDescriptor} {rows : List α} (h : d.WellFormedOn rows) {row : α}
    (listed : row ∈ rows) : (d.scalarOf row).WellFormed :=
  Scalar.wellFormed_of (h row listed)

theorem GroupDescriptor.wellFormedOn_of_rows {d : GroupDescriptor} {rows : List Json}
    (h : ∀ row ∈ rows, row.WellFormed) : d.WellFormedOn rows := fun row listed _ found => (h row listed).get? found

theorem GroupDescriptor.keyOf_eq (d : GroupDescriptor) (row : α) : d.keyOf row = (d.scalarOf row).key :=
  (Scalar.key_of _).symm

/-- Rows in one bucket have equal values, unless the value of one is a text that spells the value of the other. -/
theorem groupBy_looseEq_iff {rows : List α} {input : GroupInput} {d : GroupDescriptor}
    (first : input.normalize.head? = some d) (wellFormed : d.WellFormedOn rows) {b : Bucket α}
    (listed : b ∈ groupBy rows input) {row other : α} (held : row ∈ b.items) (held' : other ∈ b.items) :
    (d.scalarOf row).looseEq (d.scalarOf other) = true ↔
      ¬((d.scalarOf row).Spells (d.scalarOf other) ∨ (d.scalarOf other).Spells (d.scalarOf row)) := by
  obtain ⟨rest, parts⟩ := List.head?_eq_some_iff.1 first
  rw [groupBy, parts] at listed
  have share := perm_share_of_bucket listed
  obtain ⟨member, key⟩ := GroupDescriptor.mem_share.1 (share.mem_iff.1 held)
  obtain ⟨member', key'⟩ := GroupDescriptor.mem_share.1 (share.mem_iff.1 held')
  refine Scalar.looseEq_iff_of_key (wellFormed.scalarOf member) (wellFormed.scalarOf member') ?_
  rw [← d.keyOf_eq, ← d.keyOf_eq, key, key']

end Rows

def reading (value : Json) : Json := .obj [("v", value)]

def readings : List Json := [reading .null, .obj [], reading (.str "null")]

def byReading : GroupDescriptor := { GroupDescriptor.ofField ["v"] with skipItemSorting := true }

theorem groupBy_readings : groupBy readings (.one byReading) = [⟨"v", .null, readings⟩] := rfl

theorem wellFormedOn_readings : byReading.WellFormedOn readings := by
  have one (value : Json) (h : value.WellFormed) : (reading value).WellFormed :=
    ⟨List.pairwise_singleton _ _, h, trivial⟩
  refine GroupDescriptor.wellFormedOn_of_rows fun row listed => ?_
  simp only [readings, List.mem_cons, List.not_mem_nil, or_false] at listed
  rcases listed with rfl | rfl | rfl
  · exact one .null trivial
  · exact ⟨.nil, trivial⟩
  · exact one (.str "null") trivial

/-- A missing value is in the bucket of `null`, as it is equal to it. -/
theorem groupBy_looseEq_iff_readings : ∃ b ∈ groupBy readings (.one byReading),
    reading .null ∈ b.items ∧ .obj [] ∈ b.items ∧
    ((byReading.scalarOf (reading .null)).looseEq (byReading.scalarOf (Json.obj [])) = true ↔
      ¬((byReading.scalarOf (reading .null)).Spells (byReading.scalarOf (Json.obj [])) ∨
        (byReading.scalarOf (Json.obj [])).Spells (byReading.scalarOf (reading .null)))) := by
  have listed : ⟨"v", .null, readings⟩ ∈ groupBy readings (.one byReading) := by
    rw [groupBy_readings]
    exact .head _
  exact ⟨_, listed, .head _, .tail _ (.head _),
    groupBy_looseEq_iff rfl wellFormedOn_readings listed (.head _) (.tail _ (.head _))⟩

/-- The text of `null` is in it too, which is not equal to `null`. -/
theorem groupBy_conflates : ∃ b ∈ groupBy readings (.one byReading),
    reading .null ∈ b.items ∧ reading (.str "null") ∈ b.items ∧
      (byReading.scalarOf (reading .null)).looseEq (byReading.scalarOf (reading (.str "null"))) = false := by
  refine ⟨⟨"v", .null, readings⟩, ?_, .head _, .tail _ (.tail _ (.head _)), rfl⟩
  rw [groupBy_readings]
  exact .head _

end RecordSync
