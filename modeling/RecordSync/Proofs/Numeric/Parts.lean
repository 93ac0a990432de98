import RecordSync.Proofs.Numeric.Decimal

/-!
# The parts of a written number

Every layout writes whole digits, perhaps digits after a point and perhaps an exponent. The parts say how the readers
divide the text, and the number they make of it is the one that was written.
-/

set_option autoImplicit false

namespace RecordSync.Decimal

open Binary64 Shortest

theorem isDigit_digit {d : Nat} (h : d < 10) : isDigit (Char.ofNat ('0'.toNat + d)) = true := by
  revert d
  decide

theorem toNat_digit {d : Nat} (h : d < 10) : (Char.ofNat ('0'.toNat + d)).toNat - '0'.toNat = d := by
  revert d
  decide

theorem forall_isDigit {P : Char → Prop} (all : ∀ d < 10, P (Char.ofNat ('0'.toNat + d))) {c : Char}
    (h : isDigit c = true) : P c := by
  rw [isDigit, Bool.and_eq_true, decide_eq_true_eq, decide_eq_true_eq] at h
  have least : 48 ≤ c.toNat := h.1
  have most : c.toNat ≤ 57 := h.2
  have same : '0'.toNat + (c.toNat - 48) = c.toNat := by
    show 48 + (c.toNat - 48) = c.toNat
    omega
  have shown := all (c.toNat - 48) (by omega)
  rwa [same, Char.ofNat_toNat] at shown

def AllDigits (cs : List Char) : Prop := ∀ c ∈ cs, isDigit c = true

theorem AllDigits.append {as bs : List Char} (ha : AllDigits as) (hb : AllDigits bs) : AllDigits (as ++ bs) :=
  List.forall_mem_append.2 ⟨ha, hb⟩

theorem allDigits_zeros (n : Nat) : AllDigits (List.replicate n '0') := by
  intro c listed
  rw [List.eq_of_mem_replicate listed]
  decide

theorem allDigits_digitChars {digits : List Nat} (small : ∀ d ∈ digits, d < 10) : AllDigits (digitChars digits) := by
  intro c listed
  obtain ⟨d, member, rfl⟩ := List.mem_map.1 listed
  exact isDigit_digit (small d member)

theorem allDigits_toDigits (n : Nat) : AllDigits (Nat.toDigits 10 n) := by
  intro c listed
  have digit := Nat.isDigit_of_mem_toDigits (by decide) (by decide) listed
  rw [Char.isDigit, Bool.and_eq_true, decide_eq_true_eq, decide_eq_true_eq] at digit
  exact Bool.and_eq_true_iff.2 ⟨decide_eq_true digit.1, decide_eq_true digit.2⟩

theorem appendDigits_append (n : Nat) (as bs : List Char) :
    appendDigits n (as ++ bs) = appendDigits (appendDigits n as) bs := List.foldl_append

theorem appendDigits_digitChars {digits : List Nat} (small : ∀ d ∈ digits, d < 10) (n : Nat) :
    appendDigits n (digitChars digits) = digits.foldl (fun n d => 10 * n + d) n := by
  induction digits generalizing n with
  | nil => rfl
  | cons d digits ih =>
    have first : appendDigits n (digitChars (d :: digits)) = appendDigits (10 * n + d) (digitChars digits) := by
      rw [digitChars, List.map_cons, appendDigits, List.foldl_cons, toNat_digit (small d (.head _))]
      rfl
    rw [first, ih fun d listed => small d (.tail _ listed), List.foldl_cons]

theorem appendDigits_zeros (n zeros : Nat) : appendDigits n (List.replicate zeros '0') = n * pow10 zeros := by
  have same : List.replicate zeros '0' = digitChars (List.replicate zeros 0) := by
    rw [digitChars, List.map_replicate]
    rfl
  rw [same, appendDigits_digitChars, foldl_replicate_zero]
  intro d listed
  rw [List.eq_of_mem_replicate listed]
  decide

theorem appendDigits_toDigits (n : Nat) : appendDigits 0 (Nat.toDigits 10 n) = n :=
  Nat.ofDigitChars_toDigits (by decide) (by decide)

def Stops (rest : List Char) : Prop := ∀ c ∈ rest.head?, isDigit c = false

theorem takeDigits_append {digits rest : List Char} (all : AllDigits digits) (stops : Stops rest) :
    takeDigits (digits ++ rest) = (digits, rest) := by
  rw [takeDigits, List.takeWhile_append_of_pos all, List.dropWhile_append_of_pos all]
  cases rest with
  | nil => simp
  | cons c rest => simp [stops c rfl]

structure Parts where
  whole : List Char
  fraction : List Char
  exponent : Option (Bool × List Char)

namespace Parts

def fractionChars (p : Parts) : List Char := if p.fraction.isEmpty then [] else '.' :: p.fraction

def exponentChars (p : Parts) : List Char :=
  match p.exponent with
  | none => []
  | some (negative, digits) => 'e' :: (if negative then '-' else '+') :: digits

def chars (p : Parts) : List Char := p.whole ++ (p.fractionChars ++ p.exponentChars)

def number (p : Parts) : Nat := appendDigits (appendDigits 0 p.whole) p.fraction

def exponentValue (p : Parts) : Option Int :=
  p.exponent.map fun (negative, digits) =>
    if negative then -(appendDigits 0 digits : Int) else (appendDigits 0 digits : Int)

def power (p : Parts) : Int := p.exponentValue.getD 0 - p.fraction.length

structure Valid (p : Parts) : Prop where
  nonempty : p.whole ≠ []
  whole : AllDigits p.whole
  fraction : AllDigits p.fraction
  exponent : ∀ negative digits, p.exponent = some (negative, digits) → digits ≠ [] ∧ AllDigits digits
  noLeadingZero : 1 < p.whole.length → p.whole.head? ≠ some '0'

def IsFractional (p : Parts) : Prop := p.fraction ≠ [] ∨ p.exponent ≠ none

end Parts

theorem readExponent?_parts {p : Parts} (valid : p.Valid) :
    readExponent? p.exponentChars = some (p.exponentValue.getD 0) := by
  unfold Parts.exponentChars Parts.exponentValue
  cases written : p.exponent with
  | none => rfl
  | some exponent =>
    obtain ⟨negative, digits⟩ := exponent
    obtain ⟨nonempty, all⟩ := valid.exponent negative digits written
    have taken : takeDigits digits = (digits, []) := by
      simpa using takeDigits_append all (show Stops [] by simp [Stops])
    cases negative <;> simp [readExponent?, takeSign, taken, nonempty]

theorem exponentChars_head (p : Parts) : ∀ c ∈ p.exponentChars.head?, c = 'e' := by
  unfold Parts.exponentChars
  split <;> simp

theorem stops_exponentChars (p : Parts) : Stops p.exponentChars := by
  intro c listed
  rw [exponentChars_head p c listed]
  decide

theorem fractionChars_nil {p : Parts} (h : p.fraction = []) : p.fractionChars = [] := by
  simp [Parts.fractionChars, h]

theorem fractionChars_cons {p : Parts} (h : p.fraction ≠ []) : p.fractionChars = '.' :: p.fraction := by
  simp [Parts.fractionChars, h]

theorem stops_fractionChars (p : Parts) : Stops (p.fractionChars ++ p.exponentChars) := by
  by_cases none : p.fraction = []
  · rw [fractionChars_nil none]
    exact stops_exponentChars p
  · rw [fractionChars_cons none]
    intro c listed
    cases listed
    decide

theorem readUnsigned?_parts {p : Parts} (valid : p.Valid) (negative : Bool) :
    readUnsigned? negative p.chars = some (Double.ofDecimal negative p.number p.power) := by
  have whole := takeDigits_append valid.whole (stops_fractionChars p)
  have fraction := takeDigits_append valid.fraction (stops_exponentChars p)
  rw [readUnsigned?, Parts.chars, whole]
  dsimp only
  by_cases none : p.fraction = []
  · rw [fractionChars_nil none, List.nil_append]
    split
    · next written => exact absurd (exponentChars_head p '.' (by rw [written]; rfl)) (by decide)
    · simp [valid.nonempty, readExponent?_parts valid, Parts.number, Parts.power, none, appendDigits]
  · rw [fractionChars_cons none, List.cons_append]
    simp [fraction, valid.nonempty, readExponent?_parts valid, Parts.number, Parts.power]

structure Parts.Write (p : Parts) (units : Nat) : Prop where
  valid : p.Valid
  denotes : Denotes units p.number p.power

section Texts

variable {units : Nat} {d : Digits}

theorem digitChars_ne_nil (h : DigitsOf units d) : digitChars d.digits ≠ [] := by
  intro none
  refine h.denotes.ne_zero ?_
  rw [List.map_eq_nil_iff.1 none]
  rfl

theorem head?_digitChars (h : DigitsOf units d) : (digitChars d.digits).head? ≠ some '0' := by
  have small := h.small
  have leading := h.leading
  cases written : d.digits with
  | nil => simp [digitChars]
  | cons first rest =>
    rw [written] at small leading
    intro zero
    refine leading ?_
    rw [digitChars, List.map_cons, List.head?_cons, Option.some_inj] at zero
    rw [List.head?_cons, ← toNat_digit (small first (.head _)), zero]
    rfl

theorem appendDigits_digits (h : DigitsOf units d) : appendDigits 0 (digitChars d.digits) = value d.digits :=
  appendDigits_digitChars h.small 0

theorem write_below (h : DigitsOf units d) (below : d.point ≤ 0) :
    Parts.Write ⟨['0'], List.replicate (-d.point).toNat '0' ++ digitChars d.digits, none⟩ units where
  valid := {
    nonempty := List.cons_ne_nil _ _
    whole := by simp [AllDigits, isDigit]
    fraction := (allDigits_zeros _).append (allDigits_digitChars h.small)
    exponent := by simp
    noLeadingZero := by simp }
  denotes := by
    have number : Parts.number ⟨['0'], List.replicate (-d.point).toNat '0' ++ digitChars d.digits, none⟩ =
        value d.digits := by
      rw [Parts.number, appendDigits_append, appendDigits_zeros, show appendDigits 0 ['0'] = 0 from rfl, Nat.zero_mul,
        appendDigits_digits h]
    have power : Parts.power ⟨['0'], List.replicate (-d.point).toNat '0' ++ digitChars d.digits, none⟩ =
        d.point - d.digits.length := by
      simp [Parts.power, Parts.exponentValue, digitChars]
      omega
    rw [number, power]
    exact h.denotes

/-- Whole numbers: zeros fill the gap to the point, and there may be a zero behind it. -/
theorem write_whole (h : DigitsOf units d) {gap : Nat} (gapEq : d.digits.length + gap = d.point) {tail : List Char}
    (kind : tail = [] ∨ tail = ['0']) :
    Parts.Write ⟨digitChars d.digits ++ List.replicate gap '0', tail, none⟩ units where
  valid := {
    nonempty := List.append_ne_nil_of_left_ne_nil (digitChars_ne_nil h) _
    whole := (allDigits_digitChars h.small).append (allDigits_zeros _)
    fraction := by rcases kind with rfl | rfl <;> simp [AllDigits, isDigit]
    exponent := by simp
    noLeadingZero := by
      intro _
      have leading := head?_digitChars h
      obtain ⟨first, rest, written⟩ := List.exists_cons_of_ne_nil (digitChars_ne_nil h)
      rw [written] at leading ⊢
      exact leading }
  denotes := by
    have number : Parts.number ⟨digitChars d.digits ++ List.replicate gap '0', tail, none⟩ =
        value d.digits * pow10 (gap + tail.length) := by
      rw [Parts.number, appendDigits_append, appendDigits_zeros, appendDigits_digits h]
      rcases kind with rfl | rfl
      · rfl
      · rw [show ['0'] = List.replicate 1 '0' from rfl, appendDigits_zeros, Nat.mul_assoc, ← pow10_add,
          List.length_replicate]
    have power : Parts.power ⟨digitChars d.digits ++ List.replicate gap '0', tail, none⟩ + (gap + tail.length : Nat) =
        d.point - d.digits.length := by
      simp [Parts.power, Parts.exponentValue]
      omega
    rw [number, denotes_shift, power]
    exact h.denotes

theorem write_between (h : DigitsOf units d) {whole : Nat} (pos : 0 < whole) (pointEq : (whole : Int) = d.point)
    (short : whole < d.digits.length) :
    Parts.Write ⟨(digitChars d.digits).take whole, (digitChars d.digits).drop whole, none⟩ units where
  valid := {
    nonempty := by simp [digitChars_ne_nil h, Nat.ne_of_gt pos]
    whole := fun c listed => allDigits_digitChars h.small c (List.mem_of_mem_take listed)
    fraction := fun c listed => allDigits_digitChars h.small c (List.mem_of_mem_drop listed)
    exponent := by simp
    noLeadingZero := by
      intro _
      rw [List.head?_take, if_neg (Nat.ne_of_gt pos)]
      exact head?_digitChars h }
  denotes := by
    have number : Parts.number ⟨(digitChars d.digits).take whole, (digitChars d.digits).drop whole, none⟩ =
        value d.digits := by
      rw [Parts.number, ← appendDigits_append, List.take_append_drop, appendDigits_digits h]
    have power : Parts.power ⟨(digitChars d.digits).take whole, (digitChars d.digits).drop whole, none⟩ =
        d.point - d.digits.length := by
      simp [Parts.power, Parts.exponentValue, digitChars]
      omega
    rw [number, power]
    exact h.denotes

theorem write_scientific (h : DigitsOf units d) {first : Char} {rest : List Char}
    (written : digitChars d.digits = first :: rest) :
    Parts.Write ⟨[first], rest, some (decide (d.point - 1 < 0), Nat.toDigits 10 (d.point - 1).natAbs)⟩ units where
  valid := {
    nonempty := List.cons_ne_nil _ _
    whole := fun c listed => allDigits_digitChars h.small c (by rw [written]; simp_all)
    fraction := fun c listed => allDigits_digitChars h.small c (by rw [written]; exact .tail _ listed)
    exponent := by
      rintro _ _ ⟨⟩
      exact ⟨List.ne_nil_of_length_pos Nat.length_toDigits_pos, allDigits_toDigits _⟩
    noLeadingZero := by simp }
  denotes := by
    have number : Parts.number ⟨[first], rest, some (decide (d.point - 1 < 0), Nat.toDigits 10 (d.point - 1).natAbs)⟩ =
        value d.digits := by
      rw [Parts.number, ← appendDigits_append, List.singleton_append, ← written, appendDigits_digits h]
    have count : d.digits.length = rest.length + 1 := by
      have := congrArg List.length written
      simpa [digitChars] using this
    have power : Parts.power ⟨[first], rest, some (decide (d.point - 1 < 0), Nat.toDigits 10 (d.point - 1).natAbs)⟩ =
        d.point - d.digits.length := by
      simp only [Parts.power, Parts.exponentValue, Option.map_some, Option.getD_some, appendDigits_toDigits, count,
        decide_eq_true_eq]
      split <;> omega
    rw [number, power]
    exact h.denotes

theorem exists_parts_positional (h : DigitsOf units d) {tail : String} (kind : tail = "" ∨ tail = ".0") :
    ∃ p : Parts, (positional tail d).toList = p.chars ∧ p.Write units ∧ (tail = ".0" → p.IsFractional) := by
  have nonempty := digitChars_ne_nil h
  have count : (digitChars d.digits).length = d.digits.length := List.length_map _
  unfold positional
  dsimp only
  split
  · next below =>
    refine ⟨_, ?_, write_below h below, fun _ => .inl ?_⟩
    · simp [Parts.chars, Parts.fractionChars, Parts.exponentChars, nonempty, String.toList_append]
    · simp [nonempty]
  · next above =>
    split
    · next short =>
      have gap : (d.digits.length : Int) + (d.point.toNat - (digitChars d.digits).length : Nat) = d.point := by omega
      rcases kind with rfl | rfl
      · exact ⟨_, by simp [Parts.chars, Parts.fractionChars, Parts.exponentChars], write_whole h gap (.inl rfl),
          fun tail => absurd tail (by decide)⟩
      · exact ⟨_, by simp [Parts.chars, Parts.fractionChars, Parts.exponentChars], write_whole h gap (.inr rfl),
          fun _ => .inl (by simp)⟩
    · next long =>
      have rest : (digitChars d.digits).drop d.point.toNat ≠ [] := by
        simp only [ne_eq, List.drop_eq_nil_iff]
        omega
      refine ⟨_, ?_, write_between h (show 0 < d.point.toNat by omega) (by omega) (by omega), fun _ => .inl rest⟩
      simp [Parts.chars, Parts.fractionChars, Parts.exponentChars, rest, String.toList_append]

theorem exists_parts_scientific (h : DigitsOf units d) :
    ∃ p : Parts, (scientific d).toList = p.chars ∧ p.Write units ∧ p.IsFractional := by
  obtain ⟨first, rest, written⟩ := List.exists_cons_of_ne_nil (digitChars_ne_nil h)
  refine ⟨_, ?_, write_scientific h written, .inr (by simp)⟩
  unfold scientific
  dsimp only
  rw [written]
  cases rest <;> by_cases negative : d.point - 1 < 0 <;>
    simp [Parts.chars, Parts.fractionChars, Parts.exponentChars, negative, Nat.repr]

end Texts

def Layout.Proper (layout : Layout) : Prop := layout.wholeTail = "" ∨ layout.wholeTail = ".0"

theorem proper_plainLayout : plainLayout.Proper := .inl rfl

theorem proper_dataLayout : dataLayout.Proper := .inr rfl

theorem ofDecimal_zero (negative : Bool) (exponent : Int) :
    Double.ofDecimal negative 0 exponent = .finite ⟨negative, 0⟩ := by
  rw [Double.ofDecimal, if_pos (.inl rfl)]

theorem valid_zero {tail : List Char} (kind : tail = [] ∨ tail = ['0']) : Parts.Valid ⟨['0'], tail, none⟩ where
  nonempty := List.cons_ne_nil _ _
  whole := by simp [AllDigits, isDigit]
  fraction := by rcases kind with rfl | rfl <;> simp [AllDigits, isDigit]
  exponent := by simp
  noLeadingZero := by simp

theorem exists_parts_render {layout : Layout} (proper : layout.Proper) {x : FiniteDouble} (rep : Representable x.units) :
    ∃ p : Parts, (layout.render x).toList = (if x.negative then ['-'] else []) ++ p.chars ∧ p.Valid ∧
      Double.ofDecimal x.negative p.number p.power = .finite x ∧ (layout.wholeTail = ".0" → p.IsFractional) := by
  obtain ⟨negative, units⟩ := x
  have signed (body : String) : ((if negative then "-" else "") ++ body).toList =
      (if negative then ['-'] else []) ++ body.toList := by
    cases negative <;> simp [String.toList_append]
  unfold Layout.render
  dsimp only
  by_cases zero : units = 0
  · subst zero
    have isZero : (⟨negative, 0⟩ : FiniteDouble).isZero = true := rfl
    rw [if_pos isZero, String.append_assoc, signed]
    rcases proper with tail | tail <;> rw [tail]
    · exact ⟨⟨['0'], [], none⟩, rfl, valid_zero (.inl rfl), ofDecimal_zero negative _,
        fun tail => absurd tail (by decide)⟩
    · exact ⟨⟨['0'], ['0'], none⟩, rfl, valid_zero (.inr rfl), ofDecimal_zero negative _,
        fun _ => .inl (List.cons_ne_nil _ _)⟩
  · have pos : 0 < units := Nat.pos_of_ne_zero zero
    have found : DigitsOf units (digits units) := digits_of rep pos
    rw [if_neg (by simpa [FiniteDouble.isZero] using zero), signed]
    by_cases place : layout.positionalPoint (digits units).point = true
    · obtain ⟨p, chars, write, fractional⟩ := exists_parts_positional found proper
      rw [if_pos place, chars]
      exact ⟨p, rfl, write.valid, write.denotes.ofDecimal rep pos negative, fractional⟩
    · obtain ⟨p, chars, write, fractional⟩ := exists_parts_scientific found
      rw [if_neg place, chars]
      exact ⟨p, rfl, write.valid, write.denotes.ofDecimal rep pos negative, fun _ => fractional⟩

theorem valid_toDigits (n : Nat) : Parts.Valid ⟨Nat.toDigits 10 n, [], none⟩ where
  nonempty := List.ne_nil_of_length_pos Nat.length_toDigits_pos
  whole := allDigits_toDigits n
  fraction := by simp [AllDigits]
  exponent := by simp
  noLeadingZero := by
    intro several zero
    have pos : 0 < n := by
      apply Nat.pos_of_ne_zero
      rintro rfl
      exact absurd several (by decide)
    refine head?_toDigits pos ?_
    rw [List.head?_map, zero]
    rfl

theorem takeSign_digits (negative : Bool) {first : Char} (rest : List Char) (digit : isDigit first = true) :
    takeSign ((if negative then ['-'] else []) ++ first :: rest) = (negative, first :: rest) := by
  have other : first ≠ '-' ∧ first ≠ '+' := forall_isDigit (P := fun c => c ≠ '-' ∧ c ≠ '+') (by decide) digit
  cases negative
  · simp [takeSign, other]
  · rfl

theorem toList_toString (n : Int) : (toString n).toList =
    (if decide (n < 0) = true then ['-'] else []) ++ Parts.chars ⟨Nat.toDigits 10 n.natAbs, [], none⟩ := by
  rw [Int.toString_eq_repr, Int.repr_eq_if]
  by_cases negative : n < 0
  · have abs : (-n).toNat = n.natAbs := by omega
    simp [negative, Int.not_le.2 negative, abs, Nat.repr, Parts.chars, Parts.fractionChars, Parts.exponentChars]
  · have abs : n.toNat = n.natAbs := by omega
    simp [negative, Int.not_lt.1 negative, abs, Nat.repr, Parts.chars, Parts.fractionChars, Parts.exponentChars]

theorem takeSign_toString (n : Int) : takeSign (toString n).toList = (decide (n < 0), Nat.toDigits 10 n.natAbs) := by
  have chars : Parts.chars ⟨Nat.toDigits 10 n.natAbs, [], none⟩ = Nat.toDigits 10 n.natAbs := by
    simp [Parts.chars, Parts.fractionChars, Parts.exponentChars]
  have all := allDigits_toDigits n.natAbs
  rw [toList_toString, chars]
  cases digits : Nat.toDigits 10 n.natAbs with
  | nil => exact absurd digits (valid_toDigits n.natAbs).nonempty
  | cons first rest => exact takeSign_digits _ rest (all first (by rw [digits]; exact .head _))

theorem toString_injective {a b : Int} (same : toString a = toString b) : a = b := by
  have parts := takeSign_toString a
  rw [same, takeSign_toString b, Prod.mk.injEq, decide_eq_decide] at parts
  have abs := congrArg (appendDigits 0) parts.2
  rw [appendDigits_toDigits, appendDigits_toDigits] at abs
  have sign := parts.1
  omega

theorem natText_injective {a b : Nat} (same : toString a = toString b) : a = b := by
  have digits : Nat.toDigits 10 a = Nat.toDigits 10 b := String.ofList_injective same
  rw [← appendDigits_toDigits a, digits, appendDigits_toDigits]

end RecordSync.Decimal
