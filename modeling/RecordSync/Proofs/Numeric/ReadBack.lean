import RecordSync.Proofs.Numeric.Parts
import RecordSync.Text

/-!
# Reading written doubles

Every text that a layout writes is read as the double that was written. The texts have no blanks, so a reader that trims
them first reads the same.
-/

set_option autoImplicit false

namespace RecordSync.Decimal

open Binary64

theorem readDouble?_of_sign {text : String} {negative : Bool} {first : Char} {rest : List Char}
    (sign : takeSign text.toList = (negative, first :: rest)) (noWord : first.toLower ≠ 'i' ∧ first.toLower ≠ 'n') :
    readDouble? text = readUnsigned? negative (first :: rest) := by
  have other (word : String) (begins : word.toList.head? = some 'i' ∨ word.toList.head? = some 'n') :
      String.ofList ((first :: rest).map Char.toLower) ≠ word := by
    rintro rfl
    rw [String.toList_ofList, List.map_cons, List.head?_cons, Option.some_inj, Option.some_inj] at begins
    exact begins.elim noWord.1 noWord.2
  rw [readDouble?, sign]
  dsimp only
  split
  · next word => exact absurd word (other _ (.inl (by decide)))
  · next word => exact absurd word (other _ (.inl (by decide)))
  · next word => exact absurd word (other _ (.inr (by decide)))
  · rfl

theorem readDouble?_digits {text : String} {negative : Bool} {first : Char} {rest : List Char}
    (chars : text.toList = (if negative then ['-'] else []) ++ first :: rest) (digit : isDigit first = true) :
    readDouble? text = readUnsigned? negative (first :: rest) :=
  readDouble?_of_sign (chars ▸ takeSign_digits negative rest digit)
    (forall_isDigit (P := fun c => c.toLower ≠ 'i' ∧ c.toLower ≠ 'n') (by decide) digit)

theorem Parts.Valid.exists_first {p : Parts} (valid : p.Valid) :
    ∃ first rest, p.chars = first :: rest ∧ isDigit first = true := by
  obtain ⟨first, rest, whole⟩ := List.exists_cons_of_ne_nil valid.nonempty
  exact ⟨first, rest ++ (p.fractionChars ++ p.exponentChars), by rw [Parts.chars, whole]; rfl,
    valid.whole first (by rw [whole]; exact .head _)⟩

theorem readDouble?_parts {text : String} {negative : Bool} {p : Parts} (valid : p.Valid)
    (chars : text.toList = (if negative then ['-'] else []) ++ p.chars) :
    readDouble? text = some (Double.ofDecimal negative p.number p.power) := by
  obtain ⟨first, rest, begins, digit⟩ := valid.exists_first
  rw [readDouble?_digits (begins ▸ chars) digit, ← begins, readUnsigned?_parts valid]

theorem readDouble?_render {layout : Layout} (proper : layout.Proper) {x : FiniteDouble}
    (rep : Representable x.units) : readDouble? (layout.render x) = some (.finite x) := by
  obtain ⟨p, chars, valid, made, -⟩ := exists_parts_render proper rep
  rw [readDouble?_parts valid chars, made]

/-- A text that begins with the letter of a date key is not a number. -/
theorem readDouble?_letter {text : String} {rest : List Char} (chars : text.toList = 'd' :: rest) :
    readDouble? text = none := by
  have sign : takeSign text.toList = (false, 'd' :: rest) := by rw [chars]; rfl
  rw [readDouble?_of_sign sign (by decide)]
  rfl

theorem readDouble?_plainText {x : Double} (rep : x.Representable) : readDouble? (plainText x) = some x := by
  cases x with
  | finite x => exact readDouble?_render (.inl rfl) rep
  | infinite negative => cases negative <;> decide
  | nan => decide

def IsNumeric (c : Char) : Prop := isDigit c = true ∨ c = '-' ∨ c = '+' ∨ c = '.' ∨ c = 'e'

theorem AllDigits.isNumeric {cs : List Char} (h : AllDigits cs) : ∀ c ∈ cs, IsNumeric c :=
  fun c listed => .inl (h c listed)

theorem Parts.Valid.isNumeric {p : Parts} (valid : p.Valid) : ∀ c ∈ p.chars, IsNumeric c := by
  have fraction : ∀ c ∈ p.fractionChars, IsNumeric c := by
    unfold Parts.fractionChars
    split
    · simp
    · exact List.forall_mem_cons.2 ⟨by simp [IsNumeric], valid.fraction.isNumeric⟩
  have exponent : ∀ c ∈ p.exponentChars, IsNumeric c := by
    unfold Parts.exponentChars
    split
    · simp
    · next negative digits written =>
      refine List.forall_mem_cons.2 ⟨by simp [IsNumeric], List.forall_mem_cons.2 ⟨?_, ?_⟩⟩
      · cases negative <;> simp [IsNumeric]
      · exact AllDigits.isNumeric (valid.exponent negative digits written).2
  exact List.forall_mem_append.2 ⟨valid.whole.isNumeric, List.forall_mem_append.2 ⟨fraction, exponent⟩⟩

theorem IsNumeric.not_isBlank {c : Char} (h : IsNumeric c) : Unicode.isBlank c = false := by
  rcases h with digit | rfl | rfl | rfl | rfl
  · exact forall_isDigit (P := fun c => Unicode.isBlank c = false) (by decide) digit
  all_goals decide

end RecordSync.Decimal

namespace RecordSync

theorem Unicode.trim_eq_self {s : String} (h : ∀ c ∈ s.toList, Unicode.isBlank c = false) : Unicode.trim s = s := by
  have kept (cs : List Char) (none : ∀ c ∈ cs, Unicode.isBlank c = false) : cs.dropWhile Unicode.isBlank = cs := by
    cases cs with
    | nil => rfl
    | cons c cs => rw [List.dropWhile_cons, none c (.head _)]; rfl
  unfold Unicode.trim
  rw [kept _ h, kept _ fun c listed => h c (List.mem_reverse.1 listed), List.reverse_reverse, String.ofList_toList]

/-- The parts of a number have no blanks between them or around them. -/
theorem Decimal.Parts.Valid.trim {p : Parts} (valid : p.Valid) {text : String} {negative : Bool}
    (chars : text.toList = (if negative then ['-'] else []) ++ p.chars) : Unicode.trim text = text := by
  refine Unicode.trim_eq_self fun c listed => ?_
  rw [chars] at listed
  rcases List.mem_append.1 listed with sign | member
  · cases negative <;> simp at sign
    subst sign
    decide
  · exact (valid.isNumeric c member).not_isBlank

/-- The text of a double is nothing but the double, so blanks around it do not matter. -/
theorem Decimal.trim_plainText {x : Double} (rep : x.Representable) :
    Unicode.trim (Decimal.plainText x) = Decimal.plainText x := by
  cases x with
  | finite x =>
    obtain ⟨p, chars, valid, -⟩ := Decimal.exists_parts_render Decimal.proper_plainLayout rep
    exact valid.trim chars
  | infinite negative => cases negative <;> decide
  | nan => decide

end RecordSync
