import RecordSync.Json.Printer
import RecordSync.Proofs.Json.WellFormed
import RecordSync.Proofs.Numeric.ReadBack

/-!
# Reading written values

The text of a value is read as this value again, so different values have different texts. Each step of the reader takes
at least one character, and the length of the text is fuel enough.
-/

set_option autoImplicit false

namespace RecordSync

namespace Json

namespace Reader

open Decimal

theorem hexValue?_hexDigit : ∀ n < 16, Unicode.hexValue? (hexDigit n) = some n := by decide

theorem readChars?_escapeChar (fuel : Nat) (done : List Char) (c : Char) (rest : List Char) :
    readChars? (fuel + 1) done (escapeChar c ++ rest) = readChars? fuel (c :: done) rest := by
  unfold escapeChar
  split
  iterate 7 rfl
  next notQuote notBackslash _ _ _ _ _ =>
  split
  · next small =>
    have zero : Unicode.hexValue? '0' = some 0 := by decide
    have high := hexValue?_hexDigit (c.toNat / 16) (by omega)
    have low := hexValue?_hexDigit (c.toNat % 16) (by omega)
    have number : ((0 * 16 + 0) * 16 + c.toNat / 16) * 16 + c.toNat % 16 = c.toNat := by omega
    have unit : readUnit? ('0' :: '0' :: hexDigit (c.toNat / 16) :: hexDigit (c.toNat % 16) :: rest) =
        some (c.toNat, rest) := by
      simp only [readUnit?, zero, high, low, Option.bind_eq_bind, Option.bind_some, number]
    have escape : readEscape? ('u' :: '0' :: '0' :: hexDigit (c.toNat / 16) :: hexDigit (c.toNat % 16) :: rest) =
        some (c, rest) := by
      simp only [readEscape?, unit, Option.bind_eq_bind, Option.bind_some]
      rw [if_neg (by omega), if_neg (by omega), Char.ofNat_toNat]
    simp only [List.cons_append, List.nil_append, readChars?, escape, Option.bind_eq_bind, Option.bind_some]
  · next large =>
    rw [List.singleton_append]
    conv => lhs; unfold readChars?
    split
    · next written => exact absurd (List.cons.inj written).1 notQuote
    · next written => exact absurd (List.cons.inj written).1 notBackslash
    · next written =>
      cases written
      rw [if_neg large]
    · next written => cases written

theorem readChars?_quoted (cs done : List Char) (rest : List Char) {fuel : Nat} (enough : cs.length < fuel) :
    readChars? fuel done (cs.flatMap escapeChar ++ '"' :: rest) = some (String.ofList (done.reverse ++ cs), rest) := by
  induction cs generalizing fuel done with
  | nil =>
    obtain ⟨fuel, rfl⟩ := Nat.exists_eq_add_one_of_ne_zero (Nat.ne_of_gt enough)
    simp [readChars?]
  | cons c cs ih =>
    obtain ⟨fuel, rfl⟩ := Nat.exists_eq_add_one_of_ne_zero (Nat.ne_of_gt (Nat.lt_of_le_of_lt (Nat.zero_le _) enough))
    rw [List.flatMap_cons, List.append_assoc, readChars?_escapeChar, ih _ (by simpa using enough)]
    simp

theorem length_le_escaped (cs : List Char) : cs.length ≤ (cs.flatMap escapeChar).length := by
  induction cs with
  | nil => simp
  | cons c cs ih =>
    have : 1 ≤ (escapeChar c).length := by
      unfold escapeChar
      split <;> (try split) <;> simp
    rw [List.flatMap_cons, List.length_append, List.length_cons]
    omega

theorem readChars?_quote (s : String) (rest : List Char) :
    readChars? ((s.toList.flatMap escapeChar ++ '"' :: rest).length + 1) [] (s.toList.flatMap escapeChar ++ '"' :: rest) =
      some (s, rest) := by
  rw [readChars?_quoted]
  · simp
  · have := length_le_escaped s.toList
    simp only [List.length_append, List.length_cons]
    omega

def Follows (rest : List Char) : Prop := ∀ c ∈ rest.head?, c = ',' ∨ c = ']' ∨ c = '\x7d'

theorem Follows.stops {rest : List Char} (h : Follows rest) : Stops rest := by
  intro c first
  rcases h c first with rfl | rfl | rfl <;> decide

theorem head_exponent (p : Parts) {rest : List Char} (follows : Follows rest) :
    ∀ c ∈ (p.exponentChars ++ rest).head?, c = 'e' ∨ c = ',' ∨ c = ']' ∨ c = '\x7d' := by
  unfold Parts.exponentChars
  split
  · exact fun c first => .inr (follows c first)
  · intro c first
    cases first
    exact .inl rfl

theorem stops_exponent (p : Parts) {rest : List Char} (follows : Follows rest) : Stops (p.exponentChars ++ rest) := by
  intro c first
  rcases head_exponent p follows c first with rfl | rfl | rfl | rfl <;> decide

theorem stops_fraction (p : Parts) {rest : List Char} (follows : Follows rest) :
    Stops (p.fractionChars ++ (p.exponentChars ++ rest)) := by
  by_cases none : p.fraction = []
  · rw [fractionChars_nil none]
    exact stops_exponent p follows
  · rw [fractionChars_cons none]
    intro c first
    cases first
    decide

theorem takeMinus_parts {p : Parts} (valid : p.Valid) (negative : Bool) (rest : List Char) :
    takeMinus ((if negative then ['-'] else []) ++ (p.chars ++ rest)) = (negative, p.chars ++ rest) := by
  obtain ⟨first, others, begins, digit⟩ := valid.exists_first
  have unsigned : first ≠ '-' := forall_isDigit (P := fun c => c ≠ '-') (by decide) digit
  rw [begins]
  cases negative
  · simp [takeMinus, unsigned]
  · rfl

theorem readFraction?_parts {p : Parts} (valid : p.Valid) {rest : List Char} (follows : Follows rest) :
    readFraction? (p.fractionChars ++ (p.exponentChars ++ rest)) = some (p.fraction, p.exponentChars ++ rest) := by
  have taken := takeDigits_append valid.fraction (stops_exponent p follows)
  by_cases none : p.fraction = []
  · rw [fractionChars_nil none, none, List.nil_append]
    unfold readFraction?
    split
    · next written =>
      have first := head_exponent p follows '.' (by rw [written]; rfl)
      exact absurd first (by decide)
    · rfl
  · rw [fractionChars_cons none, List.cons_append]
    simp [readFraction?, taken, none]

theorem readExponent?_parts {p : Parts} (valid : p.Valid) {rest : List Char} (follows : Follows rest) :
    readExponent? (p.exponentChars ++ rest) = some (p.exponentValue, rest) := by
  unfold Parts.exponentChars Parts.exponentValue
  cases written : p.exponent with
  | none =>
    cases rest with
    | nil => rfl
    | cons c rest =>
      have other : ¬(c = 'e' ∨ c = 'E') := by
        rcases follows c rfl with rfl | rfl | rfl <;> decide
      simp [readExponent?, other]
  | some exponent =>
    obtain ⟨negative, digits⟩ := exponent
    obtain ⟨nonempty, all⟩ := valid.exponent negative digits written
    have taken := takeDigits_append all follows.stops
    cases negative <;> simp [readExponent?, takeSign, taken, nonempty]

theorem readNumber?_parts {p : Parts} (valid : p.Valid) (negative : Bool) {rest : List Char} (follows : Follows rest) :
    readNumber? ((if negative then ['-'] else []) ++ (p.chars ++ rest)) =
      (makeNumber negative p.whole p.fraction p.exponentValue).map fun number => (number, rest) := by
  have whole := takeDigits_append valid.whole (stops_fraction p follows)
  have leading : (decide (p.whole.length > 1) && p.whole.head? == some '0') = false := by
    simpa using valid.noLeadingZero
  rw [readNumber?, takeMinus_parts valid]
  dsimp only
  rw [Parts.chars, List.append_assoc, List.append_assoc, whole]
  dsimp only
  rw [if_neg (by simp [leading, valid.nonempty]), readFraction?_parts valid follows]
  simp only [Option.bind_eq_bind, Option.bind_some, readExponent?_parts valid follows]
  cases makeNumber negative p.whole p.fraction p.exponentValue <;> rfl

theorem makeNumber_double {p : Parts} {x : FiniteDouble} (fractional : p.IsFractional)
    (made : Double.ofDecimal x.negative p.number p.power = .finite x) :
    makeNumber x.negative p.whole p.fraction p.exponentValue = some (.num (.double x)) := by
  have notInteger : (p.fraction.isEmpty && p.exponentValue.isNone && !(x.negative && p.number == 0)) = false := by
    rcases fractional with digits | exponent
    · simp [digits]
    · simp [Parts.exponentValue, exponent]
  rw [Parts.number] at notInteger
  rw [Parts.number, Parts.power] at made
  simp only [makeNumber, notInteger, made]
  rfl

theorem makeNumber_int {n : Int} (fits : (fitsSigned64 n || fitsUnsigned64 n) = true) :
    makeNumber (decide (n < 0)) (Nat.toDigits 10 n.natAbs) [] none = some (.num (.int n)) := by
  have number : appendDigits (appendDigits 0 (Nat.toDigits 10 n.natAbs)) [] = n.natAbs := appendDigits_toDigits _
  have integer :
      (([] : List Char).isEmpty && (none : Option Int).isNone && !(decide (n < 0) && n.natAbs == 0)) = true := by
    simp
    omega
  have value : (if decide (n < 0) = true then -(n.natAbs : Int) else (n.natAbs : Int)) = n := by
    simp only [decide_eq_true_eq]
    split <;> omega
  simp only [makeNumber, number, integer, value, fits]
  rfl

theorem readNumber?_text {n : Number} (wellFormed : WellFormed (.num n)) {rest : List Char} (follows : Follows rest) :
    readNumber? (n.text.toList ++ rest) = some (.num n, rest) := by
  cases n with
  | int n =>
    have read := readNumber?_parts (valid_toDigits n.natAbs) (decide (n < 0)) follows
    rw [Number.text, toList_toString, List.append_assoc, read]
    rw [show Parts.exponentValue ⟨Nat.toDigits 10 n.natAbs, [], none⟩ = none from rfl, makeNumber_int wellFormed]
    rfl
  | double x =>
    obtain ⟨p, chars, valid, made, fractional⟩ := exists_parts_render proper_dataLayout wellFormed
    rw [Number.text, chars, List.append_assoc, readNumber?_parts valid _ follows,
      makeNumber_double (fractional rfl) made]
    rfl

theorem exists_first_text {n : Number} (wellFormed : WellFormed (.num n)) :
    ∃ first rest, n.text.toList = first :: rest ∧ (first = '-' ∨ isDigit first = true) := by
  have signed {negative : Bool} {p : Parts} (valid : p.Valid) :
      ∃ first rest, (if negative then ['-'] else []) ++ p.chars = first :: rest ∧ (first = '-' ∨ isDigit first = true) := by
    obtain ⟨first, rest, begins, digit⟩ := valid.exists_first
    cases negative
    · exact ⟨first, rest, begins, .inr digit⟩
    · exact ⟨'-', p.chars, rfl, .inl rfl⟩
  cases n with
  | int n =>
    rw [Number.text, toList_toString]
    exact signed (valid_toDigits _)
  | double x =>
    obtain ⟨p, chars, valid, -⟩ := exists_parts_render proper_dataLayout wellFormed
    rw [Number.text, chars]
    exact signed valid

def spell (pieces : List String) : List Char := pieces.flatMap String.toList

theorem spell_cons (piece : String) (rest : List String) : spell (piece :: rest) = piece.toList ++ spell rest :=
  List.flatMap_cons

theorem spell_items (first : Bool) (j : Json) (items : List Json) (rest : List String) :
    spell (itemPieces first (j :: items) rest) =
      (if first then [] else [',']) ++ spell (pieces j (itemPieces false items rest)) := by
  rw [itemPieces, spell_cons]
  cases first <;> simp

theorem spell_fields (first : Bool) (k : String) (j : Json) (fields : List (String × Json)) (rest : List String) :
    spell (fieldPieces first ((k, j) :: fields) rest) =
      (if first then [] else [',']) ++ spell (quote k :: ":" :: pieces j (fieldPieces false fields rest)) := by
  rw [fieldPieces, spell_cons]
  cases first <;> simp

mutual

theorem length_le_pieces : (j : Json) → (rest : List String) → (spell rest).length ≤ (spell (pieces j rest)).length
  | .null, rest | .bool _, rest | .num _, rest | .str _, rest => by
    simp only [pieces, spell_cons, List.length_append]
    omega
  | .arr items, rest => by
    have := length_le_itemPieces true items ("]" :: rest)
    simp only [pieces, spell_cons, List.length_append] at this ⊢
    omega
  | .obj fields, rest => by
    have := length_le_fieldPieces true fields ("\x7d" :: rest)
    simp only [pieces, spell_cons, List.length_append] at this ⊢
    omega

theorem length_le_itemPieces (first : Bool) : (items : List Json) → (rest : List String) →
    (spell rest).length ≤ (spell (itemPieces first items rest)).length
  | [], rest => Nat.le_refl _
  | j :: items, rest => by
    have := length_le_pieces j (itemPieces false items rest)
    have := length_le_itemPieces false items rest
    simp only [itemPieces, spell_cons, List.length_append]
    omega

theorem length_le_fieldPieces (first : Bool) : (fields : List (String × Json)) → (rest : List String) →
    (spell rest).length ≤ (spell (fieldPieces first fields rest)).length
  | [], rest => Nat.le_refl _
  | (k, j) :: fields, rest => by
    have := length_le_pieces j (fieldPieces false fields rest)
    have := length_le_fieldPieces false fields rest
    simp only [fieldPieces, spell_cons, List.length_append]
    omega

end

theorem follows_close {close : Char} (h : close = ']' ∨ close = '\x7d') (rest : List Char) :
    Follows (close :: rest) := by
  intro c first
  cases first
  exact .inr h

theorem follows_itemPieces (items : List Json) {rest : List String} (follows : Follows (spell rest)) :
    Follows (spell (itemPieces false items rest)) := by
  cases items with
  | nil => exact follows
  | cons j items =>
    intro c first
    rw [itemPieces, spell_cons] at first
    cases first
    exact .inl rfl

theorem follows_fieldPieces (fields : List (String × Json)) {rest : List String} (follows : Follows (spell rest)) :
    Follows (spell (fieldPieces false fields rest)) := by
  cases fields with
  | nil => exact follows
  | cons field fields =>
    intro c first
    rw [fieldPieces, spell_cons] at first
    cases first
    exact .inl rfl

theorem skipSpace_cons {c : Char} (cs : List Char) (h : isSpace c = false) : skipSpace (c :: cs) = c :: cs := by
  rw [skipSpace, List.dropWhile_cons, h]
  rfl

theorem readValue?_number (fuel : Nat) {c : Char} (cs : List Char) (h : c = '-' ∨ isDigit c = true) :
    readValue? (fuel + 1) (c :: cs) = readNumber? (c :: cs) := by
  have other : isSpace c = false ∧ c ≠ 'n' ∧ c ≠ 't' ∧ c ≠ 'f' ∧ c ≠ '"' ∧ c ≠ '[' ∧ c ≠ '\x7b' := by
    rcases h with rfl | digit
    · decide
    · exact forall_isDigit (P := fun c => isSpace c = false ∧ c ≠ 'n' ∧ c ≠ 't' ∧ c ≠ 'f' ∧ c ≠ '"' ∧ c ≠ '[' ∧ c ≠ '\x7b')
        (by decide) digit
  rw [readValue?, skipSpace_cons cs other.1]
  split <;> simp_all

theorem exists_first_pieces {j : Json} (wellFormed : j.WellFormed) (rest : List String) :
    ∃ first cs, spell (pieces j rest) = first :: cs ∧ isSpace first = false ∧ first ≠ ']' := by
  cases j with
  | null => exact ⟨'n', _, rfl, by decide⟩
  | bool b => cases b <;> exact ⟨_, _, rfl, by decide⟩
  | num n =>
    obtain ⟨first, cs, begins, kind⟩ := exists_first_text wellFormed
    refine ⟨first, cs ++ spell rest, by rw [pieces, spell_cons, begins]; rfl, ?_⟩
    rcases kind with rfl | digit
    · decide
    · exact forall_isDigit (P := fun c => isSpace c = false ∧ c ≠ ']') (by decide) digit
  | str s => exact ⟨'"', _, by rw [pieces, spell_cons, quote, String.toList_ofList]; rfl, by decide⟩
  | arr items => exact ⟨'[', _, rfl, by decide⟩
  | obj fields => exact ⟨'\x7b', _, rfl, by decide⟩

theorem readNext?_more (close : Char) (cs : List Char) : readNext? close (',' :: cs) = some (.more cs) := rfl

theorem readNext?_done {close : Char} (h : close = ']' ∨ close = '\x7d') (cs : List Char) :
    readNext? close (close :: cs) = some (.done cs) := by
  rcases h with rfl | rfl <;> rfl

theorem readValue?_text {n : Number} (wellFormed : WellFormed (.num n)) (fuel : Nat) {cs : List Char}
    (follows : Follows cs) : readValue? (fuel + 1) (n.text.toList ++ cs) = some (.num n, cs) := by
  obtain ⟨first, others, begins, kind⟩ := exists_first_text wellFormed
  rw [← readNumber?_text wellFormed follows, begins]
  exact readValue?_number fuel _ kind

theorem toList_quote_append (s : String) (cs : List Char) :
    (quote s).toList ++ cs = '"' :: (s.toList.flatMap escapeChar ++ '"' :: cs) := by
  simp [quote]

theorem readValue?_quote (s : String) (fuel : Nat) (cs : List Char) :
    readValue? (fuel + 1) ((quote s).toList ++ cs) = some (.str s, cs) := by
  rw [toList_quote_append, readValue?, skipSpace_cons _ rfl]
  simp only [readChars?_quote, Option.map_some]

theorem readValue?_items {fuel : Nat} {cs rest : List Char} {items : List Json} (notClosed : isClosed? ']' cs = none)
    (read : readItems? fuel cs = some (items, rest)) : readValue? (fuel + 1) ('[' :: cs) = some (.arr items, rest) := by
  rw [readValue?, skipSpace_cons cs rfl]
  simp only [notClosed, read, Option.map_some]

theorem readValue?_fields {fuel : Nat} {cs rest : List Char} {fields : List (String × Json)}
    (notClosed : isClosed? '\x7d' cs = none) (ordered : KeyMap.Ordered fields)
    (read : readFields? fuel cs = some (fields, rest)) :
    readValue? (fuel + 1) ('\x7b' :: cs) = some (.obj fields, rest) := by
  rw [readValue?, skipSpace_cons cs rfl]
  simp only [notClosed, read, Option.map_some, ordered.ofList_eq]

theorem readItems?_last {fuel : Nat} {cs rest : List Char} {j : Json}
    (read : readValue? fuel cs = some (j, ']' :: rest)) : readItems? (fuel + 1) cs = some ([j], rest) := by
  rw [readItems?, read]
  rfl

theorem readItems?_more {fuel : Nat} {cs more rest : List Char} {j : Json} {items : List Json}
    (read : readValue? fuel cs = some (j, ',' :: more)) (readMore : readItems? fuel more = some (items, rest)) :
    readItems? (fuel + 1) cs = some (j :: items, rest) := by
  rw [readItems?, read]
  simp only [Option.bind_eq_bind, Option.bind_some, readNext?_more, readMore]

theorem skipSpace_colon (cs : List Char) : skipSpace (':' :: cs) = ':' :: cs := skipSpace_cons cs rfl

theorem readFields?_last {fuel : Nat} {cs rest : List Char} {k : String} {j : Json}
    (read : readValue? fuel cs = some (j, '\x7d' :: rest)) :
    readFields? (fuel + 1) ((quote k).toList ++ ':' :: cs) = some ([(k, j)], rest) := by
  rw [toList_quote_append, readFields?, skipSpace_cons _ rfl]
  simp only [readChars?_quote, skipSpace_colon, Option.bind_eq_bind, Option.bind_some, read, readNext?_done (.inr rfl)]

theorem readFields?_more {fuel : Nat} {cs more rest : List Char} {k : String} {j : Json}
    {fields : List (String × Json)} (read : readValue? fuel cs = some (j, ',' :: more))
    (readMore : readFields? fuel more = some (fields, rest)) :
    readFields? (fuel + 1) ((quote k).toList ++ ':' :: cs) = some ((k, j) :: fields, rest) := by
  rw [toList_quote_append, readFields?, skipSpace_cons _ rfl]
  simp only [readChars?_quote, skipSpace_colon, Option.bind_eq_bind, Option.bind_some, read, readNext?_more, readMore]

theorem spell_arr (items : List Json) (rest : List String) :
    spell (pieces (.arr items) rest) = '[' :: spell (itemPieces true items ("]" :: rest)) := by
  rw [pieces, spell_cons]
  rfl

theorem spell_obj (fields : List (String × Json)) (rest : List String) :
    spell (pieces (.obj fields) rest) = '\x7b' :: spell (fieldPieces true fields ("\x7d" :: rest)) := by
  rw [pieces, spell_cons]
  rfl

theorem spell_bracket (rest : List String) : spell ("]" :: rest) = ']' :: spell rest := rfl

theorem spell_colon (rest : List String) : spell (":" :: rest) = ':' :: spell rest := rfl

theorem spell_brace (rest : List String) : spell ("\x7d" :: rest) = '\x7d' :: spell rest := rfl

def Reads (j : Json) : Prop := ∀ rest fuel, Follows (spell rest) →
  (spell (pieces j rest)).length < fuel + (spell rest).length →
  readValue? fuel (spell (pieces j rest)) = some (j, spell rest)

def ReadsItems (items : List Json) : Prop := ∀ rest fuel,
  (spell (itemPieces true items ("]" :: rest))).length < fuel + (spell rest).length →
  readItems? fuel (spell (itemPieces true items ("]" :: rest))) = some (items, spell rest)

def ReadsFields (fields : List (String × Json)) : Prop := ∀ rest fuel,
  (spell (fieldPieces true fields ("\x7d" :: rest))).length < fuel + (spell rest).length →
  readFields? fuel (spell (fieldPieces true fields ("\x7d" :: rest))) = some (fields, spell rest)

/-- Fuel is never used up, so the step of the reader can be looked at. -/
theorem reads_of_succ {j : Json} (h : ∀ rest fuel, Follows (spell rest) →
    (spell (pieces j rest)).length < fuel + 1 + (spell rest).length →
    readValue? (fuel + 1) (spell (pieces j rest)) = some (j, spell rest)) : Reads j := by
  intro rest fuel follows enough
  cases fuel with
  | zero =>
    have := length_le_pieces j rest
    omega
  | succ fuel => exact h rest fuel follows enough

theorem reads_arr {j : Json} {items : List Json} (wellFormed : j.WellFormed) (h : ReadsItems (j :: items)) :
    Reads (.arr (j :: items)) := by
  refine reads_of_succ fun rest fuel _ enough => ?_
  obtain ⟨first, cs, begins, notSpace, notClose⟩ := exists_first_pieces wellFormed (itemPieces false items ("]" :: rest))
  rw [spell_arr] at enough ⊢
  refine readValue?_items ?_ (h rest fuel ?_)
  · rw [spell_items, if_pos rfl, List.nil_append, isClosed?, begins, skipSpace_cons cs notSpace]
    exact if_neg notClose
  · rw [List.length_cons] at enough
    omega

theorem reads_obj {field : String × Json} {fields : List (String × Json)} (ordered : KeyMap.Ordered (field :: fields))
    (h : ReadsFields (field :: fields)) : Reads (.obj (field :: fields)) := by
  refine reads_of_succ fun rest fuel _ enough => ?_
  rw [spell_obj] at enough ⊢
  refine readValue?_fields ?_ ordered (h rest fuel ?_)
  · rw [spell_fields, if_pos rfl, List.nil_append, spell_cons, toList_quote_append]
    rfl
  · rw [List.length_cons] at enough
    omega

theorem readsItems_one {j : Json} (h : Reads j) : ReadsItems [j] := by
  intro rest fuel enough
  rw [spell_items, if_pos rfl, List.nil_append, itemPieces] at enough ⊢
  have value := length_le_pieces j ("]" :: rest)
  rw [spell_bracket, List.length_cons] at value
  cases fuel with
  | zero => omega
  | succ fuel =>
    refine readItems?_last (h ("]" :: rest) fuel (follows_close (.inl rfl) _) ?_)
    rw [spell_bracket, List.length_cons]
    omega

theorem readsItems_cons {j next : Json} {items : List Json} (h : Reads j) (others : ReadsItems (next :: items)) :
    ReadsItems (j :: next :: items) := by
  intro rest fuel enough
  have tail : spell (itemPieces false (next :: items) ("]" :: rest)) =
      ',' :: spell (itemPieces true (next :: items) ("]" :: rest)) := by
    rw [spell_items, spell_items]
    rfl
  have value := length_le_pieces j (itemPieces false (next :: items) ("]" :: rest))
  have last := length_le_itemPieces true (next :: items) ("]" :: rest)
  rw [spell_items, if_pos rfl, List.nil_append] at enough ⊢
  rw [tail, List.length_cons] at value
  rw [spell_bracket, List.length_cons] at last
  cases fuel with
  | zero => omega
  | succ fuel =>
    have read := h (itemPieces false (next :: items) ("]" :: rest)) fuel
      (follows_itemPieces _ (follows_close (.inl rfl) _)) (by rw [tail, List.length_cons]; omega)
    rw [tail] at read
    exact readItems?_more read (others rest fuel (by omega))

theorem readsFields_one {k : String} {j : Json} (h : Reads j) : ReadsFields [(k, j)] := by
  intro rest fuel enough
  rw [spell_fields, if_pos rfl, List.nil_append, fieldPieces, spell_cons, spell_colon] at enough ⊢
  rw [List.length_append, List.length_cons] at enough
  have value := length_le_pieces j ("\x7d" :: rest)
  rw [spell_brace, List.length_cons] at value
  cases fuel with
  | zero => omega
  | succ fuel =>
    refine readFields?_last (h ("\x7d" :: rest) fuel (follows_close (.inr rfl) _) ?_)
    rw [spell_brace, List.length_cons]
    omega

theorem readsFields_cons {k : String} {j : Json} {next : String × Json} {fields : List (String × Json)} (h : Reads j)
    (others : ReadsFields (next :: fields)) : ReadsFields ((k, j) :: next :: fields) := by
  intro rest fuel enough
  have tail : spell (fieldPieces false (next :: fields) ("\x7d" :: rest)) =
      ',' :: spell (fieldPieces true (next :: fields) ("\x7d" :: rest)) := by
    rw [spell_fields, spell_fields]
    rfl
  have value := length_le_pieces j (fieldPieces false (next :: fields) ("\x7d" :: rest))
  have last := length_le_fieldPieces true (next :: fields) ("\x7d" :: rest)
  rw [spell_fields, if_pos rfl, List.nil_append, spell_cons, spell_colon] at enough ⊢
  rw [List.length_append, List.length_cons] at enough
  rw [tail, List.length_cons] at value
  rw [spell_brace, List.length_cons] at last
  cases fuel with
  | zero => omega
  | succ fuel =>
    have read := h (fieldPieces false (next :: fields) ("\x7d" :: rest)) fuel
      (follows_fieldPieces _ (follows_close (.inr rfl) _)) (by rw [tail, List.length_cons]; omega)
    rw [tail] at read
    exact readFields?_more read (others rest fuel (by omega))

mutual

theorem reads : (j : Json) → j.WellFormed → Reads j
  | .null, _ => reads_of_succ fun _ _ _ _ => rfl
  | .bool b, _ => reads_of_succ fun _ _ _ _ => by cases b <;> rfl
  | .num n, wellFormed => reads_of_succ fun rest fuel follows _ => by
    rw [pieces, spell_cons, readValue?_text wellFormed fuel follows]
  | .str s, _ => reads_of_succ fun rest fuel _ _ => by
    rw [pieces, spell_cons, readValue?_quote]
  | .arr [], _ => reads_of_succ fun _ _ _ _ => rfl
  | .arr (j :: items), wellFormed => reads_arr wellFormed.1 (readsItems (j :: items) (List.cons_ne_nil _ _) wellFormed)
  | .obj [], _ => reads_of_succ fun _ _ _ _ => rfl
  | .obj (field :: fields), wellFormed =>
    reads_obj wellFormed.1 (readsFields (field :: fields) (List.cons_ne_nil _ _) wellFormed.2)

theorem readsItems : (items : List Json) → items ≠ [] → WellFormedItems items → ReadsItems items
  | [], nonempty, _ => absurd rfl nonempty
  | [j], _, wellFormed => readsItems_one (reads j wellFormed.1)
  | j :: next :: items, _, wellFormed =>
    readsItems_cons (reads j wellFormed.1) (readsItems (next :: items) (List.cons_ne_nil _ _) wellFormed.2)

theorem readsFields : (fields : List (String × Json)) → fields ≠ [] → WellFormedFields fields → ReadsFields fields
  | [], nonempty, _ => absurd rfl nonempty
  | [(_, j)], _, wellFormed => readsFields_one (reads j wellFormed.1)
  | (_, j) :: next :: fields, _, wellFormed =>
    readsFields_cons (reads j wellFormed.1) (readsFields (next :: fields) (List.cons_ne_nil _ _) wellFormed.2)

end

end Reader

theorem toList_text (j : Json) : j.text.toList = Reader.spell (pieces j []) := String.toList_join

theorem read?_text {j : Json} (wellFormed : j.WellFormed) : read? j.text = some j := by
  have length := Reader.length_le_pieces j []
  have read := Reader.reads j wellFormed [] (2 * (Reader.spell (pieces j [])).length + 2)
    (by simp [Reader.Follows, Reader.spell]) (by omega)
  rw [read?, toList_text]
  dsimp only
  rw [read]
  rfl

theorem text_injective {j k : Json} (hj : j.WellFormed) (hk : k.WellFormed) (same : j.text = k.text) : j = k := by
  have read := read?_text hj
  rw [same, read?_text hk] at read
  exact (Option.some.inj read).symm

end Json

end RecordSync
