/-!
# Pieces of texts

Splitting at a separator and joining again, the tests whether one text begins, ends or contains another, and the removal
of white space (the Unicode property `White_Space`) from the ends. All of them work on the characters of a text.
-/

set_option autoImplicit false

namespace RecordSync.Text

def splitChars (separator : Char) : List Char → List (List Char)
  | [] => [[]]
  | c :: rest =>
    if c = separator then [] :: splitChars separator rest
    else
      match splitChars separator rest with
      | piece :: pieces => (c :: piece) :: pieces
      | [] => [[c]]

def split (text : String) (separator : Char) : List String :=
  (splitChars separator text.toList).map String.ofList

def startsWith (text part : String) : Bool := part.toList.isPrefixOf text.toList

def endsWith (text part : String) : Bool := part.toList.isSuffixOf text.toList

def containsChars (part : List Char) : List Char → Bool
  | [] => part.isEmpty
  | c :: rest => part.isPrefixOf (c :: rest) || containsChars part rest

def contains (text part : String) : Bool := containsChars part.toList text.toList

theorem splitChars_ne_nil (separator : Char) (cs : List Char) : splitChars separator cs ≠ [] := by
  cases cs with
  | nil => simp [splitChars]
  | cons c rest =>
    unfold splitChars
    split
    · simp
    · split <;> simp

/-- The pieces with the separator between them are the text again. -/
theorem intercalate_splitChars (separator : Char) (cs : List Char) :
    [separator].intercalate (splitChars separator cs) = cs := by
  induction cs with
  | nil => rfl
  | cons c rest ih =>
    unfold splitChars
    split
    · next h =>
      cases pieces : splitChars separator rest with
      | nil => exact absurd pieces (splitChars_ne_nil separator rest)
      | cons piece more =>
        rw [pieces] at ih
        simp [List.intercalate, List.intersperse] at ih ⊢
        simp [h, ih]
    · cases pieces : splitChars separator rest with
      | nil => exact absurd pieces (splitChars_ne_nil separator rest)
      | cons piece more =>
        rw [pieces] at ih
        cases more with
        | nil => simpa [List.intercalate] using ih
        | cons _ _ => simpa [List.intercalate, List.intersperse] using ih

theorem not_mem_of_mem_splitChars {separator : Char} {cs piece : List Char}
    (h : piece ∈ splitChars separator cs) : separator ∉ piece := by
  induction cs generalizing piece with
  | nil => simp_all [splitChars]
  | cons c rest ih =>
    unfold splitChars at h
    split at h
    · rcases List.mem_cons.1 h with rfl | h
      · simp
      · exact ih h
    · next hc =>
      cases pieces : splitChars separator rest with
      | nil => exact absurd pieces (splitChars_ne_nil separator rest)
      | cons first more =>
        simp only [pieces, List.mem_cons] at h ih
        rcases h with rfl | h
        · simp [Ne.symm hc, ih (.inl rfl)]
        · exact ih (.inr h)

end RecordSync.Text

namespace RecordSync.Unicode

def isBlank (c : Char) : Bool :=
  let code := c.toNat
  (9 ≤ code && code ≤ 13) || code == 0x20 || code == 0x85 || code == 0xA0 || code == 0x1680 ||
    (0x2000 ≤ code && code ≤ 0x200A) || code == 0x2028 || code == 0x2029 || code == 0x202F ||
    code == 0x205F || code == 0x3000

theorem isBlank_of_isWhitespace {c : Char} (h : c.isWhitespace = true) : isBlank c = true := by
  simp only [Char.isWhitespace, Bool.or_eq_true, decide_eq_true_eq] at h
  rcases h with ((rfl | rfl) | rfl) | rfl <;> decide

def trim (text : String) : String :=
  String.ofList ((text.toList.dropWhile isBlank).reverse.dropWhile isBlank).reverse

end RecordSync.Unicode
