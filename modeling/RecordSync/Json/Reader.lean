import RecordSync.Json.Basic
import RecordSync.Unicode.Ranges

/-!
# Reading JSON text

A recursive-descent reader. A number without fraction and exponent that fits 64 bits is an integer; any other
one, and a negative zero, is the nearest double. Of several fields with one name the last counts. Each
step of the reader consumes a character, so the length of the text bounds the recursion.
-/

set_option autoImplicit false

namespace RecordSync

namespace Json

namespace Reader

def isSpace (c : Char) : Bool := c == ' ' || c == '\n' || c == '\r' || c == '\t'

def skipSpace (cs : List Char) : List Char := cs.dropWhile isSpace

def readUnit? : List Char → Option (Nat × List Char)
  | a :: b :: c :: d :: rest => do
    let a ← Unicode.hexValue? a
    let b ← Unicode.hexValue? b
    let c ← Unicode.hexValue? c
    let d ← Unicode.hexValue? d
    some (((a * 16 + b) * 16 + c) * 16 + d, rest)
  | _ => none

/-- An escape after its backslash. Two escapes of a surrogate pair make one character; a lone
surrogate is refused. -/
def readEscape? : List Char → Option (Char × List Char)
  | '"' :: rest => some ('"', rest)
  | '\\' :: rest => some ('\\', rest)
  | '/' :: rest => some ('/', rest)
  | 'b' :: rest => some ('\x08', rest)
  | 'f' :: rest => some ('\x0c', rest)
  | 'n' :: rest => some ('\n', rest)
  | 'r' :: rest => some ('\r', rest)
  | 't' :: rest => some ('\t', rest)
  | 'u' :: rest => do
    let (high, rest) ← readUnit? rest
    if 0xD800 ≤ high ∧ high < 0xDC00 then
      match rest with
      | '\\' :: 'u' :: rest =>
        let (low, rest) ← readUnit? rest
        if 0xDC00 ≤ low ∧ low < 0xE000 then
          some (Char.ofNat (0x10000 + (high - 0xD800) * 0x400 + (low - 0xDC00)), rest)
        else none
      | _ => none
    else if 0xDC00 ≤ high ∧ high < 0xE000 then none
    else some (Char.ofNat high, rest)
  | _ => none

def readChars? : Nat → List Char → List Char → Option (String × List Char)
  | 0, _, _ => none
  | fuel + 1, done, cs =>
    match cs with
    | '"' :: rest => some (String.ofList done.reverse, rest)
    | '\\' :: rest => do
      let (c, rest) ← readEscape? rest
      readChars? fuel (c :: done) rest
    | c :: rest => if c.toNat < 32 then none else readChars? fuel (c :: done) rest
    | [] => none

def makeNumber (negative : Bool) (whole fraction : List Char) (exponent : Option Int) :
    Option Json :=
  let digits := Decimal.appendDigits (Decimal.appendDigits 0 whole) fraction
  let asDouble := match Double.ofDecimal negative digits (exponent.getD 0 - fraction.length) with
    | .finite x => some (.num (.double x))
    | _ => none
  if fraction.isEmpty && exponent.isNone && !(negative && digits == 0) then
    let value : Int := if negative then -(digits : Int) else digits
    if fitsSigned64 value || fitsUnsigned64 value then some (.num (.int value)) else asDouble
  else asDouble

def takeMinus : List Char → Bool × List Char
  | '-' :: rest => (true, rest)
  | rest => (false, rest)

def readFraction? : List Char → Option (List Char × List Char)
  | '.' :: rest =>
    let (digits, rest) := Decimal.takeDigits rest
    if digits.isEmpty then none else some (digits, rest)
  | rest => some ([], rest)

def readExponent? : List Char → Option (Option Int × List Char)
  | [] => some (none, [])
  | c :: rest =>
    if c = 'e' ∨ c = 'E' then
      let (negative, rest) := Decimal.takeSign rest
      let (digits, rest) := Decimal.takeDigits rest
      if digits.isEmpty then none
      else
        let value : Int := Decimal.appendDigits 0 digits
        some (some (if negative then -value else value), rest)
    else some (none, c :: rest)

def readNumber? (cs : List Char) : Option (Json × List Char) :=
  let (negative, rest) := takeMinus cs
  let (whole, rest) := Decimal.takeDigits rest
  if whole.isEmpty || (whole.length > 1 && whole.head? == some '0') then none
  else do
    let (fraction, rest) ← readFraction? rest
    let (exponent, rest) ← readExponent? rest
    let number ← makeNumber negative whole fraction exponent
    some (number, rest)

inductive Next where
  | more (rest : List Char)
  | done (rest : List Char)

def readNext? (close : Char) (cs : List Char) : Option Next :=
  match skipSpace cs with
  | c :: rest => if c = ',' then some (.more rest) else if c = close then some (.done rest) else none
  | [] => none

def isClosed? (close : Char) (cs : List Char) : Option (List Char) :=
  match skipSpace cs with
  | c :: rest => if c = close then some rest else none
  | [] => none

mutual

def readValue? : Nat → List Char → Option (Json × List Char)
  | 0, _ => none
  | fuel + 1, cs =>
    match skipSpace cs with
    | 'n' :: 'u' :: 'l' :: 'l' :: rest => some (.null, rest)
    | 't' :: 'r' :: 'u' :: 'e' :: rest => some (.bool true, rest)
    | 'f' :: 'a' :: 'l' :: 's' :: 'e' :: rest => some (.bool false, rest)
    | '"' :: rest => (readChars? (rest.length + 1) [] rest).map fun (s, rest) => (.str s, rest)
    | '[' :: rest =>
      match isClosed? ']' rest with
      | some rest => some (.arr [], rest)
      | none => (readItems? fuel rest).map fun (items, rest) => (.arr items, rest)
    | '\x7b' :: rest =>
      match isClosed? '\x7d' rest with
      | some rest => some (.obj [], rest)
      | none => (readFields? fuel rest).map fun (fields, rest) => (.obj (KeyMap.ofList fields), rest)
    | rest => readNumber? rest

def readItems? : Nat → List Char → Option (List Json × List Char)
  | 0, _ => none
  | fuel + 1, cs => do
    let (item, rest) ← readValue? fuel cs
    match ← readNext? ']' rest with
    | .done rest => some ([item], rest)
    | .more rest =>
      let (items, rest) ← readItems? fuel rest
      some (item :: items, rest)

def readFields? : Nat → List Char → Option (List (String × Json) × List Char)
  | 0, _ => none
  | fuel + 1, cs => do
    match skipSpace cs with
    | '"' :: rest =>
      let (name, rest) ← readChars? (rest.length + 1) [] rest
      match skipSpace rest with
      | ':' :: rest =>
        let (value, rest) ← readValue? fuel rest
        match ← readNext? '\x7d' rest with
        | .done rest => some ([(name, value)], rest)
        | .more rest =>
          let (fields, rest) ← readFields? fuel rest
          some ((name, value) :: fields, rest)
      | _ => none
    | _ => none

end

end Reader

def read? (text : String) : Option Json :=
  let cs := text.toList
  (Reader.readValue? (2 * cs.length + 2) cs).bind fun (value, rest) =>
    if (Reader.skipSpace rest).isEmpty then some value else none

end Json

end RecordSync
