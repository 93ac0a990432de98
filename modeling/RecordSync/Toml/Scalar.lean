import RecordSync.Numeric.Integer
import RecordSync.Toml.Document
import RecordSync.Unicode.Ranges

/-!
# Scalars of TOML

Readers of keys, texts, numbers, dates and times. Each takes a scalar from the front of a text.
-/

set_option autoImplicit false

namespace RecordSync.Toml

abbrev Scanner (α : Type) := List Char → Option (α × List Char)

def isBlank (c : Char) : Bool := c == ' ' || c == '\t'

def skipBlanks (cs : List Char) : List Char := cs.dropWhile isBlank

def isPlain (c : Char) : Bool := c == '\t' || (0x20 ≤ c.toNat && c.toNat != 0x7F)

def takeNewline? : List Char → Option (List Char)
  | '\n' :: rest => some rest
  | '\r' :: '\n' :: rest => some rest
  | _ => none

def readCode? (digits : Nat) (cs : List Char) : Option (Char × List Char) := do
  let code ← (cs.take digits).mapM Unicode.hexValue?
  let n := code.foldl (fun n d => n * 16 + d) 0
  if code.length = digits ∧ n.isValidChar then some (Char.ofNat n, cs.drop digits) else none

def readEscape? : Scanner Char
  | 'b' :: rest => some ('\x08', rest)
  | 't' :: rest => some ('\t', rest)
  | 'n' :: rest => some ('\n', rest)
  | 'f' :: rest => some ('\x0c', rest)
  | 'r' :: rest => some ('\r', rest)
  | '"' :: rest => some ('"', rest)
  | '\\' :: rest => some ('\\', rest)
  | 'u' :: rest => readCode? 4 rest
  | 'U' :: rest => readCode? 8 rest
  | _ => none

def readLine? (quote : Char) : Nat → List Char → Scanner String
  | 0, _, _ => none
  | fuel + 1, done, cs =>
    match cs with
    | [] => none
    | c :: rest =>
      if c = quote then some (String.ofList done.reverse, rest)
      else if c = '\\' ∧ quote = '"' then do
        let (c, rest) ← readEscape? rest
        readLine? quote fuel (c :: done) rest
      else if isPlain c then readLine? quote fuel (c :: done) rest
      else none

def skipLineEnd? (cs : List Char) : Option (List Char) := do
  let rest ← takeNewline? (skipBlanks cs)
  let behind := rest.dropWhile fun c => isBlank c || c == '\n' || c == '\r'
  let skipped := rest.take (rest.length - behind.length)
  if (skipped.zip (skipped.drop 1 ++ ['x'])).all fun (c, next) => c != '\r' || next == '\n' then some behind
  else none

def closeLines? (quote : Char) (cs : List Char) : Option (List Char × List Char) :=
  let quotes := cs.takeWhile (· == quote)
  if quotes.length < 3 then none
  else
    let kept := min (quotes.length - 3) 2
    some (List.replicate kept quote, cs.drop (kept + 3))

def readLines? (quote : Char) : Nat → List Char → Scanner String
  | 0, _, _ => none
  | fuel + 1, done, cs =>
    match closeLines? quote cs with
    | some (quotes, rest) => some (String.ofList (done.reverse ++ quotes), rest)
    | none =>
      match cs with
      | [] => none
      | c :: rest =>
        match takeNewline? cs with
        | some rest => readLines? quote fuel ('\n' :: done) rest
        | none =>
          if c = '\\' ∧ quote = '"' then
            match skipLineEnd? rest with
            | some rest => readLines? quote fuel done rest
            | none => do
              let (c, rest) ← readEscape? rest
              readLines? quote fuel (c :: done) rest
          else if isPlain c then readLines? quote fuel (c :: done) rest
          else none

def readText? (quote : Char) (cs : List Char) : Option (String × List Char) :=
  match cs with
  | a :: b :: rest =>
    if a = quote ∧ b = quote then
      let rest := (takeNewline? rest).getD rest
      readLines? quote (rest.length + 1) [] rest
    else readLine? quote (cs.length + 1) [] cs
  | _ => readLine? quote (cs.length + 1) [] cs

def isBareKeyChar (c : Char) : Bool := c.isAlphanum || c == '_' || c == '-'

def readKey? : Scanner String
  | '"' :: rest => readLine? '"' (rest.length + 1) [] rest
  | '\'' :: rest => readLine? '\'' (rest.length + 1) [] rest
  | cs =>
    let key := cs.takeWhile isBareKeyChar
    if key.isEmpty then none else some (String.ofList key, cs.drop key.length)

def maxDepth : Nat := 79

def readPathWithin? : Nat → Scanner (List String)
  | 0, _ => none
  | parts + 1, cs => do
    let (key, rest) ← readKey? (skipBlanks cs)
    match skipBlanks rest with
    | '.' :: rest => do
      let (keys, rest) ← readPathWithin? parts rest
      return (key :: keys, rest)
    | rest => return ([key], rest)

def readPath? (cs : List Char) : Option (List String × List Char) := readPathWithin? maxDepth cs

def takeDigitRun (isDigit : Char → Bool) : List Char → List Char × List Char
  | [] => ([], [])
  | c :: rest =>
    if isDigit c then
      let (digits, rest) := takeMore rest
      (c :: digits, rest)
    else ([], c :: rest)
where
  takeMore : List Char → List Char × List Char
    | '_' :: d :: rest =>
      if isDigit d then
        let (digits, rest) := takeMore rest
        (d :: digits, rest)
      else ([], '_' :: d :: rest)
    | c :: rest =>
      if isDigit c then
        let (digits, rest) := takeMore rest
        (c :: digits, rest)
      else ([], c :: rest)
    | [] => ([], [])

def readBased? (base : Nat) (cs : List Char) : Option (Value × List Char) :=
  let isDigit (c : Char) : Bool := (Unicode.hexValue? c).any (· < base)
  let (digits, rest) := takeDigitRun isDigit cs
  let n := (digits.filterMap Unicode.hexValue?).foldl (fun n d => n * base + d) 0
  if digits.isEmpty || !fitsSigned64 n then none else some (.int n, rest)

def takeWhole (cs : List Char) : List Char × List Char :=
  match cs with
  | '0' :: rest => (['0'], rest)
  | cs => takeDigitRun Decimal.isDigit cs

def takeFraction? : Scanner (List Char)
  | '.' :: rest =>
    let (digits, rest) := takeDigitRun Decimal.isDigit rest
    if digits.isEmpty then none else some (digits, rest)
  | rest => some ([], rest)

def takeExponent? (cs : List Char) : Option (Option Int × List Char) :=
  match cs with
  | c :: rest =>
    if c = 'e' ∨ c = 'E' then
      let (negative, rest) := Decimal.takeSign rest
      let (digits, rest) := takeDigitRun Decimal.isDigit rest
      let n : Int := Decimal.appendDigits 0 digits
      if digits.isEmpty then none else some (some (if negative then -n else n), rest)
    else some (none, cs)
  | [] => some (none, [])

/-- A decimal number behind its sign. It is a float if it has a fraction or an exponent; a float must not be beyond
the positive doubles. -/
def readDecimal? (negative : Bool) (cs : List Char) : Option (Value × List Char) := do
  let (whole, rest) := takeWhole cs
  if whole.isEmpty then none
  let (fraction, rest) ← takeFraction? rest
  let (exponent, rest) ← takeExponent? rest
  let digits := Decimal.appendDigits 0 whole
  if fraction.isEmpty && exponent.isNone then
    let n : Int := if negative then -(digits : Int) else digits
    if fitsSigned64 n then some (.int n, rest) else none
  else
    match Double.ofDecimal negative (Decimal.appendDigits digits fraction) (exponent.getD 0 - fraction.length) with
    | .infinite false => none
    | x => some (.float x, rest)

def readNumber? (cs : List Char) : Option (Value × List Char) :=
  match cs with
  | '0' :: 'x' :: rest => readBased? 16 rest
  | '0' :: 'o' :: rest => readBased? 8 rest
  | '0' :: 'b' :: rest => readBased? 2 rest
  | cs =>
    let (negative, rest) := Decimal.takeSign cs
    match rest with
    | 'i' :: 'n' :: 'f' :: rest => some (.float (.infinite negative), rest)
    | 'n' :: 'a' :: 'n' :: rest => some (.float .nan, rest)
    | rest => readDecimal? negative rest

def readField? (digits low high : Nat) (cs : List Char) : Option (Nat × List Char) :=
  let field := cs.take digits
  let n := Decimal.appendDigits 0 field
  if field.length = digits ∧ field.all Decimal.isDigit ∧ low ≤ n ∧ n ≤ high then some (n, cs.drop digits) else none

def takeChar? (c : Char) : List Char → Option (List Char)
  | d :: rest => if d = c then some rest else none
  | [] => none

def daysInMonth (year month : Nat) : Nat :=
  match month with
  | 2 => if year % 4 = 0 ∧ (year % 100 ≠ 0 ∨ year % 400 = 0) then 29 else 28
  | 4 | 6 | 9 | 11 => 30
  | _ => 31

def padded (digits n : Nat) : List Char :=
  let text := (toString n).toList
  List.replicate (digits - text.length) '0' ++ text

def readDate? : Scanner (List Char)
  | cs => do
    let (year, rest) ← readField? 4 0 9999 cs
    let (month, rest) ← readField? 2 1 12 (← takeChar? '-' rest)
    let (day, rest) ← readField? 2 1 (daysInMonth year month) (← takeChar? '-' rest)
    return (padded 4 year ++ '-' :: padded 2 month ++ '-' :: padded 2 day, rest)

def fractionText (digits : List Char) : List Char :=
  let kept := ((digits.take 9).reverse.dropWhile (· == '0')).reverse
  if kept.isEmpty then [] else '.' :: kept

def readTime? : Scanner (List Char)
  | cs => do
    let (hour, rest) ← readField? 2 0 23 cs
    let (minute, rest) ← readField? 2 0 59 (← takeChar? ':' rest)
    let (second, rest) ← readField? 2 0 60 (← takeChar? ':' rest)
    let time := padded 2 hour ++ ':' :: padded 2 minute ++ ':' :: padded 2 second
    match rest with
    | '.' :: rest =>
      let digits := rest.takeWhile Decimal.isDigit
      if digits.isEmpty then none else return (time ++ fractionText digits, rest.drop digits.length)
    | rest => return (time, rest)

def readOffset? : Scanner (List Char)
  | [] => none
  | sign :: rest =>
    if sign = 'Z' ∨ sign = 'z' then some (['Z'], rest)
    else if sign = '+' ∨ sign = '-' then do
      let (hours, rest) ← readField? 2 0 23 rest
      let (minutes, rest) ← readField? 2 0 59 (← takeChar? ':' rest)
      let sign := if hours = 0 ∧ minutes = 0 then '+' else sign
      return (sign :: padded 2 hours ++ ':' :: padded 2 minutes, rest)
    else none

def readTimeOfDate? : Scanner (List Char)
  | [] => none
  | c :: rest =>
    if c = 'T' ∨ c = 't' ∨ c = ' ' then do
      let (time, rest) ← readTime? rest
      match readOffset? rest with
      | some (offset, rest) => return ('T' :: time ++ offset, rest)
      | none => return ('T' :: time, rest)
    else none

def readMoment? (cs : List Char) : Option (Value × List Char) :=
  match readDate? cs with
  | none => (readTime? cs).map fun (time, rest) => (.moment (String.ofList time), rest)
  | some (date, rest) =>
    match readTimeOfDate? rest with
    | some (time, rest) => some (.moment (String.ofList (date ++ time)), rest)
    | none => some (.moment (String.ofList date), rest)

end RecordSync.Toml
