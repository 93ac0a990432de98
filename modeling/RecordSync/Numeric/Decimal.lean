import RecordSync.Numeric.Shortest

/-!
# Decimal texts of doubles

Reading rounds the written number once, to nearest. Writing uses the shortest digits that read back;
`Layout` says which exponents are written positionally and what the other ones look like.
-/

set_option autoImplicit false

namespace RecordSync

namespace Double

open Binary64

/-- The double nearest to `± digits · 10 ^ exponent`. Exponents far outside the range of doubles are
decided without computing the power. -/
def ofDecimal (negative : Bool) (digits : Nat) (exponent : Int) : Double :=
  let magnitude := (Shortest.digitCount digits : Int) + exponent
  if digits = 0 ∨ magnitude < -330 then .finite ⟨negative, 0⟩
  else if 310 < magnitude then .infinite negative
  else if exponent < 0 then ofRatio negative (digits * unitsPerOne) (Shortest.pow10 (-exponent).toNat)
  else ofRatio negative (digits * Shortest.pow10 exponent.toNat * unitsPerOne) 1

end Double

namespace Decimal

def appendDigits (value : Nat) (digits : List Char) : Nat :=
  digits.foldl (fun n c => 10 * n + (c.toNat - '0'.toNat)) value

def isDigit (c : Char) : Bool := '0' ≤ c && c ≤ '9'

def takeDigits (cs : List Char) : List Char × List Char := (cs.takeWhile isDigit, cs.dropWhile isDigit)

def takeSign : List Char → Bool × List Char
  | '-' :: rest => (true, rest)
  | '+' :: rest => (false, rest)
  | rest => (false, rest)

def readExponent? : List Char → Option Int
  | [] => some 0
  | c :: rest =>
    if c = 'e' ∨ c = 'E' then
      let (negative, rest) := takeSign rest
      let (digits, rest) := takeDigits rest
      if digits.isEmpty || !rest.isEmpty then none
      else
        let value : Int := appendDigits 0 digits
        some (if negative then -value else value)
    else none

/-- A number without its sign: digits, an optional point with more digits, an optional exponent. At
least one digit stands before or after the point. -/
def readUnsigned? (negative : Bool) (cs : List Char) : Option Double :=
  let (whole, rest) := takeDigits cs
  let (fraction, rest) := match rest with
    | '.' :: rest => takeDigits rest
    | rest => ([], rest)
  if whole.isEmpty && fraction.isEmpty then none
  else
    (readExponent? rest).map fun exponent =>
      Double.ofDecimal negative (appendDigits (appendDigits 0 whole) fraction)
        (exponent - fraction.length)

/-- Reads a double from a whole text: an optional sign, then a decimal number or one of the words
`inf`, `infinity` and `nan` in any case. No blanks and no separators. -/
def readDouble? (text : String) : Option Double :=
  let (negative, rest) := takeSign text.toList
  match String.ofList (rest.map Char.toLower) with
  | "inf" | "infinity" => some (.infinite negative)
  | "nan" => some .nan
  | _ => readUnsigned? negative rest

def digitChars (digits : List Nat) : List Char := digits.map (fun d => Char.ofNat ('0'.toNat + d))

/-- Positional text of digits: zeros fill the gap to the point on either side; without a fractional
part the text ends in `tail`. -/
def positional (tail : String) (d : Digits) : String :=
  let chars := digitChars d.digits
  if d.point ≤ 0 then
    "0." ++ String.ofList (List.replicate (-d.point).toNat '0' ++ chars)
  else
    let whole := d.point.toNat
    if chars.length ≤ whole then
      String.ofList (chars ++ List.replicate (whole - chars.length) '0') ++ tail
    else
      String.ofList (chars.take whole) ++ "." ++ String.ofList (chars.drop whole)

def scientific (d : Digits) : String :=
  let exponent := d.point - 1
  let sign := if exponent < 0 then "-" else "+"
  let mantissa := match digitChars d.digits with
    | [] => "0"
    | [c] => String.ofList [c]
    | c :: rest => String.ofList (c :: '.' :: rest)
  mantissa ++ "e" ++ sign ++ Nat.repr exponent.natAbs

/-- How a finite double is written: the digits' points that are written positionally, the text that
ends a number without fraction, and the text of zero. -/
structure Layout where
  positionalPoint : Int → Bool
  wholeTail : String

def Layout.render (layout : Layout) (x : FiniteDouble) : String :=
  let sign := if x.negative then "-" else ""
  if x.isZero then sign ++ "0" ++ layout.wholeTail
  else
    let d := Shortest.digits x.units
    sign ++ if layout.positionalPoint d.point then positional layout.wholeTail d else scientific d

/-- Numbers in data are positional from `0.00001` up to but excluding `10 ^ 16`, and always show that
they are not integers. -/
def dataLayout : Layout := ⟨fun point => -5 < point && point ≤ 16, ".0"⟩

def plainLayout : Layout := ⟨fun _ => true, ""⟩

def plainText : Double → String
  | .finite x => plainLayout.render x
  | .infinite negative => if negative then "-inf" else "inf"
  | .nan => "NaN"

end Decimal

end RecordSync
