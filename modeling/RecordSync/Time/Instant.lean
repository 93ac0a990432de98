import RecordSync.Numeric.Decimal

/-!
# Instants

Reading of RFC 3339 timestamps into milliseconds since 1970-01-01T00:00:00Z. Date and time may be
separated by `T`, `t` or a blank; the offset is `Z`, `z`, or hours and minutes after a sign, where the minus sign
may also be U+2212. A leap second is admitted in every minute. Fractions of a millisecond are cut off.
-/

set_option autoImplicit false

namespace RecordSync

structure Timestamp where
  year : Nat
  month : Nat
  day : Nat
  hour : Nat
  minute : Nat
  second : Nat
  millis : Nat
  offsetSeconds : Int
  deriving DecidableEq, Repr

namespace Timestamp

def isLeapYear (year : Nat) : Bool := year % 4 == 0 && (year % 100 != 0 || year % 400 == 0)

def daysInMonth (year month : Nat) : Nat :=
  match month with
  | 2 => if isLeapYear year then 29 else 28
  | 4 | 6 | 9 | 11 => 30
  | _ => 31

def isValid (t : Timestamp) : Bool :=
  1 ≤ t.month && t.month ≤ 12 && 1 ≤ t.day && t.day ≤ daysInMonth t.year t.month &&
    t.hour < 24 && t.minute < 60 && t.second ≤ 60 && t.offsetSeconds.natAbs < 86400

def daysBeforeYear (year : Nat) : Nat :=
  -- year zero is a leap year, so the leap days are counted from the year before
  365 * year + (year + 3) / 4 - (year + 99) / 100 + (year + 399) / 400

def daysBeforeMonth (year month : Nat) : Nat :=
  (List.range (month - 1)).foldl (fun days m => days + daysInMonth year (m + 1)) 0

def dayNumber (t : Timestamp) : Int :=
  (daysBeforeYear t.year + daysBeforeMonth t.year t.month + (t.day - 1) : Nat) -
    (daysBeforeYear 1970 : Int)

def toMillis (t : Timestamp) : Int :=
  (((t.dayNumber * 24 + t.hour) * 60 + t.minute) * 60 + t.second - t.offsetSeconds) * 1000 + t.millis

abbrev Step (α : Type) := List Char → Option (α × List Char)

def readFixed (count : Nat) : Step Nat := fun cs =>
  let digits := cs.take count
  if digits.length = count ∧ digits.all Decimal.isDigit then
    some (Decimal.appendDigits 0 digits, cs.drop count)
  else none

def skip (accepts : Char → Bool) : Step Unit
  | c :: rest => if accepts c then some ((), rest) else none
  | [] => none

/-- Milliseconds of a fraction: of the digits after the point, at least one, three count. -/
def readFraction : Step Nat
  | '.' :: rest =>
    let (digits, rest) := Decimal.takeDigits rest
    if digits.isEmpty then none
    else some (Decimal.appendDigits 0 ((digits ++ ['0', '0']).take 3), rest)
  | rest => some (0, rest)

def readOffset : Step Int
  | [] => none
  | c :: rest =>
    if c = 'Z' ∨ c = 'z' then some (0, rest)
    else if c = '+' ∨ c = '-' ∨ c = '\u2212' then do
      let (hours, rest) ← readFixed 2 rest
      let ((), rest) ← skip (· == ':') rest
      let (minutes, rest) ← readFixed 2 rest
      if minutes < 60 then
        let seconds : Int := hours * 3600 + minutes * 60
        some (if c = '+' then seconds else -seconds, rest)
      else none
    else none

def read? (text : String) : Option Timestamp := do
  let (year, rest) ← readFixed 4 text.toList
  let ((), rest) ← skip (· == '-') rest
  let (month, rest) ← readFixed 2 rest
  let ((), rest) ← skip (· == '-') rest
  let (day, rest) ← readFixed 2 rest
  let ((), rest) ← skip (fun c => c == 'T' || c == 't' || c == ' ') rest
  let (hour, rest) ← readFixed 2 rest
  let ((), rest) ← skip (· == ':') rest
  let (minute, rest) ← readFixed 2 rest
  let ((), rest) ← skip (· == ':') rest
  let (second, rest) ← readFixed 2 rest
  let (millis, rest) ← readFraction rest
  let (offsetSeconds, rest) ← readOffset rest
  let t : Timestamp := { year, month, day, hour, minute, second, millis, offsetSeconds }
  if rest.isEmpty && t.isValid then some t else none

end Timestamp

def parseInstant? (text : String) : Option Int := (Timestamp.read? text).map Timestamp.toMillis

end RecordSync
