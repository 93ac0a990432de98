import RecordSync.Unicode.RangeAlgebra

/-!
# Ranges of characters as ranges of bytes

A range of characters is cut into pieces whose UTF-8 encodings are exactly the products of one range of bytes
for each place: pieces of one encoded length, aligned to the blocks of 64, 64² and 64³ characters that
share their first bytes.
-/

set_option autoImplicit false

namespace RecordSync.Unicode

def utf8Bytes (code : Nat) : List Nat :=
  let tail (block : Nat) : Nat := 0x80 + code / block % 64
  if code < 0x80 then [code]
  else if code < 0x800 then [0xC0 + code / 64, tail 1]
  else if code < 0x10000 then [0xE0 + code / 4096, tail 64, tail 1]
  else [0xF0 + code / 262144, tail 4096, tail 64, tail 1]

/-- Where a range has to be cut, as the end of the first piece and the start of the second one: around the code
points that are not characters, between encoded lengths, and at the blocks it reaches into. -/
def cut? (first last : Nat) : Option (Nat × Nat) :=
  let atLength (greatest : Nat) : Option (Nat × Nat) :=
    if first ≤ greatest ∧ greatest < last then some (greatest, greatest + 1) else none
  let atBlock (size : Nat) : Option (Nat × Nat) :=
    if first / size = last / size then none
    else if first % size ≠ 0 then
      let stop := (first / size + 1) * size
      some (stop - 1, stop)
    else if last % size ≠ size - 1 then
      let start := last / size * size
      some (start - 1, start)
    else none
  if first < 0xE000 ∧ 0xD7FF < last then some (0xD7FF, 0xE000)
  else
    (((((atLength 0x7F).or (atLength 0x7FF)).or (atLength 0xFFFF)).or
      (if last < 0x80 then none else atBlock 64)).or
      (if last < 0x80 then none else atBlock 4096)).or
      (if last < 0x80 then none else atBlock 262144)

/-- The pieces of a range, each by its range of bytes for every place. Ten kinds of cuts can lie inside of
one another, each of them once. -/
def byteRangesWithin : Nat → Nat → Nat → List (List (Nat × Nat))
  | fuel, first, last =>
    if last < first then []
    else
      match fuel, cut? first last with
      | fuel + 1, some (stop, start) => byteRangesWithin fuel first stop ++ byteRangesWithin fuel start last
      | _, _ => [(utf8Bytes first).zip (utf8Bytes last)]

def Ranges.byteRanges (r : Ranges) : List (List (Nat × Nat)) :=
  r.toList.flatMap fun (first, last) => byteRangesWithin 10 first last

end RecordSync.Unicode
