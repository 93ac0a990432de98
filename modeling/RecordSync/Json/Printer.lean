import RecordSync.Json.Basic

/-!
# Compact JSON text

Values are written without blanks. In a text, only quotes, backslashes and control characters are
escaped.
-/

set_option autoImplicit false

namespace RecordSync

namespace Json

def hexDigit (n : Nat) : Char := (Nat.toDigits 16 n).headD '0'

def escapeChar (c : Char) : List Char :=
  match c with
  | '"' => ['\\', '"']
  | '\\' => ['\\', '\\']
  | '\n' => ['\\', 'n']
  | '\r' => ['\\', 'r']
  | '\t' => ['\\', 't']
  | '\x08' => ['\\', 'b']
  | '\x0c' => ['\\', 'f']
  | c =>
    if c.toNat < 32 then ['\\', 'u', '0', '0', hexDigit (c.toNat / 16), hexDigit (c.toNat % 16)]
    else [c]

def quote (s : String) : String := String.ofList ('"' :: s.toList.flatMap escapeChar ++ ['"'])

mutual

def pieces : Json → List String → List String
  | .null, rest => "null" :: rest
  | .bool b, rest => (if b then "true" else "false") :: rest
  | .num n, rest => n.text :: rest
  | .str s, rest => quote s :: rest
  | .arr items, rest => "[" :: itemPieces true items ("]" :: rest)
  | .obj fields, rest => "\x7b" :: fieldPieces true fields ("\x7d" :: rest)

def itemPieces (first : Bool) : List Json → List String → List String
  | [], rest => rest
  | j :: items, rest => (if first then "" else ",") :: pieces j (itemPieces false items rest)

def fieldPieces (first : Bool) : List (String × Json) → List String → List String
  | [], rest => rest
  | (k, j) :: fields, rest =>
    (if first then "" else ",") :: quote k :: ":" :: pieces j (fieldPieces false fields rest)

end

def text (j : Json) : String := String.join (pieces j [])

end Json

end RecordSync
