import RecordSync.Json.Basic
import RecordSync.Text

/-!
# Paths into JSON values

A path is a list of keys. An object is entered by the name of a field, an array by the text of an index.
Reading and overwriting follow the same slots.
-/

set_option autoImplicit false

namespace RecordSync

abbrev Path := List String

namespace Path

def ofDotted (text : String) : Path := if text.isEmpty then [] else Text.split text '.'

def toDotted (path : Path) : String := ".".intercalate path

end Path

namespace Json

def child? : Json → String → Option Json
  | .obj fields, key => KeyMap.get? fields key
  | .arr items, key => (readIndex? key).bind (items[·]?)
  | _, _ => none

def withChild : Json → String → Json → Json
  | .obj fields, key, new => .obj (KeyMap.insert fields key new)
  | .arr items, key, new =>
    match readIndex? key with
    | some index => .arr (items.set index new)
    | none => .arr items
  | j, _, _ => j

def get? : Json → Path → Option Json
  | j, [] => some j
  | j, key :: rest => (j.child? key).bind (get? · rest)

def modify? (f : Json → Json) : Json → Path → Option Json
  | j, [] => some (f j)
  | j, key :: rest =>
    (j.child? key).bind fun member => (modify? f member rest).map (j.withChild key)

def replace? (j : Json) (path : Path) (new : Json) : Option Json := modify? (fun _ => new) j path

theorem get?_cons (j : Json) (key : String) (rest : Path) :
    j.get? (key :: rest) = (j.child? key).bind (get? · rest) := rfl

/-- A slot can be overwritten exactly when there is a value to be read. -/
theorem isSome_modify? (f : Json → Json) (j : Json) (path : Path) :
    (modify? f j path).isSome = (j.get? path).isSome := by
  induction path generalizing j with
  | nil => rfl
  | cons key rest ih =>
    simp only [modify?, get?]
    cases j.child? key with
    | none => rfl
    | some member => simp [ih]

end Json

end RecordSync
