import RecordSync.Json.Described
import RecordSync.Source.Paginator

/-!
# Paginators as data
-/

set_option autoImplicit false

namespace RecordSync

def Paginator.toJson (p : Paginator) : Json :=
  .obj [("cursor", .orNull (p.cursor?.map Cursor.toJson)), ("enabled", .bool p.isEnabled),
    ("page", .orNull (p.page?.map .ofNat)), ("pageSize", .orNull (p.pageSize?.map .ofNat))]

def Json.optionalField? {α : Type} (j : Json) (name : String) (read : Json → Option α) : Option (Option α) :=
  match j.field? name with
  | none => some none
  | some .null => some none
  | some value => (read value).map some

def PaginatorOptions.ofJson? (j : Json) : Option PaginatorOptions := do
  match j with
  | .null => return .pages none none
  | j =>
    let pageSize ← j.optionalField? "pageSize" Json.unsigned32?
    match j.field? "type" with
    | some (.str "disabled") => return .disabled
    | some (.str "page") => return .pages (← j.optionalField? "page" Json.unsigned32?) pageSize
    | some (.str "cursor") => return .cursored (← j.optionalField? "cursor" Cursor.ofJson?) pageSize
    | _ => none

def PaginatorCommand.ofJson? (kind : String) (j : Json) : Option (Option PaginatorCommand) :=
  let value := Json.orNull (j.field? "value")
  match kind with
  | "set_page" => some (value.unsigned32?.map .setPage)
  | "set_page_size" => some (value.unsigned32?.map .setPageSize)
  | "set_cursor" =>
    match value with
    | .null => some (some (.setCursor none))
    | value => some ((Cursor.ofJson? value).map fun c => .setCursor (some c))
  | _ => none

end RecordSync
