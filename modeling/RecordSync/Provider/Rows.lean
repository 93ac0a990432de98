import RecordSync.Identity
import RecordSync.Provider.Basic

/-!
# Rows in memory

A provider that is a list of rows. Rows without a primary key receive a generated one.
-/

set_option autoImplicit false

namespace RecordSync

structure Rows where
  primary : String
  entities : List Entity

def Entity.withKey (entity : Entity) (primary : String) (ids : IdSupply) : Entity × IdSupply :=
  if Json.truthy (KeyMap.get? entity primary) then (entity, ids)
  else
    let (id, ids) := ids.next
    (KeyMap.insert entity primary (.str id), ids)

namespace Rows

def keyAll (primary : String) : List Entity → IdSupply → List Entity × IdSupply
  | [], ids => ([], ids)
  | entity :: rest, ids =>
    let (entity, ids) := entity.withKey primary ids
    let (rest, ids) := keyAll primary rest ids
    (entity :: rest, ids)

def ofEntities (primary : String) (entities : List Entity) (ids : IdSupply) : Rows × IdSupply :=
  let (entities, ids) := keyAll primary entities ids
  ({ primary, entities }, ids)

def hasKey (r : Rows) (key : PrimaryKey) (row : Entity) : Bool :=
  key.matchesValue (KeyMap.get? row r.primary)

def find? (r : Rows) (key : PrimaryKey) : Option Entity := r.entities.find? (r.hasKey key)

def page {α : Type} (number size : Option Nat) (rows : List α) : List α :=
  match number, size with
  | some number, some size =>
    if number = 0 || size = 0 then rows else (rows.drop ((number - 1) * size)).take size
  | _, _ => rows

theorem length_page_le {α : Type} {number size : Nat} (rows : List α) (hn : number ≠ 0) (hs : size ≠ 0) :
    (page (some number) (some size) rows).length ≤ size := by
  have cut : page (some number) (some size) rows = (rows.drop ((number - 1) * size)).take size := by
    simp [page, hn, hs]
  exact cut ▸ List.length_take_le size _

/-- The rows that are asked for: sorted, then filtered, then cut to the page. The total counts the rows on all
pages. -/
def select (r : Rows) (params : FetchParams) : Outcome Collection :=
  let sorted := match params.sort with
    | some ds => sortRows r.entities ds .asc
    | none => r.entities
  let input := (params.filter.map FilterInput.group).getD .absent
  match input.compile .empty with
  | .error cause => .error (.query cause)
  | .ok test =>
    let found := sorted.filter fun row => test (Record.lookup row)
    .ok { data := page params.page params.pageSize found, total := some found.length, extra := [] }

def call (r : Rows) (ids : IdSupply) : (request : Request) → Outcome request.Answer × Rows × IdSupply
  | .fetch params => (r.select (params.getD {}), r, ids)
  | .get key => (.ok (r.find? key), r, ids)
  | .create entity =>
    let (entity, ids) := entity.withKey r.primary ids
    (.ok entity, { r with entities := r.entities ++ [entity] }, ids)
  | .update key changes =>
    match r.find? key with
    | none => (.error (.notFound key), r, ids)
    | some row =>
      let merged := KeyMap.union row changes
      (.ok merged, { r with entities := r.entities.set (r.entities.findIdx (r.hasKey key)) merged }, ids)
  | .remove key =>
    match r.find? key with
    | none => (.error (.notFound key), r, ids)
    | some _ => (.ok (), { r with entities := r.entities.eraseP (r.hasKey key) }, ids)

end Rows

end RecordSync
