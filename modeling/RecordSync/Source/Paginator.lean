import RecordSync.Provider.Key
import RecordSync.Settings.Basic

/-!
# Paginators

A paginator says which page of a collection is fetched: by its number, by a cursor, or not at all.
-/

set_option autoImplicit false

namespace RecordSync

inductive PaginatorOptions where
  | disabled
  | pages (page pageSize : Option Nat)
  | cursored (cursor : Option Cursor) (pageSize : Option Nat)

inductive Paginator where
  | disabled
  | pages (page pageSize : Nat)
  | cursored (cursor : Option Cursor) (pageSize : Nat)
  deriving DecidableEq, Repr

namespace Paginator

def ofOptions (options : PaginatorOptions) (settings : PaginationSettings) : Paginator :=
  match options with
  | .disabled => .disabled
  | .pages page pageSize => .pages (page.getD 1) (pageSize.getD settings.defaultPageSize)
  | .cursored cursor pageSize => .cursored cursor (pageSize.getD settings.defaultPageSize)

def isEnabled : Paginator → Bool
  | .disabled => false
  | .pages _ _ => true
  | .cursored _ _ => true

def page? : Paginator → Option Nat
  | .pages page _ => some page
  | _ => none

def pageSize? : Paginator → Option Nat
  | .disabled => none
  | .pages _ pageSize => some pageSize
  | .cursored _ pageSize => some pageSize

def cursor? : Paginator → Option Cursor
  | .cursored cursor _ => cursor
  | _ => none

def withPage? : Paginator → Nat → Option Paginator
  | .pages _ pageSize, page => some (.pages page pageSize)
  | _, _ => none

theorem page?_of_withPage? {p q : Paginator} {page : Nat} (h : p.withPage? page = some q) :
    q.page? = some page ∧ q.pageSize? = p.pageSize? := by
  cases p <;> simp_all [withPage?]
  subst h
  exact ⟨rfl, rfl⟩

def withPageSize? : Paginator → Nat → Option Paginator
  | .disabled, _ => none
  | .pages page _, pageSize => some (.pages page pageSize)
  | .cursored cursor _, pageSize => some (.cursored cursor pageSize)

def withCursor? : Paginator → Option Cursor → Option Paginator
  | .cursored _ pageSize, cursor => some (.cursored cursor pageSize)
  | _, _ => none

end Paginator

inductive PaginatorCommand where
  | setPage (page : Nat)
  | setPageSize (pageSize : Nat)
  | setCursor (cursor : Option Cursor)

namespace Paginator

def perform? (p : Paginator) : PaginatorCommand → Option Paginator
  | .setPage page => p.withPage? page
  | .setPageSize pageSize => p.withPageSize? pageSize
  | .setCursor cursor => p.withCursor? cursor

def perform (p : Paginator) (command : PaginatorCommand) : Bool × Paginator :=
  match p.perform? command with
  | some p => (true, p)
  | none => (false, p)

end Paginator

end RecordSync
