import Mathlib.Algebra.Ring.Nat
import RecordSync.Proofs.Except
import RecordSync.Proofs.Provider.Selection

/-!
# Pages

The pages of one size, put together in their order, are what is found without pages. Every page is cut anew from the rows
that are sorted and filtered for it, so this is about where pages begin and end: none repeats a row of the one before it,
none leaves out a row, and those behind the last row are empty.
-/

set_option autoImplicit false

namespace RecordSync

theorem flatMap_pages {α : Type} (rows : List α) (size count : Nat) :
    (List.range count).flatMap (fun i => (rows.drop (i * size)).take size) = rows.take (count * size) := by
  induction count with
  | zero => simp
  | succ count ih =>
    rw [List.range_succ, List.flatMap_append, ih, List.flatMap_singleton, Nat.succ_mul, List.take_add]

theorem page_of_number {α : Type} (rows : List α) {size : Nat} (pos : 0 < size) (i : Nat) :
    Rows.page (some (i + 1)) (some size) rows = (rows.drop (i * size)).take size := by
  simp [Rows.page, Nat.ne_of_gt pos]

namespace FetchParams

def unpaged (params : FetchParams) : FetchParams := { params with page := none, pageSize := none }

def onPage (params : FetchParams) (number size : Nat) : FetchParams :=
  { params with page := some number, pageSize := some size }

def filterInput (params : FetchParams) : FilterInput := (params.filter.map FilterInput.group).getD .absent

end FetchParams

namespace Rows

def found (r : Rows) (params : FetchParams) : Except QueryError (List Entity) :=
  filterRows (orderRows r.entities (.ofStored params.sort) .asc) params.filterInput .empty

theorem select_eq_found (r : Rows) (params : FetchParams) : r.select params =
    match r.found params with
    | .error cause => .error (.query cause)
    | .ok found => .ok { data := page params.page params.pageSize found, total := some found.length, extra := [] } := by
  rw [select, found, filterRows, FetchParams.filterInput]
  cases ((params.filter.map FilterInput.group).getD .absent).compile .empty with
  | error cause => rfl
  | ok test => cases params.sort <;> rfl

theorem exists_kept {r : Rows} {params : FetchParams} {found : List Entity} (succeeds : r.found params = .ok found) :
    ∃ kept, filterRows r.entities params.filterInput .empty = .ok kept ∧ found.length = kept.length := by
  obtain ⟨test, compiled, result⟩ := ok_of_bind succeeds
  cases result
  refine ⟨_, by rw [filterRows, compiled]; rfl, ?_⟩
  exact ((perm_orderRows r.entities (.ofStored params.sort) .asc).filter _).length_eq

theorem found_of_unpaged {r : Rows} {params : FetchParams} {whole : Collection}
    (succeeds : r.select params.unpaged = .ok whole) :
    r.found params = .ok whole.data ∧ whole.total = some whole.data.length ∧ whole.extra = [] := by
  rw [select_eq_found, show r.found params.unpaged = r.found params from rfl] at succeeds
  cases all : r.found params with
  | error cause =>
    rw [all] at succeeds
    cases succeeds
  | ok found =>
    rw [all] at succeeds
    cases succeeds
    exact ⟨rfl, rfl, rfl⟩

/-- A page is a part of what is found without pages, and reports the same total. -/
theorem select_onPage {r : Rows} {params : FetchParams} {whole : Collection}
    (succeeds : r.select params.unpaged = .ok whole) {size : Nat} (pos : 0 < size) (i : Nat) :
    r.select (params.onPage (i + 1) size) = .ok { whole with data := (whole.data.drop (i * size)).take size } := by
  obtain ⟨all, total, extra⟩ := found_of_unpaged succeeds
  rw [select_eq_found, show r.found (params.onPage (i + 1) size) = r.found params from rfl, all, total, extra,
    ← page_of_number whole.data pos]
  rfl

end Rows

theorem pageStart_lt {number size : Nat} (numberFits : number < 2 ^ 32) (sizeFits : size < 2 ^ 32) :
    (number - 1) * size < 2 ^ 64 := by
  have below := Nat.mul_le_mul (show number - 1 ≤ 2 ^ 32 - 1 by omega) (show size ≤ 2 ^ 32 - 1 by omega)
  omega

/-- The pages of a fetch, one after the other, are the rows that are found without pages, as soon as there are enough of
them. Each reports as its total how many rows pass the filter, begins within 64 bits, and is empty behind the last row. -/
theorem Rows.pages_partition {r : Rows} {params : FetchParams} {whole : Collection}
    (succeeds : r.select params.unpaged = .ok whole) {size : Nat} (pos : 0 < size) (sizeFits : size < 2 ^ 32) :
    (∃ kept, filterRows r.entities params.filterInput .empty = .ok kept ∧ whole.total = some kept.length) ∧
      (∀ number, 0 < number → number < 2 ^ 32 → ∃ page, r.select (params.onPage number size) = .ok page ∧
        page.total = whole.total ∧ page.data = (whole.data.drop ((number - 1) * size)).take size ∧
        (number - 1) * size < 2 ^ 64 ∧ (whole.data.length ≤ (number - 1) * size → page.data = [])) ∧
      ∀ count, count < 2 ^ 32 → ∀ total, whole.total = some total → total ≤ count * size → ∃ pages,
        (List.range count).mapM (fun i => r.select (params.onPage (i + 1) size)) = .ok pages ∧
          pages.flatMap (·.data) = whole.data := by
  obtain ⟨all, total, -⟩ := found_of_unpaged succeeds
  refine ⟨?_, fun number first fits => ?_, fun count fits rows counted enough => ?_⟩
  · obtain ⟨kept, filtered, same⟩ := exists_kept all
    exact ⟨kept, filtered, same ▸ total⟩
  · obtain ⟨i, rfl⟩ := Nat.exists_eq_add_one_of_ne_zero (Nat.ne_of_gt first)
    refine ⟨_, select_onPage succeeds pos i, rfl, rfl, pageStart_lt fits sizeFits, fun behind => ?_⟩
    rw [Nat.add_sub_cancel] at behind
    simp [List.drop_eq_nil_of_le behind]
  · rw [total, Option.some.injEq] at counted
    subst counted
    refine ⟨(List.range count).map fun i => { whole with data := (whole.data.drop (i * size)).take size }, ?_, ?_⟩
    · simp only [select_onPage succeeds pos]
      exact List.mapM_pure
    · rw [List.flatMap_map, flatMap_pages, List.take_of_length_le enough]

def selectedParcels : FetchParams :=
  { filter := some ⟨.and, [.item (labelled ["s", "p", "q"])]⟩, sort := some [byGrade] }

/-- Three rows on pages of two: the second page holds one of them, and the third none. -/
theorem Rows.pages_partition_parcels : ∃ whole, Rows.select ⟨"label", parcels⟩ selectedParcels.unpaged = .ok whole ∧
    0 < 2 ∧ 2 < 2 ^ 32 ∧ whole.data = [parcel "b" "1" "p", parcel "a" "2" "q", parcel "a" "2" "s"] ∧
    (∃ page, Rows.select ⟨"label", parcels⟩ (selectedParcels.onPage 2 2) = .ok page ∧
      page.data = [parcel "a" "2" "s"]) ∧
    (∃ page, Rows.select ⟨"label", parcels⟩ (selectedParcels.onPage 3 2) = .ok page ∧ page.data = []) ∧
    ∃ pages, (List.range 2).mapM (fun i => Rows.select ⟨"label", parcels⟩ (selectedParcels.onPage (i + 1) 2)) =
      .ok pages ∧ pages.flatMap (·.data) = whole.data := by
  have succeeds : Rows.select ⟨"label", parcels⟩ selectedParcels.unpaged =
      .ok ⟨[parcel "b" "1" "p", parcel "a" "2" "q", parcel "a" "2" "s"], some 3, []⟩ := by
    cbv
  obtain ⟨-, single, together⟩ := Rows.pages_partition succeeds (show 0 < 2 by decide) (by decide)
  obtain ⟨second, fetched, -, cut, -⟩ := single 2 (by decide) (by decide)
  obtain ⟨third, fetched', -, -, -, behind⟩ := single 3 (by decide) (by decide)
  exact ⟨_, succeeds, by decide, by decide, rfl, ⟨second, fetched, cut⟩, ⟨third, fetched', behind (by decide)⟩,
    together 2 (by decide) 3 rfl (by decide)⟩

end RecordSync
