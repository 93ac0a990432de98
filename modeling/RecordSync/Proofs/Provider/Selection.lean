import RecordSync.Proofs.Except
import RecordSync.Proofs.Provider.Rows
import RecordSync.Proofs.Query.Ordering

/-!
# Sorted and filtered

Rows that are sorted and then filtered are the rows that are filtered and then sorted, ties included, as long as they are
compared consistently. So nobody can tell in which order a provider does its work.
-/

set_option autoImplicit false

namespace RecordSync

def Rows.selectFilteringFirst (r : Rows) (params : FetchParams) : Outcome Collection := do
  let kept ← (filterRows r.entities ((params.filter.map FilterInput.group).getD .absent) .empty).mapError .query
  let found := orderRows kept (.ofStored params.sort) .asc
  return { data := page params.page params.pageSize found, total := some found.length, extra := [] }

theorem Rows.select_eq_selectFilteringFirst {r : Rows} {params : FetchParams}
    (consistent : (SortInput.ofStored params.sort).ConsistentIn .asc r.entities) :
    r.select params = r.selectFilteringFirst params := by
  rw [select, selectFilteringFirst, filterRows]
  cases ((params.filter.map FilterInput.group).getD .absent).compile .empty with
  | error cause => rfl
  | ok test =>
    show _ = Except.ok _
    rw [orderRows_filter consistent]
    cases params.sort <;> rfl

/-- Ordering rows commutes with filtering them, for any request to sort that compares the rows consistently and any
filter that can be used. Rows in memory are sorted before they are filtered, and answer every fetch as if they were filtered
before. -/
theorem filterRows_orderRows :
    (∀ [PatternEngine] {α : Type} [Record α] (rows kept : List α) (sort : SortInput) (dir : SortDir)
        (input : FilterInput) (table : OperatorTable), sort.ConsistentIn dir rows →
        filterRows rows input table = .ok kept →
        filterRows (orderRows rows sort dir) input table = .ok (orderRows kept sort dir)) ∧
      ∀ (r : Rows) (params : FetchParams), (SortInput.ofStored params.sort).ConsistentIn .asc r.entities →
        r.select params = r.selectFilteringFirst params := by
  constructor
  · intro _ α _ rows kept sort dir input table consistent succeeds
    obtain ⟨test, compiled, result⟩ := ok_of_bind succeeds
    cases result
    rw [filterRows, compiled, orderRows_filter consistent]
    rfl
  · exact fun r params consistent => Rows.select_eq_selectFilteringFirst consistent

def labelled (labels : List String) : FilterItem :=
  ⟨["label"], some (.builtin .isIn), .arr (labels.map Json.str), false⟩

theorem filterRows_orderRows_parcels :
    filterRows parcels (.item (labelled ["s", "p", "q"])) .empty =
        .ok [parcel "b" "1" "p", parcel "a" "2" "q", parcel "a" "2" "s"] ∧
      filterRows (orderRows parcels (.many [byKind, byGrade]) .desc) (.item (labelled ["s", "p", "q"])) .empty =
        .ok (orderRows [parcel "b" "1" "p", parcel "a" "2" "q", parcel "a" "2" "s"] (.many [byKind, byGrade]) .desc) ∧
      Rows.select ⟨"label", parcels⟩ { sort := some [byKind, byGrade], page := some 1, pageSize := some 3 } =
        Rows.selectFilteringFirst ⟨"label", parcels⟩
          { sort := some [byKind, byGrade], page := some 1, pageSize := some 3 } := by
  have consistent (dir : SortDir) : (SortInput.many [byKind, byGrade]).ConsistentIn dir parcels := by
    intro ds listed
    cases listed
    exact parcels_consistent dir
  have kept : filterRows parcels (.item (labelled ["s", "p", "q"])) .empty =
      .ok [parcel "b" "1" "p", parcel "a" "2" "q", parcel "a" "2" "s"] := by
    rfl
  exact ⟨kept, filterRows_orderRows.1 _ _ _ _ _ _ (consistent .desc) kept, filterRows_orderRows.2 _ _ (consistent .asc)⟩

end RecordSync
