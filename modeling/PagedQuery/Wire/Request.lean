import PagedQuery.Paging.Page
import PagedQuery.Paging.Pager
import PagedQuery.Request.PageRequest
import PagedQuery.Wire.Names

/-!
# Requests and pages as JSON documents

The documents of filters, sortings, page requests, pages and settings. In all but the
settings, members that are no field are ignored.

## Main definitions

* Instances of `Wire` for `Filter`, `SortRequest`, `PageRequest`, `Settings` and `Page`.
-/

namespace PagedQuery

/-- Every part of a filter may be left out. -/
instance : Wire Filter where
  toJson f := .record [
    ("key", Wire.toJson f.key),
    ("value", Wire.toJson f.value),
    ("comparison", Wire.toJson f.comparison),
    ("connector", Wire.toJson f.connector)]
  ofJson? j :=
    match j.fieldsOf? .ignored ["key", "value", "comparison", "connector"] with
    | some [key, value, comparison, connector] => do
      let key ← optional? none key
      let value ← optional? none value
      let comparison ← optional? .nothing comparison
      let connector ← optional? .missing connector
      pure ⟨key, value, comparison, connector⟩
    | _ => none

/-- The direction of a sorting may be left out. -/
instance : Wire SortRequest where
  toJson sort := .record [
    ("field", Wire.toJson sort.field),
    ("dir", Wire.toJson sort.direction)]
  ofJson? j :=
    match j.fieldsOf? .ignored ["field", "dir"] with
    | some [field, direction] => do
      let field ← required? field
      let direction ← optional? none direction
      pure ⟨field, direction⟩
    | _ => none

/-- The filters and the sorting of a page request may be left out. -/
instance : Wire PageRequest where
  toJson request := .record [
    ("page", Wire.toJson request.page),
    ("pageSize", Wire.toJson request.pageSize),
    ("filters", Wire.toJson request.filters),
    ("ordering", Wire.toJson request.sort)]
  ofJson? j :=
    match j.fieldsOf? .ignored ["page", "pageSize", "filters", "ordering"] with
    | some [page, pageSize, filters, sort] => do
      let page ← required? page
      let pageSize ← required? pageSize
      let filters ← optional? [] filters
      let sort ← optional? none sort
      pure ⟨page, pageSize, filters, sort⟩
    | _ => none

/-- All settings may be left out, but none may be misspelt. -/
instance : Wire Settings where
  toJson settings := .record [
    ("max_page_size", Wire.toJson settings.maxPageSize),
    ("none_connector", Wire.toJson settings.policy)]
  ofJson? j :=
    match j.fieldsOf? .refused ["max_page_size", "none_connector"] with
    | some [maxPageSize, policy] => do
      let maxPageSize ← optional? none maxPageSize
      let policy ← optional? .conjoin policy
      pure ⟨maxPageSize, policy⟩
    | _ => none

/-- A count in the range of unsigned words. -/
def countOfJson? (j : Json) : Option Nat := (Wire.ofJson? j : Option UInt64).map UInt64.toNat

/-- The document of a count. -/
def countToJson (n : Nat) : Json := .integer n

/-- Every part of a page has to be there. -/
instance {ι : Type} [Wire ι] : Wire (Page ι) where
  toJson p := .record [
    ("currentPage", countToJson p.number),
    ("pageSize", countToJson p.size),
    ("rowCount", countToJson p.rowCount),
    ("pageCount", countToJson p.pageCount),
    ("results", Wire.toJson p.rows)]
  ofJson? j :=
    match j.fieldsOf? .ignored ["currentPage", "pageSize", "rowCount", "pageCount", "results"] with
    | some [number, size, rowCount, pageCount, rows] => do
      let number ← number.bind countOfJson?
      let size ← size.bind countOfJson?
      let rowCount ← rowCount.bind countOfJson?
      let pageCount ← pageCount.bind countOfJson?
      let rows ← required? rows
      pure ⟨number, size, rowCount, pageCount, rows⟩
    | _ => none

end PagedQuery
