import PagedQuery.Paging.Narrow
import PagedQuery.Paging.Page

/-!
# Fetching a page

A page is fetched in two steps. The numbers and the filters of the request are checked
first, without a look at the view. Then the view is narrowed and sorted, its records are
counted, and, if the page exists, its window is read. Reading the window may break off,
and then there is no outcome at all.

## Main definitions

* `Pager.check`: the checks that need no view.
* `Pager.fetch`: the page that a request asks for, or the reason to refuse it, if reading
  the page does not break off.
-/

namespace PagedQuery

/-- A positive argument. -/
def positive (argument : PageArgument) (value : Int64) : Except Refusal Nat :=
  if value.toInt < 1 then .error (.badArgument argument (.notPositive value.toInt))
  else .ok value.toInt.toNat

namespace Pager

variable (pager : Pager)

/-- Refuses a page size above the largest allowed. -/
def checkBound (pageSize : Nat) : Except Refusal Unit :=
  match pager.settings.maxPageSize with
  | none => .ok ()
  | some bound =>
    if bound.toNat < pageSize then
      .error (.badArgument .pageSize (.aboveBound bound.toNat pageSize))
    else .ok ()

/-- The page number and the page size of a request, if nothing is wrong with it so far:
the page number, the page size, its bound and the filters are checked in this order. -/
def check (request : PageRequest) : Except Refusal (Nat × Nat) := do
  let page ← positive .page request.page
  let pageSize ← positive .pageSize request.pageSize
  pager.checkBound pageSize
  checkFilters request.filters
  pure (page, pageSize)

section Views

variable {σ ρ ι : Type} [View σ ρ ι]

/-- Counts the records of a view and reads one of its pages. -/
def readPage (view : σ) (page pageSize : Nat) :
    Logged (Option (Except Refusal (Page ι))) := do
  note .count
  let rowCount := View.count view
  let pageCount := pagesFor rowCount pageSize
  report (.pageNumbers page pageSize rowCount pageCount)
  if pageCount < page then
    pure (some (.error (.noSuchPage page pageCount)))
  else do
    let skip := (page - 1) * pageSize
    note (.window skip pageSize)
    pure ((View.window view skip pageSize).map fun rows =>
      .ok ⟨page, pageSize, rowCount, pageCount, rows⟩)

/-- The page that a request asks for, or the reason to refuse it. -/
def fetch (view : σ) (request : PageRequest) : Logged (Option (Except Refusal (Page ι))) :=
  match pager.check request with
  | .error e => pure (some (.error e))
  | .ok (page, pageSize) => do
    let narrowed ← pager.narrowChecked view request.filters
    let sorted ← sortAs narrowed request.sort
    readPage sorted page pageSize

end Views

end Pager

end PagedQuery
