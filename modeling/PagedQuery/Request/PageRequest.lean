import PagedQuery.Request.Filter
import PagedQuery.View.SortKey

/-!
# Page requests

A request for one page: which page, how many rows a page has, and how to filter and sort
the rows. The numbers are signed, so that a request out of range can be represented and
refused.

## Main definitions

* `SortRequest`: the sorting that a request asks for.
* `PageRequest`: a request for a page.
* `PageRequest.of`, `withFilter`, `withFilters`, `sortedBy`: building a request.
-/

namespace PagedQuery

/-- A sorting by a field. Without a direction it asks for nothing. -/
structure SortRequest where
  field : String
  direction : Option Direction
  deriving DecidableEq

/-- A request for one page. -/
structure PageRequest where
  /-- The number of the page; the first is 1. -/
  page : Int64
  /-- The number of rows on a page. -/
  pageSize : Int64
  filters : List Filter
  sort : Option SortRequest
  deriving DecidableEq

namespace PageRequest

/-- The request for a page of all rows in their own order. -/
def of (page pageSize : Int64) : PageRequest := ⟨page, pageSize, [], none⟩

/-- Adds filters after those of the request. -/
def withFilters (request : PageRequest) (filters : List Filter) : PageRequest :=
  { request with filters := request.filters ++ filters }

/-- Adds a filter after those of the request. -/
def withFilter (request : PageRequest) (f : Filter) : PageRequest := request.withFilters [f]

/-- Replaces the sorting of the request. -/
def sortedBy (request : PageRequest) (sort : SortRequest) : PageRequest :=
  { request with sort := some sort }

end PageRequest

end PagedQuery
