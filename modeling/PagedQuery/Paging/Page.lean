/-!
# Pages

One page of rows, with its place among the pages.

## Main definitions

* `Page`: a page of rows.
* `Page.hasNext`, `Page.hasPrevious`: whether there are pages on either side.
* `Page.map`: a page with each row replaced.
* `pagesFor rowCount size`: the number of pages that rows fill.
-/

namespace PagedQuery

/-- One page of rows. -/
structure Page (ι : Type) where
  /-- The number of this page; the first is 1. -/
  number : Nat
  /-- The number of rows on every page but the last. -/
  size : Nat
  /-- The number of rows on all pages together. -/
  rowCount : Nat
  /-- The number of pages. -/
  pageCount : Nat
  /-- The rows of this page. -/
  rows : List ι
  deriving DecidableEq

namespace Page

variable {ι κ : Type}

/-- Holds of a page before the last. -/
def hasNext (p : Page ι) : Bool := p.number < p.pageCount

/-- Holds of a page after the first. -/
def hasPrevious (p : Page ι) : Bool := 1 < p.number

/-- The same page with each row replaced. -/
def map (f : ι → κ) (p : Page ι) : Page κ :=
  ⟨p.number, p.size, p.rowCount, p.pageCount, p.rows.map f⟩

end Page

/-- The number of pages for a number of rows: as many as are needed, and none for no
rows. -/
def pagesFor (rowCount size : Nat) : Nat := (rowCount + size - 1) / size

end PagedQuery
