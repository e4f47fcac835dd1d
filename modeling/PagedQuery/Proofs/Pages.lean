import Mathlib.Algebra.Order.Floor.Div
import PagedQuery.Paging.Page

/-!
# The pages of a list of rows

Rows are handed out a page at a time: page `i + 1` skips the rows of `i` pages and takes
the next `size`. As many pages as the rows need give every row once and in order, and
only the last of them may be short.

## Main definitions

* `pagesOf rows size`: the pages of a list of rows.
* `Paginates rows size pages`: what it means that `pages` are the pages of `rows`.
-/

namespace PagedQuery

variable {ι : Type}

/-! ## The number of pages -/

/-- The number of pages is the quotient of rows and size, rounded up. -/
theorem pagesFor_eq_ceilDiv (n size : Nat) : pagesFor n size = n ⌈/⌉ size := rfl

/-- A page is beyond the last exactly if the pages before it have room for all rows. -/
theorem pagesFor_le_iff {n size k : Nat} (h : 0 < size) : pagesFor n size ≤ k ↔ n ≤ size * k :=
  ceilDiv_le_iff_le_mul h

/-- There is a page after `k` pages exactly if these leave a row over. -/
theorem lt_pagesFor_iff {n size k : Nat} (h : 0 < size) : k < pagesFor n size ↔ size * k < n := by
  rw [← not_le, pagesFor_le_iff h, not_le]

/-! ## The rows on the pages -/

/-- The rows on the page after `i` pages. -/
def rowsAfter (rows : List ι) (size i : Nat) : List ι := (rows.drop (i * size)).take size

/-- The first `k` pages hold the first `k * size` rows. -/
theorem flatten_rowsAfter (rows : List ι) (size k : Nat) :
    ((List.range k).map (rowsAfter rows size)).flatten = rows.take (k * size) := by
  induction k with
  | zero => simp
  | succ k ih =>
    have hk : (k + 1) * size = k * size + size := Nat.succ_mul k size
    rw [List.range_succ, List.map_append, List.flatten_append, ih, hk, List.take_add]
    simp [rowsAfter]

/-- A page before the last is full. -/
theorem length_rowsAfter_of_lt {rows : List ι} {size i : Nat} (h : 0 < size)
    (hi : i + 1 < pagesFor rows.length size) : (rowsAfter rows size i).length = size := by
  have hlt : size * (i + 1) < rows.length := (lt_pagesFor_iff h).1 hi
  have hsum : size * (i + 1) = i * size + size := by rw [Nat.mul_succ, Nat.mul_comm]
  rw [rowsAfter, List.length_take, List.length_drop]
  omega

/-- A page that exists has a row, and no more than `size` of them. -/
theorem length_rowsAfter_mem {rows : List ι} {size i : Nat} (h : 0 < size)
    (hi : i < pagesFor rows.length size) :
    1 ≤ (rowsAfter rows size i).length ∧ (rowsAfter rows size i).length ≤ size := by
  have hlt : i * size < rows.length := by
    rw [Nat.mul_comm]
    exact (lt_pagesFor_iff h).1 hi
  rw [rowsAfter, List.length_take, List.length_drop]
  omega

/-! ## The pages -/

/-- The page after `i` pages. -/
def pageAfter (rows : List ι) (size i : Nat) : Page ι :=
  ⟨i + 1, size, rows.length, pagesFor rows.length size, rowsAfter rows size i⟩

/-- The pages of a list of rows. -/
def pagesOf (rows : List ι) (size : Nat) : List (Page ι) :=
  (List.range (pagesFor rows.length size)).map (pageAfter rows size)

@[simp] theorem length_pagesOf (rows : List ι) (size : Nat) :
    (pagesOf rows size).length = pagesFor rows.length size := by simp [pagesOf]

@[simp] theorem getElem_pagesOf (rows : List ι) (size i : Nat)
    (h : i < (pagesOf rows size).length) : (pagesOf rows size)[i] = pageAfter rows size i := by
  simp [pagesOf]

/-- The pages are those of the rows: as many as are needed, which together give the rows
in order, each with its own place among them, and only the last of which may be short. -/
structure Paginates (rows : List ι) (size : Nat) (pages : List (Page ι)) : Prop where
  length_eq : pages.length = rows.length ⌈/⌉ size
  flatten_rows : (pages.map Page.rows).flatten = rows
  number_eq : ∀ (i : Nat) (h : i < pages.length), pages[i].number = i + 1
  size_eq : ∀ p ∈ pages, p.size = size
  rowCount_eq : ∀ p ∈ pages, p.rowCount = rows.length
  pageCount_eq : ∀ p ∈ pages, p.pageCount = pages.length
  full : ∀ p ∈ pages, p.number < pages.length → p.rows.length = size
  last : ∀ p ∈ pages, p.number = pages.length → 1 ≤ p.rows.length ∧ p.rows.length ≤ size
  hasNext_iff : ∀ p ∈ pages, p.hasNext = true ↔ p.number < pages.length
  hasPrevious_iff : ∀ p ∈ pages, p.hasPrevious = true ↔ 1 < p.number

/-- A page of the list is one of the pages that the rows need. -/
theorem mem_pagesOf {rows : List ι} {size : Nat} {p : Page ι} :
    p ∈ pagesOf rows size ↔ ∃ i < pagesFor rows.length size, pageAfter rows size i = p := by
  simp [pagesOf]

/-- Cutting a list of rows into pages loses, doubles and moves no row. -/
theorem paginates_pagesOf (rows : List ι) {size : Nat} (h : 0 < size) :
    Paginates rows size (pagesOf rows size) where
  length_eq := length_pagesOf rows size
  flatten_rows := by
    have hall : rows.length ≤ pagesFor rows.length size * size := by
      rw [Nat.mul_comm]
      exact (pagesFor_le_iff h).1 le_rfl
    have hrows : (pagesOf rows size).map Page.rows
        = (List.range (pagesFor rows.length size)).map (rowsAfter rows size) := by
      simp [pagesOf, pageAfter]
    rw [hrows, flatten_rowsAfter, List.take_of_length_le hall]
  number_eq i hi := by rw [getElem_pagesOf]; rfl
  size_eq p hp := by
    obtain ⟨i, _, rfl⟩ := mem_pagesOf.1 hp
    rfl
  rowCount_eq p hp := by
    obtain ⟨i, _, rfl⟩ := mem_pagesOf.1 hp
    rfl
  pageCount_eq p hp := by
    obtain ⟨i, _, rfl⟩ := mem_pagesOf.1 hp
    rw [length_pagesOf]; rfl
  full p hp hlt := by
    obtain ⟨i, _, rfl⟩ := mem_pagesOf.1 hp
    rw [length_pagesOf] at hlt
    exact length_rowsAfter_of_lt h hlt
  last p hp _ := by
    obtain ⟨i, hi, rfl⟩ := mem_pagesOf.1 hp
    exact length_rowsAfter_mem h hi
  hasNext_iff p hp := by
    obtain ⟨i, _, rfl⟩ := mem_pagesOf.1 hp
    rw [length_pagesOf]
    exact decide_eq_true_iff
  hasPrevious_iff p _ := decide_eq_true_iff

end PagedQuery
