/-!
# Sorting by a comparison

Records are sorted by a comparison that is made for two of them at a time. If the
comparison is consistent, the sorted list is the one stable sort there is. If it is not,
the elements may end up in any order, and the sort may break off without a result.

## Main definitions

* `sortedBy cmp l`: the elements of `l` sorted stably.
* `Consistent cmp l`: `cmp` is a total preorder of the elements of `l`.
* `Sorter α`: a sort of lists over `α`, with what may be relied on.
* `Sorter.merge`: the merge sort, which never breaks off.
-/

namespace PagedQuery

variable {α : Type}

/-- The elements of a list in the order of a comparison. Those that it does not tell apart are as
they are in the list. -/
def sortedBy (cmp : α → α → Ordering) (l : List α) : List α :=
  l.mergeSort fun a b => cmp a b != .gt

/-- Holds if the comparison is a total preorder of the elements of the list. -/
structure Consistent (cmp : α → α → Ordering) (l : List α) : Prop where
  eq_swap : ∀ a ∈ l, ∀ b ∈ l, cmp b a = (cmp a b).swap
  trans : ∀ a ∈ l, ∀ b ∈ l, ∀ c ∈ l, cmp a b ≠ .gt → cmp b c ≠ .gt → cmp a c ≠ .gt

/-- A sort of lists by a comparison. -/
structure Sorter (α : Type) where
  /-- The sorted list, unless the sort breaks off. -/
  sort? : (α → α → Ordering) → List α → Option (List α)
  /-- No element is added and none is lost. -/
  perm_of_sort? : ∀ {cmp : α → α → Ordering} {l sorted : List α},
    sort? cmp l = some sorted → sorted.Perm l
  /-- By a consistent comparison the list is sorted stably. -/
  sort?_of_consistent : ∀ {cmp : α → α → Ordering} {l : List α}, Consistent cmp l →
    sort? cmp l = some (sortedBy cmp l)

/-- The merge sort gives a result for every comparison. -/
def Sorter.merge : Sorter α where
  sort? cmp l := some (sortedBy cmp l)
  perm_of_sort? h := Option.some.inj h ▸ List.mergeSort_perm _ _
  sort?_of_consistent _ := rfl

end PagedQuery
