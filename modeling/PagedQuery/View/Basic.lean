import PagedQuery.Condition.Basic
import PagedQuery.View.SortKey

/-!
# Views

A view shows records that can be restricted and sorted without being read. Only counting
the records and taking a window of them read it.

## Main definitions

* `View σ ρ ι`: the operations of a view of type `σ` over records of type `ρ`, read as
  items of type `ι`.
-/

namespace PagedQuery

/-- The operations of a view. -/
class View (σ : Type) (ρ ι : outParam Type) where
  /-- The fields that conditions and sort keys refer to. -/
  schema : σ → Schema ρ
  /-- Shows only the records that also satisfy a condition. -/
  restrict : σ → Condition → σ
  /-- Shows the records in another order, whatever their order was. -/
  sort : σ → SortKey → σ
  /-- The number of records shown. -/
  count : σ → Nat
  /-- The next `take` records after the first `skip`, unless reading them breaks off. -/
  window : σ → (skip take : Nat) → Option (List ι)

end PagedQuery
