import PagedQuery.Record.Schema

/-!
# Sort keys

A sort key orders records by one field in one direction. Missing values and NaN come
last in both directions; the direction only reverses the order of the values before
them.

## Main definitions

* `Direction`: ascending or descending.
* `SortKey`: a field and a direction; `compare?` compares two values, `compareRecords`
  two records.
-/

namespace PagedQuery

/-- A direction to sort in. -/
inductive Direction where
  /-- The smallest first. -/
  | asc
  /-- The largest first. -/
  | desc
  deriving DecidableEq

namespace Direction

/-- An order seen in a direction. -/
def apply : Direction → Ordering → Ordering
  | asc, o => o
  | desc, o => o.swap

/-- The name of a direction. -/
def name : Direction → String
  | asc => "asc"
  | desc => "desc"

end Direction

/-- A field to sort by, in a direction. -/
structure SortKey where
  field : String
  direction : Direction
  deriving DecidableEq

namespace SortKey

variable {ρ : Type}

/-- The order of two values of the field, absent between values of two kinds. -/
def compare? (key : SortKey) (a b : FieldValue) : Option Ordering :=
  if a.comesLast || b.comesLast then some (compare a.comesLast b.comesLast)
  else (a.compare? b).map key.direction.apply

/-- The order of two records. Records whose values have no order count as equal. -/
def compareRecords (schema : Schema ρ) (key : SortKey) (a b : ρ) : Ordering :=
  (key.compare? (schema.valueOf key.field a) (schema.valueOf key.field b)).getD .eq

/-- A sort key as text. -/
def display (key : SortKey) : String := key.field ++ " " ++ key.direction.name

end SortKey

end PagedQuery
