import PagedQuery.View.Basic
import PagedQuery.View.Sorter

/-!
# Views of lists

A view of a list of records. It collects a condition and a sort key, and applies them
when it is read: the records that satisfy the condition, in the order of the list, sorted
if there is a sort key. The number of records is known without sorting them.

## Main definitions

* `ListView`: a list of records with the condition and the sort key collected so far.
* `ListView.matching`: the records that satisfy the condition.
* `ListView.shown`: the same in the order in force.
-/

namespace PagedQuery

/-- A list of records with a condition and a sort key on it. -/
structure ListView (ρ : Type) where
  /-- What the records are sorted with. -/
  sorter : Sorter ρ
  schema : Schema ρ
  /-- All records. -/
  records : List ρ
  /-- The conjunction of the restrictions so far. -/
  condition : Option Condition
  /-- The sort key in force. -/
  key : Option SortKey

namespace ListView

variable {ρ : Type}

/-- All records in the order of the list. -/
def of (sorter : Sorter ρ) (schema : Schema ρ) (records : List ρ) : ListView ρ :=
  ⟨sorter, schema, records, none, none⟩

variable (view : ListView ρ)

/-- Restricts the view further. -/
def restrict (c : Condition) : ListView ρ :=
  { view with condition := some (match view.condition with
      | none => c
      | some before => before.and c) }

/-- Replaces the sort key. -/
def sort (key : SortKey) : ListView ρ := { view with key := some key }

/-- Holds of the records that satisfy the condition. -/
def keeps (r : ρ) : Bool := view.condition.all fun c => c.holds view.schema r

/-- The records that satisfy the condition, in the order of the list. -/
def matching : List ρ := view.records.filter view.keeps

/-- The records that satisfy the condition, in the order in force, unless sorting them
breaks off. -/
def shown : Option (List ρ) :=
  match view.key with
  | none => some view.matching
  | some key => view.sorter.sort? (key.compareRecords view.schema) view.matching

/-- The number of records shown. -/
def count : Nat := view.matching.length

/-- The next `take` records after the first `skip`. All records are sorted for it. -/
def window (skip take : Nat) : Option (List ρ) :=
  view.shown.map fun rows => (rows.drop skip).take take

instance : View (ListView ρ) ρ ρ where
  schema := schema
  restrict := restrict
  sort := sort
  count := count
  window := window

/-- Sorting neither adds nor loses a record. -/
theorem length_of_shown {rows : List ρ} (h : view.shown = some rows) :
    rows.length = view.count := by
  unfold shown at h
  split at h
  · exact congrArg List.length (Option.some.inj h).symm
  · exact (view.sorter.perm_of_sort? h).length_eq

end ListView

end PagedQuery
