import PagedQuery.Paging.FilterOutcome
import PagedQuery.Paging.Pager
import PagedQuery.Request.PageRequest
import PagedQuery.Request.Refusal
import PagedQuery.View.Basic

/-!
# Narrowing and sorting views

A pager applies the filters of a request to a view. The list of filters is checked as a
whole before any of it is compiled; after that nothing can fail.

## Main definitions

* `Pager.narrow`: a view restricted by a list of filters.
* `Pager.search`: a view restricted by a search for words in fields.
* `sortAs`: a view sorted as a request asks.
-/

namespace PagedQuery

/-- Refuses a list of filters of which one lacks a part. -/
def checkFilters (filters : List Filter) : Except Refusal Unit :=
  match firstIncomplete? filters with
  | some (index, part) => .error (.incompleteFilter index part)
  | none => .ok ()

section Views

variable {σ ρ ι : Type} [View σ ρ ι]

/-! ## Sorting -/

/-- The view sorted as a request asks. Without a sorting, without a direction, or for a
field that the schema does not have, the view stays as it is. -/
def sortAs (view : σ) : Option SortRequest → Logged σ
  | none => pure view
  | some sort =>
    match sort.direction with
    | none => do
      report (.noDirection sort.field)
      pure view
    | some direction =>
      match (View.schema view).lookup? (some sort.field) with
      | none => do
        report (.unknownSortField sort.field)
        pure view
      | some field => do
        let key : SortKey := ⟨field.name, direction⟩
        note (.sort key)
        pure (View.sort view key)

/-- The view sorted by a field, the smallest value first. -/
def ascendingBy (view : σ) (field : String) : Logged σ := sortAs view (some ⟨field, some .asc⟩)

/-- The view sorted by a field, the largest value first. -/
def descendingBy (view : σ) (field : String) : Logged σ := sortAs view (some ⟨field, some .desc⟩)

/-! ## Narrowing -/

/-- The view restricted by a condition, if there is one. -/
def restrictBy (view : σ) : Option Condition → Logged σ
  | none => pure view
  | some c => do
    note (.restrict c)
    pure (View.restrict view c)

namespace Pager

variable (pager : Pager)

/-- Compiles a list of filters for a view. -/
def compile (view : σ) (filters : List Filter) : Logged (Option Condition) :=
  Filter.compileAll (View.schema view) pager.parsers pager.engine pager.settings.policy filters

/-- The view restricted by filters that have been checked. -/
def narrowChecked (view : σ) (filters : List Filter) : Logged σ := do
  restrictBy view (← pager.compile view filters)

/-- The view restricted by a list of filters. -/
def narrow (view : σ) (filters : List Filter) : Except Refusal (Logged σ) :=
  (checkFilters filters).map fun _ => pager.narrowChecked view filters

/-- The searches for every word in one field. -/
def searches (field : String) (words : List String) (place : Placement) (connector : Connector) :
    List Filter :=
  words.map fun word => ⟨some field, some word, .search place, connector⟩

/-- The view restricted by searches for every word in every field. The searches of one
field are joined by the connector, and so are the fields. -/
def search (view : σ) (fields words : List String) (place : Placement) (connector : Connector) :
    Except Refusal (Logged σ) :=
  let groups := fields.map fun field => searches field words place connector
  (checkFilters groups.flatten).map fun _ => do
    let perField ← groups.mapM fun group => do
      let condition ← pager.compile view group
      pure (condition, connector)
    restrictBy view (Condition.joinAll pager.settings.policy perField)

end Pager

/-! ## By one comparison -/

section

variable (engine : Regex.Engine)

/-- The records whose field equals a text. -/
def keepEqual (view : σ) (field value : String) : Except Refusal (Logged σ) :=
  (Pager.standard engine).narrow view [.of field .equals value]

/-- The records whose field differs from a text. -/
def keepDifferent (view : σ) (field value : String) : Except Refusal (Logged σ) :=
  (Pager.standard engine).narrow view [.of field .notEquals value]

/-- The records whose field contains a text in the given place. -/
def keepLike (view : σ) (field value : String) (place : Placement) : Except Refusal (Logged σ) :=
  (Pager.standard engine).narrow view [.of field (.search place) value]

end

end Views

end PagedQuery
