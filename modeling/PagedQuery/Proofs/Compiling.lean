import PagedQuery.Paging.Narrow
import PagedQuery.Proofs.Schemas

/-!
# The conditions that filters mean

A list of filters is compiled with a report, and a view is changed with one. Here the
report is set aside: what is left are the condition of a list of filters, the condition
of a search and the key of a sorting, each a function of the schema and the request
alone.

## Main definitions

* `Pager.conditionOf`, `Pager.searchCondition`: the condition of a list of filters and of
  a search.
* `SortRequest.key?`: the key that a sorting asks for, if its field is there.
-/

namespace PagedQuery

variable {ρ : Type}

/-! ## What becomes of a filter -/

namespace Filter

variable {schema : Schema ρ} {parsers : ParserTable} {engine : Regex.Engine} {f : Filter}

theorem outcome_of_unknown (h : ∀ field ∈ schema.fields, f.key ≠ some field.name) :
    f.outcome schema parsers engine = .dropped (.unknownKey (f.key.getD "")) := by
  rw [outcome, Schema.lookup?_eq_none_iff.2 h]

variable {field : Field ρ}

theorem outcome_of_unreadable (hfield : field ∈ schema.fields) (hkey : f.key = some field.name)
    (h : parsers.parse? (f.value.getD "") field.kind = none) :
    f.outcome schema parsers engine =
      .dropped (.unreadableValue field.name field.kind (f.value.getD "")) := by
  have hname : f.key.getD "" = field.name := by rw [hkey]; rfl
  simp only [outcome, Schema.lookup?_eq_some_iff.2 ⟨hfield, hkey⟩, h, hname]

/-- With its field found and its text read, the comparison of a filter is what is left. -/
theorem outcome_of_readable {literal : Scalar} (hfield : field ∈ schema.fields)
    (hkey : f.key = some field.name)
    (hparse : parsers.parse? (f.value.getD "") field.kind = some literal) :
    f.outcome schema parsers engine =
      comparisonOutcome engine field.name (f.value.getD "") field literal f.comparison := by
  have hname : f.key.getD "" = field.name := by rw [hkey]; rfl
  simp only [outcome, Schema.lookup?_eq_some_iff.2 ⟨hfield, hkey⟩, hparse, hname]

end Filter

/-- The key that a sorting asks for. It takes a direction and the name of a field. -/
def SortRequest.key? (schema : Schema ρ) (sort : SortRequest) : Option SortKey :=
  sort.direction.bind fun direction =>
    if ∃ f ∈ schema.fields, f.name = sort.field then some ⟨sort.field, direction⟩ else none

/-! ## Compiling without the report -/

/-- The values of a list of logged computations. -/
theorem Logged.value_mapM {α β : Type} (f : α → Logged β) (xs : List α) :
    (xs.mapM f).value = xs.map fun x => (f x).value := by
  induction xs with
  | nil => rfl
  | cons x xs ih =>
    rw [List.mapM_cons, List.map_cons, ← ih]
    rfl

/-- The journals of a list of logged computations, one after another. -/
theorem Logged.journal_mapM {α β : Type} (f : α → Logged β) (xs : List α) :
    (xs.mapM f).journal = xs.flatMap fun x => (f x).journal := by
  induction xs with
  | nil => rfl
  | cons x xs ih => simp [List.mapM_cons, ih]

/-- A list of filters is compiled to the join of their conditions. -/
theorem Filter.value_compileAll (schema : Schema ρ) (parsers : ParserTable)
    (engine : Regex.Engine) (policy : ConnectorPolicy) (filters : List Filter) :
    (compileAll schema parsers engine policy filters).value =
      Condition.joinAll policy
        (filters.map fun f => (f.condition? schema parsers engine, f.connector)) := by
  rw [compileAll, Logged.value_bind, Logged.value_mapM]
  rfl

namespace Pager

variable (pager : Pager)

/-- The condition that a list of filters means, if any of them means one. -/
def conditionOf (schema : Schema ρ) (filters : List Filter) : Option Condition :=
  Condition.joinAll pager.settings.policy
    (filters.map fun f => (f.condition? schema pager.parsers pager.engine, f.connector))

/-- The condition of a search: the conditions of the fields, joined by the connector. -/
def searchCondition (schema : Schema ρ) (fields words : List String) (place : Placement)
    (connector : Connector) : Option Condition :=
  Condition.joinAll pager.settings.policy
    (fields.map fun field =>
      (pager.conditionOf schema (searches field words place connector), connector))

section Views

variable {σ ι : Type} [View σ ρ ι] (view : σ)

theorem value_compile (filters : List Filter) :
    (pager.compile view filters).value = pager.conditionOf (View.schema view) filters :=
  Filter.value_compileAll ..

/-- Compiling filters makes no call to the view. -/
theorem calls_compile (filters : List Filter) :
    (pager.compile view filters).journal.calls = [] := by
  have hsilent : ∀ f ∈ filters,
      (f.compile (View.schema view) pager.parsers pager.engine).journal.calls = [] := by
    intro f _
    cases h : (f.outcome (View.schema view) pager.parsers pager.engine).event? <;>
      simp [Filter.compile, h, Journal.calls, Entry.call?]
  simp only [compile, Filter.compileAll, Logged.journal_bind, Logged.journal_mapM,
    Logged.journal_pure, List.append_nil, Journal.calls, List.filterMap_flatMap]
  exact List.flatMap_eq_nil_iff.2 hsilent

/-- Checked filters restrict the view by their condition. -/
theorem value_narrowChecked (filters : List Filter) :
    (pager.narrowChecked view filters).value =
      (restrictBy view (pager.conditionOf (View.schema view) filters)).value := by
  rw [narrowChecked, Logged.value_bind, value_compile]

/-- A search that is not refused restricts the view by its condition. -/
theorem search_eq_map (fields words : List String) (place : Placement) (connector : Connector) :
    (pager.search view fields words place connector).map Logged.value =
      (checkFilters (fields.map fun field => searches field words place connector).flatten).map
        fun _ => (restrictBy view
          (pager.searchCondition (View.schema view) fields words place connector)).value := by
  rw [search]
  cases checkFilters (fields.map fun field => searches field words place connector).flatten with
  | error e => rfl
  | ok _ =>
    simp only [Except.map, Logged.value_bind, Logged.value_mapM, value_compile, Logged.value_pure,
      List.map_map]
    rfl

end Views

end Pager

end PagedQuery
