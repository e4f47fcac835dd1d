import Mathlib.Data.List.InsertIdx
import PagedQuery.Proofs.Fetching
import PagedQuery.Proofs.Joining

/-!
# Filters that do not apply

A filter may ask for nothing, for something that its field does not allow, or for a search
whose pattern the engine does not build. Such a filter means no condition, and a request
means the same with it and without it: wherever in the list it stands and whatever its
connector, the first filter that does apply is the one to start from.

## Main definitions

* `Filter.Inapplicable`: the reasons why a filter means no condition.
-/

namespace PagedQuery

variable {ρ : Type}

/-! ## The reasons -/

theorem FieldKind.isSearchable_iff {kind : FieldKind} :
    kind.isSearchable = true ↔ kind = .string := by
  cases kind <;> simp [isSearchable, basic]

namespace Filter

/-- Why a filter means no condition. Several reasons may hold of one filter. -/
inductive Inapplicable (schema : Schema ρ) (parsers : ParserTable) (engine : Regex.Engine)
    (f : Filter) : Prop
  /-- The key is that of no field. -/
  | unknownField (h : ∀ field ∈ schema.fields, f.key ≠ some field.name)
  /-- The text cannot be read for the field. -/
  | unreadable {field : Field ρ} (hfield : field ∈ schema.fields) (hkey : f.key = some field.name)
      (h : parsers.parse? (f.value.getD "") field.kind = none)
  /-- Nothing is asked for. -/
  | nothing (h : f.comparison = .nothing)
  /-- A search in a field that holds no strings. -/
  | notSearchable {field : Field ρ} {place : Placement} (hfield : field ∈ schema.fields)
      (hkey : f.key = some field.name) (h : f.comparison = .search place)
      (hkind : field.kind ≠ .string)
  /-- A search for a text whose pattern the engine does not build. -/
  | oversized {place : Placement} {reason : String} (h : f.comparison = .search place)
      (hrefused : LikePattern.build engine (place.around (f.value.getD "")) = .error reason)

/-- A search is dropped for the kind of the field or because its pattern is not built. -/
theorem condition?_searchOutcome_eq_none_iff {engine : Regex.Engine} {key text : String}
    {field : Field ρ} {place : Placement} :
    (searchOutcome engine key text field place).condition? = none ↔
      field.kind ≠ .string ∨
        ∃ reason, LikePattern.build engine (place.around text) = .error reason := by
  rw [searchOutcome]
  by_cases hkind : field.kind = .string
  · rw [if_pos (FieldKind.isSearchable_iff.2 hkind)]
    cases LikePattern.build engine (place.around text) <;> simp [FilterOutcome.condition?, hkind]
  · rw [if_neg (mt FieldKind.isSearchable_iff.1 hkind)]
    simp [FilterOutcome.condition?, hkind]

/-- With its field found and its text read, a filter is dropped for its comparison. -/
theorem condition?_comparisonOutcome_eq_none_iff {engine : Regex.Engine} {key text : String}
    {field : Field ρ} {literal : Scalar} {comparison : Comparison} :
    (comparisonOutcome engine key text field literal comparison).condition? = none ↔
      comparison = .nothing ∨ ∃ place, comparison = .search place ∧
        (field.kind ≠ .string ∨
          ∃ reason, LikePattern.build engine (place.around text) = .error reason) := by
  cases comparison with
  | search place => simp [comparisonOutcome, condition?_searchOutcome_eq_none_iff]
  | nothing | equals | notEquals | order _ => simp [comparisonOutcome, FilterOutcome.condition?]

section

variable {schema : Schema ρ} {parsers : ParserTable} {engine : Regex.Engine} {f : Filter}
  {field : Field ρ}

theorem inapplicable_iff_of_readable {literal : Scalar}
    (hlookup : schema.lookup? f.key = some field)
    (hparse : parsers.parse? (f.value.getD "") field.kind = some literal) :
    f.Inapplicable schema parsers engine ↔ f.comparison = .nothing ∨
      ∃ place, f.comparison = .search place ∧
        (field.kind ≠ .string ∨ ∃ reason,
          LikePattern.build engine (place.around (f.value.getD "")) = .error reason) := by
  obtain ⟨hfield, hkey⟩ := Schema.lookup?_eq_some_iff.1 hlookup
  -- the key is that of one field only, so any reason about a field is about this one
  have hunique {other : Field ρ} (hother : other ∈ schema.fields)
      (hname : f.key = some other.name) : other = field :=
    Option.some.inj ((Schema.lookup?_eq_some_iff.2 ⟨hother, hname⟩).symm.trans hlookup)
  constructor
  · intro h
    cases h with
    | unknownField h => exact absurd hkey (h field hfield)
    | unreadable hother hname h =>
      obtain rfl := hunique hother hname
      rw [hparse] at h
      cases h
    | nothing h => exact .inl h
    | notSearchable hother hname h hkind =>
      obtain rfl := hunique hother hname
      exact .inr ⟨_, h, .inl hkind⟩
    | oversized h hrefused => exact .inr ⟨_, h, .inr ⟨_, hrefused⟩⟩
  · rintro (h | ⟨place, h, hkind | ⟨reason, hrefused⟩⟩)
    · exact .nothing h
    · exact .notSearchable hfield hkey h hkind
    · exact .oversized h hrefused

/-- A filter means no condition exactly for one of the reasons. -/
theorem condition?_eq_none_iff :
    f.condition? schema parsers engine = none ↔ f.Inapplicable schema parsers engine := by
  cases hlookup : schema.lookup? f.key with
  | none =>
    have hunknown := Schema.lookup?_eq_none_iff.1 hlookup
    simp [condition?, outcome_of_unknown hunknown, FilterOutcome.condition?,
      Inapplicable.unknownField hunknown]
  | some field =>
    obtain ⟨hfield, hkey⟩ := Schema.lookup?_eq_some_iff.1 hlookup
    cases hparse : parsers.parse? (f.value.getD "") field.kind with
    | none =>
      simp [condition?, outcome_of_unreadable hfield hkey hparse, FilterOutcome.condition?,
        Inapplicable.unreadable hfield hkey hparse]
    | some literal =>
      rw [inapplicable_iff_of_readable hlookup hparse, condition?,
        outcome_of_readable hfield hkey hparse, condition?_comparisonOutcome_eq_none_iff]

end

end Filter

/-! ## Filters without a condition -/

/-- What a test refuses may be inserted anywhere before the test. -/
theorem filter_insertIdx_of_neg {α : Type} {p : α → Bool} {a : α} (h : p a = false) (xs : List α)
    (i : Nat) : (xs.insertIdx i a).filter p = xs.filter p := by
  induction xs generalizing i with
  | nil => cases i <;> simp [h]
  | cons x xs ih =>
    cases i with
    | zero => simp [h]
    | succ i => simp [List.filter_cons, ih]

namespace Pager

variable (pager : Pager)

/-- The condition of a list of filters is that of the filters that mean one. -/
theorem conditionOf_filter (schema : Schema ρ) (filters : List Filter) :
    pager.conditionOf schema
        (filters.filter fun f => (f.condition? schema pager.parsers pager.engine).isSome) =
      pager.conditionOf schema filters := by
  rw [conditionOf, conditionOf, ← Condition.joinAll_filter_isSome _ (filters.map _),
    List.filter_map]
  rfl

theorem conditionOf_insertIdx {schema : Schema ρ} {g : Filter}
    (h : g.condition? schema pager.parsers pager.engine = none) (filters : List Filter)
    (position : Nat) :
    pager.conditionOf schema (filters.insertIdx position g) =
      pager.conditionOf schema filters := by
  rw [← conditionOf_filter, filter_insertIdx_of_neg (by simp [h]), conditionOf_filter]

section Views

variable {σ ι : Type} [View σ ρ ι] (view : σ)

/-- Of filters that all mean nothing the view is not told. -/
theorem narrow_of_inapplicable {filters : List Filter} (hcomplete : ∀ f ∈ filters, f.Complete)
    (h : ∀ f ∈ filters, f.Inapplicable (View.schema view) pager.parsers pager.engine) :
    ∃ narrowed, pager.narrow view filters = .ok narrowed ∧ narrowed.value = view ∧
      narrowed.journal.calls = [] := by
  have hcondition : (pager.compile view filters).value = none := by
    rw [value_compile, conditionOf, Condition.joinAll_eq_none_iff]
    intro p hp
    obtain ⟨f, hf, rfl⟩ := List.mem_map.1 hp
    exact Filter.condition?_eq_none_iff.2 (h f hf)
  refine ⟨pager.narrowChecked view filters, pager.narrow_of_complete view hcomplete, ?_, ?_⟩
  · rw [narrowChecked, Logged.value_bind, hcondition]
    rfl
  · rw [narrowChecked, Logged.journal_bind, Journal.calls_append, calls_compile, hcondition]
    rfl

/-- Two requests that pass the same checks, mean the same condition and ask for the same
sorting get the same page. -/
theorem value_fetch_congr {request request' : PageRequest}
    (hcheck : pager.check request' = pager.check request)
    (hcondition : pager.conditionOf (View.schema view) request'.filters =
      pager.conditionOf (View.schema view) request.filters)
    (hsort : request'.sort = request.sort) :
    (pager.fetch view request').value = (pager.fetch view request).value := by
  rw [fetch, fetch, hcheck]
  cases pager.check request with
  | error e => rfl
  | ok numbers =>
    simp only [Logged.value_bind, value_narrowChecked, hcondition, hsort]

/-- The checks see of complete filters only that they are complete. -/
theorem check_of_complete {request : PageRequest} {filters : List Filter}
    (h : ∀ f ∈ request.filters, f.Complete) (h' : ∀ f ∈ filters, f.Complete) :
    pager.check { request with filters := filters } = pager.check request := by
  simp only [check, checkFilters_eq_ok_iff.2 h, checkFilters_eq_ok_iff.2 h']

/-- **A filter that does not apply is as if absent.** Inserted anywhere in a list of
complete filters and with any connector, it leaves the page that is fetched, or the
refusal, as it was. A list of filters means the condition of those in it that apply, which
are all but those with one of the reasons against them, and a list of which no filter
applies leaves the view untouched. -/
theorem fetch_insert_inapplicable (request : PageRequest) (g : Filter)
    (hfilters : ∀ f ∈ request.filters, f.Complete) (hg : g.Complete)
    (hdrop : g.Inapplicable (View.schema view) pager.parsers pager.engine) :
    (∀ (connector : Connector) (position : Nat),
      (pager.fetch view { request with
        filters := request.filters.insertIdx position { g with connector := connector } }).value =
        (pager.fetch view request).value) ∧
    (∀ filters : List Filter,
      (pager.compile view filters).value = (pager.compile view (filters.filter fun f =>
        (f.condition? (View.schema view) pager.parsers pager.engine).isSome)).value) ∧
    (∀ f : Filter, f.condition? (View.schema view) pager.parsers pager.engine = none ↔
      f.Inapplicable (View.schema view) pager.parsers pager.engine) ∧
    ∀ filters : List Filter, (∀ f ∈ filters, f.Complete) →
      (∀ f ∈ filters, f.Inapplicable (View.schema view) pager.parsers pager.engine) →
      ∃ narrowed, pager.narrow view filters = .ok narrowed ∧ narrowed.value = view ∧
        narrowed.journal.calls = [] := by
  refine ⟨fun connector position => ?_, fun filters => ?_,
    fun f => Filter.condition?_eq_none_iff, fun filters => pager.narrow_of_inapplicable view⟩
  · have hnone : g.condition? (View.schema view) pager.parsers pager.engine = none :=
      Filter.condition?_eq_none_iff.2 hdrop
    -- what a filter means is no matter of its connector
    have hnone' : Filter.condition? (View.schema view) pager.parsers pager.engine
        { g with connector := connector } = none := hnone
    refine pager.value_fetch_congr view ?_ (pager.conditionOf_insertIdx hnone' _ _) rfl
    refine pager.check_of_complete hfilters fun f hf => ?_
    rcases List.eq_or_mem_of_mem_insertIdx hf with rfl | hmem
    · exact hg
    · exact hfilters f hmem
  · rw [value_compile, value_compile, conditionOf_filter]

end Views

/-- A search in a field of numbers, put in front of the filters and joined by `or`, does
not take the place of the first filter: the page stays that of the rows above 1. -/
theorem fetch_insert_number_search :
    let schema : Schema FieldValue := ⟨[⟨"value", .int, id⟩], by simp, by simp, by simp⟩
    let view : ListView FieldValue := .of .merge schema
      [some (.number (.int 3)), some (.number (.int 1)), none, some (.number (.int 2))]
    let request : PageRequest := ⟨1, 5, [.of "value" (.order .gt) "1"], none⟩
    let g : Filter := .of "value" (.search .anywhere) "2"
    let pager := standard (.byRows fun _ => none)
    (∀ f ∈ request.filters, f.Complete) ∧ g.Complete ∧
    g.Inapplicable schema .standard pager.engine ∧
    (pager.fetch view { request with
      filters := request.filters.insertIdx 0 { g with connector := .or } }).value =
      some (.ok ⟨1, 5, 2, 1, [some (.number (.int 3)), some (.number (.int 2))]⟩) := by
  intro schema view request g pager
  have hfilters : ∀ f ∈ request.filters, f.Complete := by
    simp [request, Filter.Complete, Filter.of, Blank]
  have hg : g.Complete := by simp [g, Filter.Complete, Filter.of, Blank]
  have hfield : ⟨"value", .int, id⟩ ∈ schema.fields := List.mem_singleton_self _
  have hdrop : g.Inapplicable schema .standard pager.engine :=
    .notSearchable hfield rfl rfl (by decide)
  refine ⟨hfilters, hg, hdrop, ?_⟩
  rw [(fetch_insert_inapplicable pager view request g hfilters hg hdrop).1]
  subst request view schema pager
  rfl

end Pager

end PagedQuery
