import Mathlib.Data.List.Forall2
import PagedQuery.Proofs.Inapplicable

/-!
# What is reported of a request

Carrying out a request leaves a trail of events. A refused request leaves none, unless it
is refused for its page alone. Any other request gives account of itself in order: of each
filter once, of the sorting only if it is ignored, and of the numbers of the page once.

Events are compared here by what is shown of them, their level, message and details.

## Main definitions

* `EventText`, `Event.text`: an event as it is shown.
* `Filter.Skipped`, `Filter.Reported`: what is shown of a filter.
* `SortReported`, `PageReported`: what is shown of a sorting and of a page.
-/

namespace PagedQuery

variable {ρ : Type}

/-- An event as it is shown. -/
structure EventText where
  level : Level
  message : String
  details : List (String × String)
  deriving DecidableEq

/-- What is shown of an event. -/
def Event.text (e : Event) : EventText := ⟨e.level, e.message, e.details⟩

/-! ## Filters -/

namespace Filter

variable (schema : Schema ρ) (parsers : ParserTable) (engine : Regex.Engine) (f : Filter)

/-- What is shown of a filter that is left out. Each constructor is one thing that may be
wrong with it, once all is well with what comes before: the field, the text, the kind of
the field, and the pattern, for which the engine has a reason of its own. -/
inductive Skipped : EventText → Prop
  | unknownField (h : ∀ field ∈ schema.fields, f.key ≠ some field.name) :
      Skipped ⟨.debug, "skipping filter on unknown field", [("field", f.key.getD "")]⟩
  | unreadable {field : Field ρ} (hfield : field ∈ schema.fields) (hkey : f.key = some field.name)
      (h : parsers.parse? (f.value.getD "") field.kind = none) :
      Skipped ⟨.debug, "skipping filter with unparsable value",
        [("field", field.name), ("kind", field.kind.name), ("value", f.value.getD "")]⟩
  | notSearchable {field : Field ρ} {literal : Scalar} {place : Placement}
      (hfield : field ∈ schema.fields) (hkey : f.key = some field.name)
      (hparse : parsers.parse? (f.value.getD "") field.kind = some literal)
      (hcomparison : f.comparison = .search place) (h : field.kind ≠ .string) :
      Skipped ⟨.debug, "skipping like filter on non-string field",
        [("field", field.name), ("kind", field.kind.name), ("comparison", place.name)]⟩
  | oversized {field : Field ρ} {literal : Scalar} {place : Placement} {reason : String}
      (hfield : field ∈ schema.fields) (hkey : f.key = some field.name)
      (hparse : parsers.parse? (f.value.getD "") field.kind = some literal)
      (hcomparison : f.comparison = .search place) (hkind : field.kind = .string)
      (h : LikePattern.build engine (place.around (f.value.getD "")) = .error reason) :
      Skipped ⟨.debug, "skipping like filter with oversized pattern",
        [("field", field.name), ("error", reason)]⟩

/-- What is shown of a filter: its condition if it means one, and otherwise why it is left
out. Only a filter that asks for nothing, with its field found and its text read, is passed
over in silence. -/
inductive Reported : List EventText → Prop
  | compiled {c : Condition} (h : f.condition? schema parsers engine = some c) :
      Reported [⟨.trace, "compiled filter", [("condition", c.display)]⟩]
  | skipped {e : EventText} (h : f.condition? schema parsers engine = none)
      (hskipped : f.Skipped schema parsers engine e) : Reported [e]
  | silent {field : Field ρ} {literal : Scalar} (h : f.condition? schema parsers engine = none)
      (hfield : field ∈ schema.fields) (hkey : f.key = some field.name)
      (hparse : parsers.parse? (f.value.getD "") field.kind = some literal)
      (hcomparison : f.comparison = .nothing) : Reported []

/-- The events of a filter as they are shown. -/
def reports : List EventText := ((f.outcome schema parsers engine).event?.map Event.text).toList

variable {schema parsers engine f}

/-- Whatever is wrong with a filter, the event names its key. -/
theorem Skipped.names_key {e : EventText} (h : f.Skipped schema parsers engine e) :
    e.level = .debug ∧ "skipping ".toList <+: e.message.toList ∧
      ("field", f.key.getD "") ∈ e.details := by
  have startsWith {message : String} (rest : String) (hmessage : message = "skipping " ++ rest) :
      "skipping ".toList <+: message.toList := by
    rw [hmessage, String.toList_append]
    exact List.prefix_append _ _
  cases h with
  | unknownField => exact ⟨rfl, startsWith "filter on unknown field" rfl, List.mem_cons_self⟩
  | unreadable _ hkey =>
    exact ⟨rfl, startsWith "filter with unparsable value" rfl, by simp [hkey]⟩
  | notSearchable _ hkey =>
    exact ⟨rfl, startsWith "like filter on non-string field" rfl, by simp [hkey]⟩
  | oversized _ hkey =>
    exact ⟨rfl, startsWith "like filter with oversized pattern" rfl, by simp [hkey]⟩

theorem reported_of_compiled {c : Condition} (h : f.outcome schema parsers engine = .compiled c) :
    f.Reported schema parsers engine (f.reports schema parsers engine) := by
  have hcondition : f.condition? schema parsers engine = some c := by rw [condition?, h]; rfl
  rw [reports, h]
  exact .compiled hcondition

theorem reported_of_dropped {e : Event} (h : f.outcome schema parsers engine = .dropped e)
    (hskipped : f.Skipped schema parsers engine e.text) :
    f.Reported schema parsers engine (f.reports schema parsers engine) := by
  have hcondition : f.condition? schema parsers engine = none := by rw [condition?, h]; rfl
  rw [reports, h]
  exact .skipped hcondition hskipped

section

variable {field : Field ρ} {literal : Scalar}

/-- A search is left out for the kind of its field before it is for its pattern. -/
theorem reported_of_search {place : Placement} (hfield : field ∈ schema.fields)
    (hkey : f.key = some field.name)
    (hparse : parsers.parse? (f.value.getD "") field.kind = some literal)
    (hcomparison : f.comparison = .search place) :
    f.Reported schema parsers engine (f.reports schema parsers engine) := by
  have houtcome : f.outcome schema parsers engine =
      searchOutcome engine field.name (f.value.getD "") field place := by
    rw [outcome_of_readable hfield hkey hparse, hcomparison]
    rfl
  by_cases hkind : field.kind = .string
  · rw [searchOutcome, if_pos (FieldKind.isSearchable_iff.2 hkind)] at houtcome
    cases hpattern : LikePattern.build engine (place.around (f.value.getD "")) with
    | ok pattern =>
      rw [hpattern] at houtcome
      exact reported_of_compiled houtcome
    | error reason =>
      rw [hpattern] at houtcome
      exact reported_of_dropped houtcome
        (.oversized hfield hkey hparse hcomparison hkind hpattern)
  · rw [searchOutcome, if_neg (mt FieldKind.isSearchable_iff.1 hkind)] at houtcome
    exact reported_of_dropped houtcome (.notSearchable hfield hkey hparse hcomparison hkind)

/-- Of the comparisons only a search may still be left out, and only the one that asks for
nothing is passed over. -/
theorem reported_of_readable (hfield : field ∈ schema.fields) (hkey : f.key = some field.name)
    (hparse : parsers.parse? (f.value.getD "") field.kind = some literal) :
    f.Reported schema parsers engine (f.reports schema parsers engine) := by
  have houtcome : f.outcome schema parsers engine =
      comparisonOutcome engine field.name (f.value.getD "") field literal f.comparison :=
    outcome_of_readable hfield hkey hparse
  cases hcomparison : f.comparison with
  | search place => exact reported_of_search hfield hkey hparse hcomparison
  | nothing =>
    rw [hcomparison] at houtcome
    have hcondition : f.condition? schema parsers engine = none := by rw [condition?, houtcome]; rfl
    rw [reports, houtcome]
    exact .silent hcondition hfield hkey hparse hcomparison
  | equals | notEquals | order _ =>
    rw [hcomparison] at houtcome
    exact reported_of_compiled houtcome

end

/-- The outcome of a filter tells what is shown of it. -/
theorem reported_reports : f.Reported schema parsers engine (f.reports schema parsers engine) := by
  cases hlookup : schema.lookup? f.key with
  | none =>
    have hunknown := Schema.lookup?_eq_none_iff.1 hlookup
    exact reported_of_dropped (outcome_of_unknown hunknown) (.unknownField hunknown)
  | some field =>
    obtain ⟨hfield, hkey⟩ := Schema.lookup?_eq_some_iff.1 hlookup
    cases hparse : parsers.parse? (f.value.getD "") field.kind with
    | some literal => exact reported_of_readable hfield hkey hparse
    | none =>
      exact reported_of_dropped (outcome_of_unreadable hfield hkey hparse)
        (.unreadable hfield hkey hparse)

end Filter

/-! ## The sorting and the page -/

/-- What is shown of a sorting: nothing, unless it is ignored. -/
inductive SortReported (schema : Schema ρ) : Option SortRequest → List EventText → Prop
  | absent : SortReported schema none []
  | noDirection (name : String) :
      SortReported schema (some ⟨name, none⟩)
        [⟨.debug, "ordering has no direction, ignoring", [("field", name)]⟩]
  | unknownField {name : String} (direction : Direction)
      (h : ∀ field ∈ schema.fields, field.name ≠ name) :
      SortReported schema (some ⟨name, some direction⟩)
        [⟨.debug, "ignoring ordering on unknown field", [("field", name)]⟩]
  | applied {field : Field ρ} (direction : Direction) (h : field ∈ schema.fields) :
      SortReported schema (some ⟨field.name, some direction⟩) []

/-- The numbers of a page as they are shown. -/
def pageNumbersText (page size rowCount pageCount : Nat) : EventText :=
  ⟨.debug, "computed page window", [("page", toString page), ("page_size", toString size),
    ("row_count", toString rowCount), ("page_count", toString pageCount)]⟩

/-- What is shown of a page of `size` rows: its own numbers, those for which it is refused, or
those of a page that is there, if reading it breaks off. -/
inductive PageReported {ι : Type} (size : Nat) :
    Option (Except Refusal (Page ι)) → EventText → Prop
  | page (p : Page ι) (hsize : p.size = size) (hcount : p.pageCount = p.rowCount ⌈/⌉ size) :
      PageReported size (some (.ok p))
        (pageNumbersText p.number p.size p.rowCount p.pageCount)
  | noSuchPage (page rowCount : Nat) :
      PageReported size (some (.error (.noSuchPage page (rowCount ⌈/⌉ size))))
        (pageNumbersText page size rowCount (rowCount ⌈/⌉ size))
  | brokenOff (page rowCount : Nat) (hpage : page ≤ rowCount ⌈/⌉ size) :
      PageReported size none (pageNumbersText page size rowCount (rowCount ⌈/⌉ size))

namespace Journal

/-- The events of a journal as they are shown. -/
def texts (j : Journal) : List EventText := j.events.map Event.text

@[simp] theorem texts_append (j k : Journal) : texts (j ++ k) = texts j ++ texts k := by
  simp [texts]

theorem texts_flatMap {α : Type} (f : α → Journal) (xs : List α) :
    texts (xs.flatMap f) = xs.flatMap fun x => texts (f x) := by
  induction xs with
  | nil => rfl
  | cons x xs ih => simp [ih]

end Journal

section Views

variable {σ ι : Type} [View σ ρ ι] (view : σ)

theorem texts_restrictBy (c? : Option Condition) : (restrictBy view c?).journal.texts = [] := by
  cases c? <;> rfl

/-- A sorting is reported exactly if it is ignored. -/
theorem sortReported_sortAs (sort? : Option SortRequest) :
    SortReported (View.schema view) sort? (sortAs view sort?).journal.texts := by
  cases sort? with
  | none => exact .absent
  | some sort =>
    obtain ⟨name, direction?⟩ := sort
    cases direction? with
    | none => exact .noDirection name
    | some direction =>
      cases hlookup : (View.schema view).lookup? (some name) with
      | none =>
        have hunknown : ∀ field ∈ (View.schema view).fields, field.name ≠ name := by
          intro field hfield hname
          exact Schema.lookup?_eq_none_iff.1 hlookup field hfield (congrArg some hname.symm)
        simp only [sortAs, hlookup]
        exact .unknownField direction hunknown
      | some field =>
        obtain ⟨hfield, hname⟩ := Schema.lookup?_eq_some_iff.1 hlookup
        obtain rfl := Option.some.inj hname
        simp only [sortAs, hlookup]
        exact .applied direction hfield

end Views

/-! ## The whole request -/

namespace Pager

variable (pager : Pager)

section Views

variable {σ ι : Type} [View σ ρ ι] (view : σ)

/-- The filters are reported one after another. -/
theorem texts_narrowChecked (filters : List Filter) :
    (pager.narrowChecked view filters).journal.texts =
      (filters.map fun f => f.reports (View.schema view) pager.parsers pager.engine).flatten := by
  have hfilter (f : Filter) :
      Journal.texts (f.compile (View.schema view) pager.parsers pager.engine).journal =
        f.reports (View.schema view) pager.parsers pager.engine := by
    rw [Filter.compile, Filter.reports]
    cases (f.outcome (View.schema view) pager.parsers pager.engine).event? <;> rfl
  have hcompile : (pager.compile view filters).journal.texts =
      (filters.map fun f => f.reports (View.schema view) pager.parsers pager.engine).flatten := by
    rw [compile, Filter.compileAll, Logged.journal_bind, Logged.journal_mapM,
      Logged.journal_pure, List.append_nil, Journal.texts_flatMap, ← List.flatMap_def]
    simp only [Logged.journal_bind, Logged.journal_pure, List.append_nil, hfilter]
  rw [narrowChecked, Logged.journal_bind, Journal.texts_append, texts_restrictBy,
    List.append_nil, hcompile]

/-- The fields of a narrowed view are those it had before. -/
theorem schema_narrowChecked (filters : List Filter)
    (hschema : ∀ c, View.schema (View.restrict view c) = View.schema view) :
    View.schema (pager.narrowChecked view filters).value = View.schema view := by
  rw [value_narrowChecked]
  cases pager.conditionOf (View.schema view) filters with
  | none => rfl
  | some c => exact hschema c

/-- Reading a page reports its numbers, also if there is no such page. -/
theorem pageReported_readPage (page size : Nat) :
    ∃ e, (readPage view page size).journal.texts = [e] ∧
      PageReported size (readPage view page size).value e := by
  refine ⟨pageNumbersText page size (View.count view) (pagesFor (View.count view) size), ?_⟩
  by_cases hbeyond : pagesFor (View.count view) size < page
  · simp only [readPage, if_pos hbeyond]
    exact ⟨rfl, .noSuchPage page (View.count view)⟩
  · simp only [readPage, if_neg hbeyond]
    refine ⟨rfl, ?_⟩
    simp only [Logged.value_bind, Logged.value_pure]
    cases View.window view ((page - 1) * size) size with
    | none => exact .brokenOff page _ (Nat.not_lt.1 hbeyond)
    | some rows => exact .page _ rfl rfl

/-- A well-formed request is reported in three parts. -/
theorem texts_fetch_of_wellFormed {request : PageRequest}
    (h : WellFormed pager.settings.maxPageSize request.page.toInt request.pageSize.toInt
      request.filters) :
    (pager.fetch view request).journal.texts =
      (pager.narrowChecked view request.filters).journal.texts ++
        ((sortAs (pager.narrowChecked view request.filters).value request.sort).journal.texts ++
          (readPage (pager.prepared view request.filters request.sort) request.page.toInt.toNat
            request.pageSize.toInt.toNat).journal.texts) := by
  rw [journal_fetch_of_wellFormed h, Journal.texts_append, Journal.texts_append]

/-- **The events of a request account for all of it.** A malformed request leaves none, nor
any call to the view. A well-formed one is reported in this order: its filters, each by its
condition or by what is wrong with it, and none twice; its sorting, if it is ignored; and
the numbers of the page that is returned or refused. -/
theorem fetch_reports (request : PageRequest)
    (hschema : ∀ c, View.schema (View.restrict view c) = View.schema view) :
    (∀ e, Malformed pager.settings.maxPageSize request.page.toInt request.pageSize.toInt
      request.filters e → (pager.fetch view request).journal = []) ∧
    (WellFormed pager.settings.maxPageSize request.page.toInt request.pageSize.toInt
        request.filters →
      ∃ filterTexts sortTexts pageText,
        (pager.fetch view request).journal.texts =
          filterTexts.flatten ++ sortTexts ++ [pageText] ∧
        List.Forall₂ (Filter.Reported (View.schema view) pager.parsers pager.engine) request.filters
          filterTexts ∧
        SortReported (View.schema view) request.sort sortTexts ∧
        PageReported request.pageSize.toInt.toNat (pager.fetch view request).value pageText) ∧
    ∀ f e, Filter.Skipped (View.schema view) pager.parsers pager.engine f e →
      e.level = .debug ∧ "skipping ".toList <+: e.message.toList ∧
        ("field", f.key.getD "") ∈ e.details := by
  refine ⟨fun e hmalformed => journal_fetch_of_malformed hmalformed, fun hwell => ?_,
    fun f e hskipped => hskipped.names_key⟩
  have hsort := sortReported_sortAs (pager.narrowChecked view request.filters).value request.sort
  rw [pager.schema_narrowChecked view request.filters hschema] at hsort
  obtain ⟨pageText, htext, hpage⟩ := pageReported_readPage
    (pager.prepared view request.filters request.sort) request.page.toInt.toNat
    request.pageSize.toInt.toNat
  refine ⟨request.filters.map fun f => f.reports (View.schema view) pager.parsers pager.engine,
    _, pageText, ?_, ?_, hsort, ?_⟩
  · rw [pager.texts_fetch_of_wellFormed view hwell, htext, pager.texts_narrowChecked,
      List.append_assoc]
  · rw [List.forall₂_map_right_iff, List.forall₂_same]
    intro f _
    exact Filter.reported_reports
  · rw [value_fetch_of_wellFormed hwell]
    exact hpage

end Views

/-- Of five filters one takes effect, one asks for nothing, and each of the others has
something else wrong with it; the sorting has no direction. -/
theorem fetch_reports_five_filters :
    let schema : Schema FieldValue := ⟨[⟨"value", .int, id⟩], by simp, by simp, by simp⟩
    let view : ListView FieldValue := .of .merge schema [some (.number (.int 3)), none]
    let filters : List Filter := [.of "value" (.order .gt) "1", .of "height" .equals "2",
      .of "value" .equals "tall", .of "value" .nothing "3", .of "value" (.search .anywhere) "1"]
    let request : PageRequest := ⟨1, 5, filters, some ⟨"value", none⟩⟩
    let pager := standard (.byRows fun _ => none)
    (∀ c, View.schema (View.restrict view c) = View.schema view) ∧
    Malformed none 0 5 filters (.badArgument .page (.notPositive 0)) ∧
    (pager.fetch view { request with page := 0 }).journal = [] ∧
    WellFormed none 1 5 filters ∧
    (∃ filterTexts sortTexts pageText,
      (pager.fetch view request).journal.texts =
        filterTexts.flatten ++ sortTexts ++ [pageText] ∧
      List.Forall₂ (Filter.Reported schema .standard pager.engine) filters filterTexts ∧
      SortReported schema request.sort sortTexts ∧
      PageReported 5 (pager.fetch view request).value pageText) ∧
    (pager.fetch view request).journal.texts =
      [⟨.trace, "compiled filter", [("condition", "value gt 1")]⟩,
        ⟨.debug, "skipping filter on unknown field", [("field", "height")]⟩,
        ⟨.debug, "skipping filter with unparsable value",
          [("field", "value"), ("kind", "int"), ("value", "tall")]⟩,
        ⟨.debug, "skipping like filter on non-string field",
          [("field", "value"), ("kind", "int"), ("comparison", "contains")]⟩,
        ⟨.debug, "ordering has no direction, ignoring", [("field", "value")]⟩,
        pageNumbersText 1 5 1 1] := by
  intro schema view filters request pager
  have hschema : ∀ c, View.schema (View.restrict view c) = View.schema view := fun c => rfl
  have hmalformed : Malformed none 0 5 filters (.badArgument .page (.notPositive 0)) :=
    .page (by decide)
  have hwell : WellFormed none 1 5 filters :=
    ⟨⟨by decide, by decide, by simp⟩, by simp [filters, Filter.Complete, Filter.of, Blank]⟩
  have hnone := (fetch_reports pager view { request with page := 0 } hschema).1 _ hmalformed
  have hparts := (fetch_reports pager view request hschema).2.1 hwell
  refine ⟨hschema, hmalformed, hnone, hwell, hparts, ?_⟩
  subst request filters view schema pager
  rfl

end Pager

end PagedQuery
