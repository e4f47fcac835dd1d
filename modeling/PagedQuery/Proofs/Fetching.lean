import PagedQuery.Proofs.Checks
import PagedQuery.Proofs.ListViews
import PagedQuery.Proofs.Pages

/-!
# Fetching pages of a list

What a request for a page of a list gives. A request that passes the checks reads its
page from the narrowed and sorted view, and the rows of that view are the same whatever
page is asked for. So the pages fit together, and the one reason left to refuse a request
is that its page is beyond the last.

The rows are sorted for every page anew, and sorting may break off. Then there are no rows to
cut into pages, and a request for a page that is there has no outcome. It takes a sort key
under which the rows cannot be compared consistently.

## Main definitions

* `Pager.prepared`: the narrowed and sorted view from which a page is read.
* `Pager.rowCount`: the number of rows that the pages of a request have together.
* `Refused`: the refusals of requests, in the order in which they are considered.
-/

namespace PagedQuery

variable {ρ : Type}

namespace Pager

variable (pager : Pager)

/-! ## From a request to a page -/

section Views

variable {σ ι : Type} [View σ ρ ι]

/-- The view from which the pages of a request are read. -/
def prepared (view : σ) (filters : List Filter) (sort? : Option SortRequest) : σ :=
  (sortAs (pager.narrowChecked view filters).value sort?).value

variable {pager} {view : σ} {request : PageRequest}

theorem value_fetch_of_error {e : Refusal} (h : pager.check request = .error e) :
    (pager.fetch view request).value = some (.error e) := by
  rw [fetch, h]
  rfl

/-- A well-formed request reads its page from the prepared view. -/
theorem value_fetch_of_wellFormed
    (h : WellFormed pager.settings.maxPageSize request.page.toInt request.pageSize.toInt
      request.filters) :
    (pager.fetch view request).value =
      (readPage (pager.prepared view request.filters request.sort) request.page.toInt.toNat
        request.pageSize.toInt.toNat).value := by
  rw [fetch, check_of_wellFormed h]
  rfl

/-- The journal of a well-formed request: the view is narrowed, sorted, and read. -/
theorem journal_fetch_of_wellFormed
    (h : WellFormed pager.settings.maxPageSize request.page.toInt request.pageSize.toInt
      request.filters) :
    (pager.fetch view request).journal =
      (pager.narrowChecked view request.filters).journal ++
        ((sortAs (pager.narrowChecked view request.filters).value request.sort).journal ++
          (readPage (pager.prepared view request.filters request.sort) request.page.toInt.toNat
            request.pageSize.toInt.toNat).journal) := by
  rw [fetch, check_of_wellFormed h]
  rfl

/-- A malformed request leaves no trace. -/
theorem journal_fetch_of_malformed {e : Refusal}
    (h : Malformed pager.settings.maxPageSize request.page.toInt request.pageSize.toInt
      request.filters e) : (pager.fetch view request).journal = [] := by
  rw [fetch, check_of_malformed h]
  rfl

/-- Reading fails only for a page that is not there. -/
theorem value_readPage_ne_error {page size : Nat} {e : Refusal}
    (he : ∀ number count, e ≠ .noSuchPage number count) :
    (readPage view page size).value ≠ some (.error e) := by
  intro h
  simp only [readPage, Logged.value_bind] at h
  split at h
  · exact he _ _ (Except.error.inj (Option.some.inj h)).symm
  · obtain ⟨_, _, hpage⟩ := Option.map_eq_some_iff.1 h
    cases hpage

/-- A refusal that is not about the last page is a matter of the checks alone. -/
theorem value_fetch_eq_error_iff_malformed {e : Refusal}
    (he : ∀ number count, e ≠ .noSuchPage number count) :
    (pager.fetch view request).value = some (.error e) ↔
      Malformed pager.settings.maxPageSize request.page.toInt request.pageSize.toInt
        request.filters e := by
  rw [← check_eq_error_iff]
  refine ⟨fun h => ?_, value_fetch_of_error⟩
  rw [fetch] at h
  cases hcheck : pager.check request with
  | error e' =>
    rw [hcheck] at h
    exact congrArg Except.error (Except.error.inj (Option.some.inj h))
  | ok numbers =>
    rw [hcheck] at h
    exact absurd h (value_readPage_ne_error he)

end Views

/-- The number of rows that satisfy the condition of the view and that of the filters. -/
def rowCount (view : ListView ρ) (filters : List Filter) : Nat :=
  view.records.countP fun r =>
    view.keeps r && (pager.conditionOf view.schema filters).all (·.holds view.schema r)

/-- The pages have together the rows that satisfy both conditions, however they are
sorted. -/
theorem count_prepared (view : ListView ρ) (filters : List Filter) (sort? : Option SortRequest) :
    (pager.prepared view filters sort?).count = pager.rowCount view filters := by
  rw [prepared, ListView.count_sortAs, value_narrowChecked, ListView.value_restrictBy,
    ListView.count, ListView.matching_restrictBy?, ListView.matching, List.filter_filter,
    rowCount, List.countP_eq_length_filter]
  congr 2
  funext r
  exact Bool.and_comm ..

variable {pager} {view : ListView ρ} {request : PageRequest}

/-- A page that is there is one of the pages of the rows shown, if these can be shown. -/
theorem value_readPage_of_le {page size : Nat} (hpage : 1 ≤ page)
    (h : page ≤ pagesFor view.count size) :
    (readPage view page size).value =
      view.shown.map fun rows => .ok (pageAfter rows size (page - 1)) := by
  have hnext : page - 1 + 1 = page := Nat.sub_add_cancel hpage
  have hexists : ¬ pagesFor (View.count view) size < page := Nat.not_lt.2 h
  simp only [readPage, Logged.value_bind, if_neg hexists]
  change (view.window ((page - 1) * size) size).map _ = _
  cases hshown : view.shown with
  | none => rw [ListView.window, hshown]; rfl
  | some rows =>
    rw [view.window_of_shown hshown, Option.map_some, Option.map_some, pageAfter,
      view.length_of_shown hshown, hnext]
    rfl

theorem value_readPage_of_lt {page size : Nat} (h : pagesFor view.count size < page) :
    (readPage view page size).value =
      some (.error (.noSuchPage page (pagesFor view.count size))) := by
  have hbeyond : pagesFor (View.count view) size < page := h
  simp only [readPage, Logged.value_bind, if_pos hbeyond]
  rfl

/-! ## The pages fit together -/

/-- **The pages partition the view.** With complete filters and an admissible size, a request
for any page beyond the last is refused. If the view shows its rows, a request for any page up
to the last gives that page of them. It does show them, whatever sorts them, if it is not
sorted or the rows are compared consistently. -/
theorem fetch_paginates (pager : Pager) (view : ListView ρ) (filters : List Filter)
    (sort? : Option SortRequest) (size : Int64) (hfilters : ∀ f ∈ filters, f.Complete)
    (hsize : 1 ≤ size.toInt)
    (hbound : ∀ bound ∈ pager.settings.maxPageSize, size.toInt ≤ bound.toNat) :
    ∃ narrowed : Logged (ListView ρ), pager.narrow view filters = .ok narrowed ∧
      let sorted := (sortAs narrowed.value sort?).value
      let pageCount := sorted.count ⌈/⌉ size.toInt.toNat
      (sorted.Sortable → (sorted.window 0 sorted.count).isSome = true) ∧
      (∀ rows, sorted.window 0 sorted.count = some rows → rows.length = sorted.count ∧
        ∃ pages : List (Page ρ), Paginates rows size.toInt.toNat pages ∧
          ∀ page : Int64, 1 ≤ page.toInt → page.toInt ≤ pageCount →
            ∃ p, pages[page.toInt.toNat - 1]? = some p ∧
              (pager.fetch view ⟨page, size, filters, sort?⟩).value = some (.ok p)) ∧
      ∀ page : Int64, pageCount < page.toInt →
        (pager.fetch view ⟨page, size, filters, sort?⟩).value =
          some (.error (.noSuchPage page.toInt.toNat pageCount)) := by
  refine ⟨pager.narrowChecked view filters, ?_, ?_⟩
  · rw [narrow, checkFilters_eq_ok_iff.2 hfilters]
    rfl
  intro sorted pageCount
  have hpos : 0 < size.toInt.toNat := by omega
  have hwell {page : Int64} (hpage : 1 ≤ page.toInt) :
      WellFormed pager.settings.maxPageSize page.toInt size.toInt filters :=
    ⟨⟨hpage, hsize, hbound⟩, hfilters⟩
  rw [sorted.window_zero le_rfl]
  refine ⟨fun hsortable => ?_, fun rows hrows => ?_, fun page hlt => ?_⟩
  · exact Option.isSome_iff_exists.2 (sorted.exists_shown_of_sortable hsortable)
  · have hlength : rows.length = sorted.count := sorted.length_of_shown hrows
    refine ⟨hlength, pagesOf rows size.toInt.toNat, paginates_pagesOf rows hpos, ?_⟩
    intro page hpage hle
    have hone : 1 ≤ page.toInt.toNat := by omega
    have hle' : page.toInt.toNat ≤ pagesFor sorted.count size.toInt.toNat := Int.toNat_le.2 hle
    have hlt : page.toInt.toNat - 1 < (pagesOf rows size.toInt.toNat).length := by
      rw [length_pagesOf, hlength]
      omega
    refine ⟨_, List.getElem?_eq_getElem hlt, ?_⟩
    have hread := value_readPage_of_le hone hle'
    rw [hrows] at hread
    rw [value_fetch_of_wellFormed (hwell hpage), getElem_pagesOf]
    exact hread
  · have hpage : 1 ≤ page.toInt := by omega
    rw [value_fetch_of_wellFormed (hwell hpage)]
    exact value_readPage_of_lt (Int.lt_toNat.2 hlt)

/-- Five rows on pages of two, the largest size allowed, with a filter that does not
apply: the third page is there, and the fourth is refused. -/
theorem fetch_five_by_two :
    let view : ListView Nat := .of .merge ⟨[], by simp, by simp, by simp⟩ [10, 20, 30, 40, 50]
    let pager : Pager := ⟨⟨some 2, .conjoin⟩, .standard, .byRows fun _ => none⟩
    let filters := [Filter.of "height" .equals "1"]
    (∀ f ∈ filters, f.Complete) ∧ 1 ≤ (2 : Int64).toInt ∧
    (∀ bound ∈ pager.settings.maxPageSize, (2 : Int64).toInt ≤ bound.toNat) ∧
    ∃ pages : List (Page Nat), Paginates [10, 20, 30, 40, 50] 2 pages ∧
      (∃ p, pages[2]? = some p ∧ (pager.fetch view ⟨3, 2, filters, none⟩).value = some (.ok p)) ∧
      (pager.fetch view ⟨4, 2, filters, none⟩).value = some (.error (.noSuchPage 4 3)) := by
  intro view pager filters
  have hfilters : ∀ f ∈ filters, f.Complete := by simp [filters, Filter.Complete, Filter.of, Blank]
  have hbound : ∀ bound ∈ pager.settings.maxPageSize, (2 : Int64).toInt ≤ bound.toNat := by
    simp [pager]
  refine ⟨hfilters, by decide, hbound, ?_⟩
  obtain ⟨narrowed, hnarrowed, -, hpages, hbeyond⟩ :=
    fetch_paginates pager view filters none 2 hfilters (by decide) hbound
  have hsame : pager.narrow view filters = .ok (pager.narrowChecked view filters) := rfl
  obtain rfl := Except.ok.inj (hsame.symm.trans hnarrowed)
  have hcount : (sortAs (pager.narrowChecked view filters).value none).value.count = 5 := rfl
  have hsize : (2 : Int64).toInt.toNat = 2 := rfl
  have hlast : 5 ⌈/⌉ 2 = 3 := rfl
  rw [hcount, hsize, hlast] at hpages hbeyond
  obtain ⟨-, pages, hpaginates, hfetch⟩ := hpages [10, 20, 30, 40, 50] rfl
  exact ⟨pages, hpaginates, hfetch 3 (by decide) (by decide), hbeyond 4 (by decide)⟩

/-! ## When a request is refused -/

/-- Why a request for a page of `rowCount` rows is refused: it is malformed, or else its
page is beyond the last. -/
inductive Refused (bound? : Option UInt64) (rowCount : Nat) (request : PageRequest) :
    Refusal → Prop
  | malformed {e : Refusal}
      (h : Malformed bound? request.page.toInt request.pageSize.toInt request.filters e) :
      Refused bound? rowCount request e
  | noSuchPage
      (h : WellFormed bound? request.page.toInt request.pageSize.toInt request.filters)
      (hpage : (rowCount ⌈/⌉ request.pageSize.toInt.toNat : Nat) < request.page.toInt) :
      Refused bound? rowCount request
        (.noSuchPage request.page.toInt.toNat (rowCount ⌈/⌉ request.pageSize.toInt.toNat))

/-- The requests that are not refused for anything. -/
def Granted (bound? : Option UInt64) (rowCount : Nat) (request : PageRequest) : Prop :=
  WellFormed bound? request.page.toInt request.pageSize.toInt request.filters ∧
    request.page.toInt ≤ (rowCount ⌈/⌉ request.pageSize.toInt.toNat : Nat)

theorem granted_or_refused (bound? : Option UInt64) (rowCount : Nat) (request : PageRequest) :
    Granted bound? rowCount request ∨ ∃ e, Refused bound? rowCount request e := by
  rcases wellFormed_or_malformed bound? request.page.toInt request.pageSize.toInt
    request.filters with hwell | ⟨e, hmal⟩
  · by_cases hpage : request.page.toInt ≤
        (rowCount ⌈/⌉ request.pageSize.toInt.toNat : Nat)
    · exact .inl ⟨hwell, hpage⟩
    · exact .inr ⟨_, .noSuchPage hwell (Int.not_le.1 hpage)⟩
  · exact .inr ⟨e, .malformed hmal⟩

/-- A request that nothing is wrong with gets a page of the rows, if these can be shown. -/
theorem value_fetch_of_granted
    (h : Granted pager.settings.maxPageSize (pager.rowCount view request.filters) request) :
    (pager.fetch view request).value =
      (pager.prepared view request.filters request.sort).shown.map fun rows =>
        .ok (pageAfter rows request.pageSize.toInt.toNat (request.page.toInt.toNat - 1)) := by
  obtain ⟨hwell, hpage⟩ := h
  have hle := Int.toNat_le.2 hpage
  have hpos : 1 ≤ request.page.toInt.toNat := by
    have := hwell.inRange.page_pos
    omega
  rw [← pager.count_prepared view request.filters request.sort, ← pagesFor_eq_ceilDiv] at hle
  rw [value_fetch_of_wellFormed hwell]
  exact value_readPage_of_le hpos hle

/-- A refusal that is called for is given. -/
theorem value_fetch_of_refused {e : Refusal}
    (h : Refused pager.settings.maxPageSize (pager.rowCount view request.filters) request e) :
    (pager.fetch view request).value = some (.error e) := by
  cases h with
  | malformed h => exact value_fetch_of_error (check_of_malformed h)
  | noSuchPage h hpage =>
    have hlt := Int.lt_toNat.2 hpage
    rw [← pager.count_prepared view request.filters request.sort, ← pagesFor_eq_ceilDiv] at hlt ⊢
    rw [value_fetch_of_wellFormed h]
    exact value_readPage_of_lt hlt

/-- A request is refused only for what it is to be refused for. -/
theorem value_fetch_eq_error_iff {e : Refusal} :
    (pager.fetch view request).value = some (.error e) ↔
      Refused pager.settings.maxPageSize (pager.rowCount view request.filters) request e := by
  refine ⟨fun h => ?_, value_fetch_of_refused⟩
  rcases granted_or_refused pager.settings.maxPageSize (pager.rowCount view request.filters)
    request with hgranted | ⟨e', hrefused⟩
  · rw [value_fetch_of_granted hgranted] at h
    obtain ⟨_, _, hpage⟩ := Option.map_eq_some_iff.1 h
    cases hpage
  · rw [value_fetch_of_refused hrefused] at h
    exact Except.error.inj (Option.some.inj h) ▸ hrefused

/-- What is not refused has been granted. -/
theorem granted_of_value_fetch_ne_error
    (h : ∀ e, (pager.fetch view request).value ≠ some (.error e)) :
    Granted pager.settings.maxPageSize (pager.rowCount view request.filters) request := by
  rcases granted_or_refused pager.settings.maxPageSize (pager.rowCount view request.filters)
    request with hgranted | ⟨e, hrefused⟩
  · exact hgranted
  · exact absurd (value_fetch_of_refused hrefused) (h e)

/-- A page is given if the request is granted and the rows are shown. -/
theorem exists_value_fetch_eq_ok_iff :
    (∃ p, (pager.fetch view request).value = some (.ok p)) ↔
      Granted pager.settings.maxPageSize (pager.rowCount view request.filters) request ∧
        (pager.prepared view request.filters request.sort).shown.isSome = true := by
  constructor
  · rintro ⟨p, hp⟩
    have hne (e : Refusal) : (pager.fetch view request).value ≠ some (.error e) :=
      fun he => nomatch hp.symm.trans he
    have hgranted := granted_of_value_fetch_ne_error hne
    rw [value_fetch_of_granted hgranted] at hp
    obtain ⟨rows, hrows, -⟩ := Option.map_eq_some_iff.1 hp
    exact ⟨hgranted, Option.isSome_iff_exists.2 ⟨rows, hrows⟩⟩
  · rintro ⟨hgranted, hshown⟩
    obtain ⟨rows, hrows⟩ := Option.isSome_iff_exists.1 hshown
    rw [value_fetch_of_granted hgranted, hrows]
    exact ⟨_, rfl⟩

/-- There is no outcome if the request is granted and sorting the rows breaks off. -/
theorem value_fetch_eq_none_iff :
    (pager.fetch view request).value = none ↔
      Granted pager.settings.maxPageSize (pager.rowCount view request.filters) request ∧
        (pager.prepared view request.filters request.sort).shown = none := by
  constructor
  · intro h
    have hne (e : Refusal) : (pager.fetch view request).value ≠ some (.error e) :=
      fun he => nomatch h.symm.trans he
    have hgranted := granted_of_value_fetch_ne_error hne
    rw [value_fetch_of_granted hgranted, Option.map_eq_none_iff] at h
    exact ⟨hgranted, h⟩
  · rintro ⟨hgranted, hshown⟩
    rw [value_fetch_of_granted hgranted, hshown, Option.map_none]

/-- **When a request is refused, and why.** A request is refused exactly for the first
thing wrong with it, in the order page, page size, filters, last page. Otherwise it gets a
page, as long as sorting the rows does not break off, which takes a sort key that does not
compare them consistently. Whether a request is malformed depends on its numbers, its filters
and the bound alone: no view, sorting, schema, table of parsers or engine changes that. -/
theorem fetch_contract (pager : Pager) (view : ListView ρ) (request : PageRequest) :
    let granted :=
      Granted pager.settings.maxPageSize (pager.rowCount view request.filters) request
    let sorted := pager.prepared view request.filters request.sort
    let outcome := (pager.fetch view request).value
    (∀ e, outcome = some (.error e) ↔
      Refused pager.settings.maxPageSize (pager.rowCount view request.filters) request e) ∧
    ((∃ p, outcome = some (.ok p)) ↔ granted ∧ sorted.shown.isSome = true) ∧
    (outcome = none ↔ granted ∧ sorted.shown = none) ∧
    (granted → sorted.Sortable → ∃ p, outcome = some (.ok p)) ∧
    ∀ {σ ρ' ι : Type} [View σ ρ' ι] (other : Pager) (view' : σ) (sort? : Option SortRequest),
      other.settings.maxPageSize = pager.settings.maxPageSize →
      ∀ e, (∀ number count, e ≠ .noSuchPage number count) →
        ((other.fetch view' { request with sort := sort? }).value = some (.error e) ↔
          outcome = some (.error e)) := by
  intro granted sorted outcome
  refine ⟨fun e => value_fetch_eq_error_iff, exists_value_fetch_eq_ok_iff,
    value_fetch_eq_none_iff, fun hgranted hsortable => ?_, ?_⟩
  · have hshown := Option.isSome_iff_exists.2 (sorted.exists_shown_of_sortable hsortable)
    exact exists_value_fetch_eq_ok_iff.2 ⟨hgranted, hshown⟩
  · intro σ ρ' ι _ other view' sort? hbound e he
    rw [value_fetch_eq_error_iff_malformed he, value_fetch_eq_error_iff_malformed he, hbound]

end Pager

end PagedQuery
