import PagedQuery.Proofs.Fetching
import PagedQuery.Proofs.Ranks

/-!
# The arithmetic of pages in words

The numbers of a page are worked out from two words of the request and a third that the view
reports. Each step of the computation has a result in words only under a condition: no divisor
is zero, no difference is negative, and no product is too large. The order of the checks meets
these conditions. A row count is divided only by a size that is at least one, and the window is
taken only of a page that is there: then the rows before it are fewer than all rows, however
large the numbers of the request are.

## Main definitions

* `wordSub?`, `wordAdd?`, `wordMul?`, `wordCeilDiv?`: arithmetic of words, where the exact result
  is a word.
* `windowInWords?`: the number of pages and the place of a window, worked out in words.
* `View.Agrees view`: the windows of a view hold as many rows as it counts.
-/

namespace PagedQuery

-- Powers are those of the core library, whatever others are in scope.
attribute [local instance (high)] instPowNat

/-! ## Words -/

/-- The difference of two words, if it is not negative. -/
def wordSub? (a b : UInt64) : Option UInt64 := if b ≤ a then some (a - b) else none

/-- The sum of two words, if it is a word. -/
def wordAdd? (a b : UInt64) : Option UInt64 :=
  if a.toNat + b.toNat < 2 ^ (64 : Nat) then some (a + b) else none

/-- The product of two words, if it is a word. -/
def wordMul? (a b : UInt64) : Option UInt64 :=
  if a.toNat * b.toNat < 2 ^ (64 : Nat) then some (a * b) else none

/-- The quotient of two words, rounded up. There is none by zero. -/
def wordCeilDiv? (a b : UInt64) : Option UInt64 :=
  if b = 0 then none
  else if a % b = 0 then some (a / b)
  else wordAdd? (a / b) 1

section

variable {a b : UInt64}

theorem map_wordSub? (h : b.toNat ≤ a.toNat) :
    (wordSub? a b).map UInt64.toNat = some (a.toNat - b.toNat) := by
  have hle : b ≤ a := UInt64.le_iff_toNat_le.2 h
  rw [wordSub?, if_pos hle, Option.map_some, UInt64.toNat_sub_of_le a b hle]

theorem map_wordAdd? (h : a.toNat + b.toNat < 2 ^ (64 : Nat)) :
    (wordAdd? a b).map UInt64.toNat = some (a.toNat + b.toNat) := by
  rw [wordAdd?, if_pos h, Option.map_some, UInt64.toNat_add, Nat.mod_eq_of_lt h]

theorem map_wordMul? (h : a.toNat * b.toNat < 2 ^ (64 : Nat)) :
    (wordMul? a b).map UInt64.toNat = some (a.toNat * b.toNat) := by
  rw [wordMul?, if_pos h, Option.map_some, UInt64.toNat_mul, Nat.mod_eq_of_lt h]

/-- A positive signed word is the same number without a sign. -/
theorem toNat_toUInt64_of_pos {n : Int64} (h : 1 ≤ n.toInt) :
    n.toUInt64.toNat = n.toInt.toNat := by
  have hneg : ¬ n < 0 := by
    rw [Int64.lt_iff_toInt_lt]
    exact Int.not_lt.2 (Int.le_trans (by decide) h)
  have hvalue := toNat_toUInt64 hneg
  omega

/-- Rounding up adds one to a quotient that leaves a remainder. -/
theorem pagesFor_eq_div {n size : Nat} (h : 1 ≤ size) :
    pagesFor n size = if n % size = 0 then n / size else n / size + 1 := by
  have hsplit := Nat.div_add_mod n size
  have hlt := Nat.mod_lt n h
  have hsucc : (n / size + 1) * size = size * (n / size) + size := by
    rw [Nat.succ_mul, Nat.mul_comm]
  have hmul : n / size * size = size * (n / size) := Nat.mul_comm ..
  rw [pagesFor]
  split
  · exact Nat.div_eq_of_lt_le (by omega) (by omega)
  · have hnext : (n / size + 1 + 1) * size = (n / size + 1) * size + size := Nat.succ_mul ..
    exact Nat.div_eq_of_lt_le (by omega) (by omega)

/-- A divisor that leaves a remainder is two at least, so there is a word above the quotient. -/
theorem map_wordCeilDiv? (h : 1 ≤ b.toNat) :
    (wordCeilDiv? a b).map UInt64.toNat = some (pagesFor a.toNat b.toNat) := by
  have hne : b ≠ 0 := by
    rintro rfl
    simp at h
  have hrem : a % b = 0 ↔ a.toNat % b.toNat = 0 := by
    rw [← UInt64.toNat_inj, UInt64.toNat_mod, UInt64.toNat_zero]
  rw [wordCeilDiv?, if_neg hne, pagesFor_eq_div h]
  by_cases hzero : a.toNat % b.toNat = 0
  · rw [if_pos (hrem.2 hzero), if_pos hzero, Option.map_some, UInt64.toNat_div]
  · have htwo : 2 ≤ b.toNat := by
      by_contra hlt
      have hone : b.toNat = 1 := by omega
      rw [hone, Nat.mod_one] at hzero
      exact hzero rfl
    have hhalf : a.toNat / b.toNat ≤ a.toNat / 2 := Nat.div_le_div_left htwo (by decide)
    have hword : (a / b).toNat + (1 : UInt64).toNat < 2 ^ (64 : Nat) := by
      have hlt := a.toNat_lt
      rw [UInt64.toNat_div, UInt64.toNat_one]
      omega
    rw [if_neg (mt hrem.1 hzero), if_neg hzero, map_wordAdd? hword, UInt64.toNat_div,
      UInt64.toNat_one]

end

/-! ## The window of a page -/

/-- The number of pages for a number of rows and, if the page is there, the number of rows before
it, worked out in words. -/
def windowInWords? (page size rowCount : UInt64) : Option (UInt64 × Option UInt64) := do
  let pageCount ← wordCeilDiv? rowCount size
  if pageCount < page then pure (pageCount, none)
  else do
    let before ← wordSub? page 1
    let skip ← wordMul? before size
    pure (pageCount, some skip)

/-- A page that is there has fewer rows before it than there are in all. -/
theorem skip_lt {page size rowCount : Nat} (hpage : 1 ≤ page) (hsize : 1 ≤ size)
    (h : page ≤ pagesFor rowCount size) : (page - 1) * size < rowCount := by
  rw [Nat.mul_comm]
  exact (lt_pagesFor_iff hsize).1 (by omega)

/-- With positive numbers no step fails, and the results are exact. -/
theorem windowInWords?_eq (page size rowCount : UInt64) (hpage : 1 ≤ page.toNat)
    (hsize : 1 ≤ size.toNat) :
    ∃ pageCount skip?, windowInWords? page size rowCount = some (pageCount, skip?) ∧
      pageCount.toNat = pagesFor rowCount.toNat size.toNat ∧
      skip?.map UInt64.toNat =
        if pagesFor rowCount.toNat size.toNat < page.toNat then none
        else some ((page.toNat - 1) * size.toNat) := by
  obtain ⟨pageCount, hdiv, hcount⟩ :=
    Option.map_eq_some_iff.1 (map_wordCeilDiv? (a := rowCount) hsize)
  rw [← hcount]
  by_cases hbeyond : pageCount < page
  · refine ⟨pageCount, none, ?_, rfl, (if_pos (UInt64.lt_iff_toNat_lt.1 hbeyond)).symm⟩
    simp only [windowInWords?, hdiv, Option.bind_eq_bind, Option.bind_some, if_pos hbeyond]
    rfl
  · have hle : page.toNat ≤ pageCount.toNat :=
      Nat.not_lt.1 (mt UInt64.lt_iff_toNat_lt.2 hbeyond)
    obtain ⟨before, hsub, hbefore⟩ :=
      Option.map_eq_some_iff.1 (map_wordSub? (a := page) (b := 1) hpage)
    rw [UInt64.toNat_one] at hbefore
    have hfits : before.toNat * size.toNat < 2 ^ (64 : Nat) := by
      rw [hbefore]
      exact Nat.lt_trans (skip_lt hpage hsize (hcount ▸ hle)) rowCount.toNat_lt
    obtain ⟨skip, hmul, hskip⟩ := Option.map_eq_some_iff.1 (map_wordMul? hfits)
    refine ⟨pageCount, some skip, ?_, rfl, ?_⟩
    · simp only [windowInWords?, hdiv, hsub, hmul, Option.bind_eq_bind, Option.bind_some,
        if_neg hbeyond]
      rfl
    · rw [if_neg (Nat.not_lt.2 hle), Option.map_some, hskip, hbefore]

/-! ## What is read of a view -/

/-- Holds of the calls that read a view. -/
def ViewCall.reads : ViewCall → Bool
  | count => true
  | window .. => true
  | restrict _ => false
  | sort _ => false

/-- The calls of a journal that read a view. -/
def Journal.readings (j : Journal) : List ViewCall := j.calls.filter ViewCall.reads

@[simp] theorem Journal.readings_append (j k : Journal) :
    readings (j ++ k) = readings j ++ readings k := by
  simp [readings]

theorem Journal.mem_readings {j : Journal} {c : ViewCall} (h : c.reads = true) :
    c ∈ j.calls ↔ c ∈ j.readings := by
  simp [readings, h]

section Views

variable {σ ρ ι : Type} [View σ ρ ι]

/-- The windows that the view gives hold as many rows as it counts. -/
def View.Agrees (view : σ) : Prop :=
  ∀ skip take rows, View.window view skip take = some rows →
    rows.length = min take (View.count view - skip)

theorem ListView.agrees (view : ListView ρ) : View.Agrees view := by
  intro skip take rows hrows
  obtain ⟨all, hall, rfl⟩ := Option.map_eq_some_iff.1 hrows
  rw [List.length_take, List.length_drop, view.length_of_shown hall]
  rfl

/-- A view is sorted without being read. -/
theorem readings_sortAs (view : σ) (sort? : Option SortRequest) :
    (sortAs view sort?).journal.readings = [] := by
  cases sort? with
  | none => rfl
  | some sort =>
    obtain ⟨name, direction?⟩ := sort
    cases direction? with
    | none => rfl
    | some direction =>
      cases hlookup : (View.schema view).lookup? (some name) with
      | none => simp only [sortAs, hlookup]; rfl
      | some field => simp only [sortAs, hlookup]; rfl

namespace Pager

variable {pager : Pager}

/-- A view is narrowed without being read. -/
theorem readings_narrowChecked (view : σ) (filters : List Filter) :
    (pager.narrowChecked view filters).journal.readings = [] := by
  have hcompile : (pager.compile view filters).journal.readings = [] := by
    rw [Journal.readings, calls_compile]
    rfl
  rw [narrowChecked, Logged.journal_bind, Journal.readings_append, hcompile, List.nil_append]
  cases (pager.compile view filters).value <;> rfl

/-- A view is counted first, and its window is taken only if the page is there. -/
theorem readings_readPage (view : σ) (page size : Nat) :
    (readPage view page size).journal.readings =
      .count :: if pagesFor (View.count view) size < page then []
        else [.window ((page - 1) * size) size] := by
  by_cases hbeyond : pagesFor (View.count view) size < page
  · simp only [readPage, if_pos hbeyond]
    rfl
  · simp only [readPage, if_neg hbeyond]
    rfl

theorem window_mem_readings_readPage (view : σ) {page size skip take : Nat} :
    .window skip take ∈ (readPage view page size).journal.readings ↔
      page ≤ pagesFor (View.count view) size ∧ skip = (page - 1) * size ∧ take = size := by
  rw [readings_readPage, ← Nat.not_lt]
  split
  · next hbeyond => simp [hbeyond]
  · next hbeyond => simp [hbeyond]

variable {view : σ} {request : PageRequest}

theorem readings_fetch_of_wellFormed
    (h : WellFormed pager.settings.maxPageSize request.page.toInt request.pageSize.toInt
      request.filters) :
    (pager.fetch view request).journal.readings =
      (readPage (pager.prepared view request.filters request.sort) request.page.toInt.toNat
        request.pageSize.toInt.toNat).journal.readings := by
  rw [journal_fetch_of_wellFormed h, Journal.readings_append, Journal.readings_append,
    readings_narrowChecked, readings_sortAs, List.nil_append, List.nil_append]

/-- Only the rows for a well-formed request are counted. -/
theorem count_mem_calls_iff :
    .count ∈ (pager.fetch view request).journal.calls ↔
      WellFormed pager.settings.maxPageSize request.page.toInt request.pageSize.toInt
        request.filters := by
  constructor
  · intro h
    rcases wellFormed_or_malformed pager.settings.maxPageSize request.page.toInt
      request.pageSize.toInt request.filters with hwell | ⟨e, hmalformed⟩
    · exact hwell
    · rw [journal_fetch_of_malformed hmalformed] at h
      cases h
  · intro h
    rw [Journal.mem_readings rfl, readings_fetch_of_wellFormed h, readings_readPage]
    exact List.mem_cons_self

/-- The window that is taken is that of a page that is there. -/
theorem window_mem_calls_iff {skip take : Nat} :
    .window skip take ∈ (pager.fetch view request).journal.calls ↔
      WellFormed pager.settings.maxPageSize request.page.toInt request.pageSize.toInt
        request.filters ∧
      request.page.toInt.toNat ≤
        pagesFor (View.count (pager.prepared view request.filters request.sort))
          request.pageSize.toInt.toNat ∧
      skip = (request.page.toInt.toNat - 1) * request.pageSize.toInt.toNat ∧
      take = request.pageSize.toInt.toNat := by
  rcases wellFormed_or_malformed pager.settings.maxPageSize request.page.toInt
    request.pageSize.toInt request.filters with hwell | ⟨e, hmalformed⟩
  · rw [Journal.mem_readings rfl, readings_fetch_of_wellFormed hwell,
      window_mem_readings_readPage, and_iff_right hwell]
  · have hcalls : (pager.fetch view request).journal.calls = [] := by
      rw [journal_fetch_of_malformed hmalformed]
      rfl
    have hnot : ¬ WellFormed pager.settings.maxPageSize request.page.toInt
        request.pageSize.toInt request.filters := by
      intro hwell
      cases (check_of_wellFormed hwell).symm.trans (check_of_malformed hmalformed)
    simp only [hcalls, List.not_mem_nil, hnot, false_and]

/-- The window taken for a request begins at a row of a view with `rowCount` rows. -/
structure WindowInside (request : PageRequest) (rowCount skip take : Nat) : Prop where
  page_pos : 1 ≤ request.page.toInt
  skip_eq : (skip : Int) = (request.page.toInt - 1) * request.pageSize.toInt
  take_eq : (take : Int) = request.pageSize.toInt
  skip_lt : skip < rowCount

theorem windowInside_of_mem_calls {skip take : Nat}
    (h : .window skip take ∈ (pager.fetch view request).journal.calls) :
    WindowInside request (View.count (pager.prepared view request.filters request.sort)) skip
      take := by
  obtain ⟨hwell, hexists, rfl, rfl⟩ := window_mem_calls_iff.1 h
  have hpage := hwell.inRange.page_pos
  have hsize := hwell.inRange.size_pos
  refine ⟨hpage, ?_, Int.toNat_of_nonneg (by omega), skip_lt (by omega) (by omega) hexists⟩
  rw [Int.natCast_mul, Int.natCast_sub (by omega), Int.toNat_of_nonneg (by omega),
    Int.toNat_of_nonneg (by omega)]
  rfl

/-- Where windows agree with the count, the window that is taken has a row. -/
theorem window_ne_nil {skip take : Nat} {source : σ}
    (h : WindowInside request (View.count source) skip take)
    (hsize : 1 ≤ request.pageSize.toInt) (hagrees : View.Agrees source) :
    View.window source skip take ≠ some [] := by
  intro hnil
  have hlength := hagrees skip take [] hnil
  have htake := h.take_eq
  have hskip := h.skip_lt
  rw [List.length_nil] at hlength
  omega

/-- **The arithmetic of a page stays within words.** The rows for a request are counted, and
their number is divided by the page size, exactly if the request is well-formed, and then the
size is at least one. With a count that is a word, every step of the arithmetic in words has its
exact result: it gives the number of pages and, if the page is there, the window that is taken.
That window begins at one of the rows counted, so it is not empty if the view agrees with its
count. -/
theorem fetch_in_words (pager : Pager) (view : σ) (request : PageRequest)
    (hword : View.count (pager.prepared view request.filters request.sort) < 2 ^ (64 : Nat)) :
    let source := pager.prepared view request.filters request.sort
    let calls := (pager.fetch view request).journal.calls
    (.count ∈ calls ↔ WellFormed pager.settings.maxPageSize request.page.toInt
      request.pageSize.toInt request.filters) ∧
    (.count ∈ calls → 1 ≤ request.pageSize.toInt ∧
      ∃ pageCount skip?,
        windowInWords? request.page.toUInt64 request.pageSize.toUInt64
          (.ofNat (View.count source)) = some (pageCount, skip?) ∧
        pageCount.toNat = View.count source ⌈/⌉ request.pageSize.toInt.toNat ∧
        ∀ skip take, .window skip take ∈ calls ↔
          skip?.map UInt64.toNat = some skip ∧ take = request.pageSize.toInt.toNat) ∧
    ∀ skip take, .window skip take ∈ calls →
      WindowInside request (View.count source) skip take ∧
      (View.Agrees source → View.window source skip take ≠ some []) := by
  intro source calls
  refine ⟨count_mem_calls_iff, fun hcount => ?_, fun skip take h => ?_⟩
  · have hwell := count_mem_calls_iff.1 hcount
    have hpage := hwell.inRange.page_pos
    have hsize := hwell.inRange.size_pos
    have hpageWord := toNat_toUInt64_of_pos hpage
    have hsizeWord := toNat_toUInt64_of_pos hsize
    have hrows : (UInt64.ofNat (View.count source)).toNat = View.count source :=
      UInt64.toNat_ofNat_of_lt' hword
    obtain ⟨pageCount, skip?, hwords, hpages, hskip⟩ :=
      windowInWords?_eq request.page.toUInt64 request.pageSize.toUInt64
        (.ofNat (View.count source)) (by omega) (by omega)
    rw [hrows, hsizeWord] at hpages hskip
    rw [hpageWord] at hskip
    refine ⟨hsize, pageCount, skip?, hwords, hpages, fun skip take => ?_⟩
    rw [hskip, window_mem_calls_iff, and_iff_right hwell, Option.ite_none_left_eq_some, Nat.not_lt,
      Option.some_inj, and_assoc, eq_comm (a := skip)]
  · have hinside := windowInside_of_mem_calls h
    have hwell := (window_mem_calls_iff.1 h).1
    exact ⟨hinside, window_ne_nil hinside hwell.inRange.size_pos⟩

/-- The greatest page number and the greatest row count: the window begins four rows before the
first number that is no word. -/
theorem fetch_in_words_last :
    let view : ListView Unit :=
      .of .merge ⟨[], by simp, by simp, by simp⟩ (List.replicate (2 ^ (64 : Nat) - 1) ())
    let pager := standard (.byRows fun _ => none)
    let request : PageRequest := .of Int64.maxValue 2
    let calls := (pager.fetch view request).journal.calls
    View.count (pager.prepared view request.filters request.sort) < 2 ^ (64 : Nat) ∧
    .count ∈ calls ∧ .window (2 ^ (64 : Nat) - 4) 2 ∈ calls ∧
    windowInWords? Int64.maxValue.toUInt64 2 (.ofNat (2 ^ (64 : Nat) - 1)) =
      some (.ofNat (2 ^ (63 : Nat)), some (.ofNat (2 ^ (64 : Nat) - 4))) ∧
    View.Agrees view ∧ View.window view (2 ^ (64 : Nat) - 4) 2 ≠ some [] := by
  intro view pager request calls
  have hrows : View.count (pager.prepared view request.filters request.sort) =
      2 ^ (64 : Nat) - 1 := by
    change (view.records.filter fun _ => true).length = _
    rw [List.filter_true]
    exact List.length_replicate
  have hword : View.count (pager.prepared view request.filters request.sort) <
      2 ^ (64 : Nat) := by
    rw [hrows]
    decide
  have hwell : WellFormed pager.settings.maxPageSize request.page.toInt
      request.pageSize.toInt request.filters :=
    ⟨⟨by decide, by decide, fun _ h => nomatch h⟩, fun _ h => nomatch h⟩
  obtain ⟨hcount, hwords, hwindow⟩ := fetch_in_words pager view request hword
  obtain ⟨-, pageCount, skip?, hcomputed, -, htaken⟩ := hwords (hcount.2 hwell)
  rw [hrows] at hcomputed
  have hvalue : windowInWords? Int64.maxValue.toUInt64 2 (.ofNat (2 ^ (64 : Nat) - 1)) =
      some (.ofNat (2 ^ (63 : Nat)), some (.ofNat (2 ^ (64 : Nat) - 4))) := by decide
  obtain ⟨rfl, rfl⟩ := Prod.mk.inj (Option.some.inj (hvalue.symm.trans hcomputed))
  have htake := (htaken (2 ^ (64 : Nat) - 4) 2).2 ⟨by decide, rfl⟩
  exact ⟨hword, hcount.2 hwell, htake, hvalue, view.agrees, (hwindow _ _ htake).2 view.agrees⟩

end Pager

end Views

end PagedQuery
