import PagedQuery.Paging.Fetch

/-!
# What is checked before a view is read

A request is refused for its numbers or for an incomplete filter, whichever is found
first, and the refusal is a matter of these alone: no view, no schema and no parser has a
say in it.

## Main definitions

* `Filter.Complete`, `Filter.Lacks`: what a filter must have, and which part is missed.
* `FirstIncomplete filters index part`: the first filter that lacks something.
* `InRange`, `WellFormed`: the requests that pass.
* `Malformed`: the refusals of the others, in the order of the checks.
-/

namespace PagedQuery

/-! ## Incomplete filters -/

/-- Holds of a part that is absent or empty. -/
def Blank (part : Option String) : Prop := part = none ∨ part = some ""

/-- Holds of a filter with a key and a text, neither of them empty. -/
def Filter.Complete (f : Filter) : Prop := ¬ Blank f.key ∧ ¬ Blank f.value

/-- The part that is missed first: the key if it is blank, and otherwise the text. -/
inductive Filter.Lacks (f : Filter) : FilterPart → Prop
  | key (h : Blank f.key) : f.Lacks .key
  | value (hkey : ¬ Blank f.key) (h : Blank f.value) : f.Lacks .value

theorem isBlank_iff {part : Option String} : Filter.isBlank part = true ↔ Blank part := by
  cases part <;> simp [Filter.isBlank, Blank]

theorem Filter.lacks?_eq_some_iff {f : Filter} {part : FilterPart} :
    f.lacks? = some part ↔ f.Lacks part := by
  unfold lacks?
  by_cases hkey : Blank f.key
  · rw [if_pos (isBlank_iff.2 hkey), Option.some_inj]
    constructor
    · rintro rfl
      exact .key hkey
    · rintro (_ | hnot)
      · rfl
      · exact absurd hkey hnot
  · rw [if_neg (mt isBlank_iff.1 hkey)]
    by_cases hvalue : Blank f.value
    · rw [if_pos (isBlank_iff.2 hvalue), Option.some_inj]
      constructor
      · rintro rfl
        exact .value hkey hvalue
      · rintro (h | _)
        · exact absurd h hkey
        · rfl
    · rw [if_neg (mt isBlank_iff.1 hvalue)]
      constructor
      · intro h
        cases h
      · rintro (h | ⟨_, h⟩)
        · exact absurd h hkey
        · exact absurd h hvalue

/-- A filter either is complete or lacks a part. -/
theorem Filter.complete_iff {f : Filter} : f.Complete ↔ ∀ part, ¬ f.Lacks part := by
  constructor
  · rintro ⟨hkey, hvalue⟩ _ (h | ⟨_, h⟩)
    · exact hkey h
    · exact hvalue h
  · intro h
    have hkey : ¬ Blank f.key := fun hk => h .key (.key hk)
    exact ⟨hkey, fun hv => h .value (.value hkey hv)⟩

theorem Filter.lacks?_eq_none_iff {f : Filter} : f.lacks? = none ↔ f.Complete := by
  simp only [Filter.complete_iff, ← Filter.lacks?_eq_some_iff, Option.eq_none_iff_forall_ne_some,
    ne_eq]

/-- The filter at `index` lacks `part`, and no filter before it lacks anything. -/
structure FirstIncomplete (filters : List Filter) (index : Nat) (part : FilterPart) : Prop where
  lacks : ∃ f, filters[index]? = some f ∧ f.Lacks part
  before : ∀ j < index, ∀ f, filters[j]? = some f → f.Complete

/-- No filter is incomplete exactly if the search finds none. -/
theorem firstIncomplete?_eq_none_iff {filters : List Filter} :
    firstIncomplete? filters = none ↔ ∀ f ∈ filters, f.Complete := by
  induction filters with
  | nil => simp [firstIncomplete?]
  | cons f fs ih =>
    rw [List.forall_mem_cons, ← ih, ← Filter.lacks?_eq_none_iff, firstIncomplete?]
    cases h : f.lacks? with
    | none => simp
    | some part => simp

/-- The search finds the first incomplete filter, wherever in the list it stands. -/
theorem firstIncomplete?_spec {filters : List Filter} {index : Nat} {part : FilterPart}
    (h : firstIncomplete? filters = some (index, part)) :
    FirstIncomplete filters index part := by
  induction filters generalizing index with
  | nil => cases h
  | cons f fs ih =>
    rw [firstIncomplete?] at h
    cases hf : f.lacks? with
    | some p =>
      rw [hf] at h
      obtain ⟨rfl, rfl⟩ := Prod.mk.inj (Option.some.inj h)
      exact ⟨⟨f, rfl, Filter.lacks?_eq_some_iff.1 hf⟩, fun j hj => absurd hj j.not_lt_zero⟩
    | none =>
      rw [hf] at h
      obtain ⟨⟨i, p⟩, hi, heq⟩ := Option.map_eq_some_iff.1 h
      obtain ⟨rfl, rfl⟩ := Prod.mk.inj heq
      obtain ⟨hlacks, hbefore⟩ := ih hi
      refine ⟨hlacks, fun j hj g hg => ?_⟩
      cases j with
      | zero =>
        obtain rfl : f = g := Option.some.inj hg
        exact Filter.lacks?_eq_none_iff.1 hf
      | succ j => exact hbefore j (Nat.lt_of_succ_lt_succ hj) g hg

/-- No two filters of a list are its first incomplete one. -/
theorem FirstIncomplete.unique {filters : List Filter} {i j : Nat} {p q : FilterPart}
    (hi : FirstIncomplete filters i p) (hj : FirstIncomplete filters j q) : i = j ∧ p = q := by
  obtain ⟨⟨f, hf, hp⟩, hbi⟩ := hi
  obtain ⟨⟨g, hg, hq⟩, hbj⟩ := hj
  have hij : i = j := by
    rcases Nat.lt_trichotomy i j with hlt | heq | hgt
    · exact absurd hp (Filter.complete_iff.1 (hbj i hlt f hf) p)
    · exact heq
    · exact absurd hq (Filter.complete_iff.1 (hbi j hgt g hg) q)
  subst hij
  obtain rfl : f = g := Option.some.inj (hf.symm.trans hg)
  have hpq := (Filter.lacks?_eq_some_iff.2 hp).symm.trans (Filter.lacks?_eq_some_iff.2 hq)
  exact ⟨rfl, Option.some.inj hpq⟩

theorem firstIncomplete?_eq_some_iff {filters : List Filter} {index : Nat} {part : FilterPart} :
    firstIncomplete? filters = some (index, part) ↔ FirstIncomplete filters index part := by
  refine ⟨firstIncomplete?_spec, fun h => ?_⟩
  cases hfound : firstIncomplete? filters with
  | none =>
    obtain ⟨f, hf, hlacks⟩ := h.lacks
    have hall := firstIncomplete?_eq_none_iff.1 hfound
    exact absurd hlacks (Filter.complete_iff.1 (hall f (List.mem_of_getElem? hf)) part)
  | some found =>
    obtain ⟨i, p⟩ := found
    obtain ⟨rfl, rfl⟩ := h.unique (firstIncomplete?_spec hfound)
    rfl

/-- A list of filters passes exactly if all of them are complete. -/
theorem checkFilters_eq_ok_iff {filters : List Filter} :
    checkFilters filters = .ok () ↔ ∀ f ∈ filters, f.Complete := by
  rw [← firstIncomplete?_eq_none_iff, checkFilters]
  cases firstIncomplete? filters <;> simp

theorem checkFilters_eq_error {filters : List Filter} {index : Nat} {part : FilterPart}
    (h : FirstIncomplete filters index part) :
    checkFilters filters = .error (.incompleteFilter index part) := by
  rw [checkFilters, firstIncomplete?_eq_some_iff.2 h]

/-- Complete filters are accepted for every view. -/
theorem Pager.narrow_of_complete {σ ρ ι : Type} [View σ ρ ι] (pager : Pager) (view : σ)
    {filters : List Filter} (h : ∀ f ∈ filters, f.Complete) :
    pager.narrow view filters = .ok (pager.narrowChecked view filters) := by
  rw [narrow, checkFilters_eq_ok_iff.2 h]
  rfl

/-! ## The numbers of a request -/

theorem positive_of_lt {argument : PageArgument} {value : Int64} (h : value.toInt < 1) :
    positive argument value = .error (.badArgument argument (.notPositive value.toInt)) :=
  if_pos h

theorem positive_of_le {argument : PageArgument} {value : Int64} (h : 1 ≤ value.toInt) :
    positive argument value = .ok value.toInt.toNat :=
  if_neg (Int.not_lt.2 h)

/-- The page number and the page size are positive, and the size is within the bound, if
there is one. -/
structure InRange (bound? : Option UInt64) (page size : Int) : Prop where
  page_pos : 1 ≤ page
  size_pos : 1 ≤ size
  size_le : ∀ bound ∈ bound?, size ≤ bound.toNat

/-- The requests that are carried out: numbers in range and all filters complete. -/
structure WellFormed (bound? : Option UInt64) (page size : Int) (filters : List Filter) : Prop where
  inRange : InRange bound? page size
  complete : ∀ f ∈ filters, f.Complete

/-- Why a request is not carried out. Each constructor asks that the checks before its
own have been passed. -/
inductive Malformed (bound? : Option UInt64) (page size : Int) (filters : List Filter) :
    Refusal → Prop
  | page (h : page < 1) :
      Malformed bound? page size filters (.badArgument .page (.notPositive page))
  | size (hpage : 1 ≤ page) (h : size < 1) :
      Malformed bound? page size filters (.badArgument .pageSize (.notPositive size))
  | bound (hpage : 1 ≤ page) (hsize : 1 ≤ size) {bound : UInt64} (hbound : bound? = some bound)
      (h : bound.toNat < size) :
      Malformed bound? page size filters
        (.badArgument .pageSize (.aboveBound bound.toNat size.toNat))
  | filter (hrange : InRange bound? page size) {index : Nat} {part : FilterPart}
      (h : FirstIncomplete filters index part) :
      Malformed bound? page size filters (.incompleteFilter index part)

/-- Every request is well-formed or malformed in some way. -/
theorem wellFormed_or_malformed (bound? : Option UInt64) (page size : Int)
    (filters : List Filter) :
    WellFormed bound? page size filters ∨ ∃ e, Malformed bound? page size filters e := by
  by_cases hpage : page < 1
  · exact .inr ⟨_, .page hpage⟩
  by_cases hsize : size < 1
  · exact .inr ⟨_, .size (Int.not_lt.1 hpage) hsize⟩
  by_cases hbound : ∃ bound : UInt64, bound? = some bound ∧ bound.toNat < size
  · obtain ⟨bound, hsome, hlt⟩ := hbound
    exact .inr ⟨_, .bound (Int.not_lt.1 hpage) (Int.not_lt.1 hsize) hsome hlt⟩
  have hrange : InRange bound? page size :=
    ⟨Int.not_lt.1 hpage, Int.not_lt.1 hsize,
      fun bound hsome => Int.not_lt.1 fun hlt => hbound ⟨bound, hsome, hlt⟩⟩
  cases hfound : firstIncomplete? filters with
  | none => exact .inl ⟨hrange, firstIncomplete?_eq_none_iff.1 hfound⟩
  | some found => exact .inr ⟨_, .filter hrange (firstIncomplete?_spec hfound)⟩

namespace Pager

variable {pager : Pager} {request : PageRequest}

theorem checkBound_of_inRange {page size : Int} (h : InRange pager.settings.maxPageSize page size) :
    pager.checkBound size.toNat = .ok () := by
  unfold checkBound
  cases hm : pager.settings.maxPageSize with
  | none => rfl
  | some bound =>
    have hle := h.size_le bound hm
    exact if_neg (by omega)

theorem checkBound_of_lt {size : Nat} {bound : UInt64}
    (hm : pager.settings.maxPageSize = some bound) (h : bound.toNat < size) :
    pager.checkBound size = .error (.badArgument .pageSize (.aboveBound bound.toNat size)) := by
  rw [checkBound, hm]
  exact if_pos h

/-- With positive numbers the bound comes next, and the filters last. -/
theorem check_of_pos (hpage : 1 ≤ request.page.toInt) (hsize : 1 ≤ request.pageSize.toInt) :
    pager.check request =
      (pager.checkBound request.pageSize.toInt.toNat >>= fun _ =>
        checkFilters request.filters >>= fun _ =>
          pure (request.page.toInt.toNat, request.pageSize.toInt.toNat)) := by
  rw [check, positive_of_le hpage, positive_of_le hsize]
  rfl

/-- A well-formed request passes the checks with its own numbers. -/
theorem check_of_wellFormed
    (h : WellFormed pager.settings.maxPageSize request.page.toInt request.pageSize.toInt
      request.filters) :
    pager.check request = .ok (request.page.toInt.toNat, request.pageSize.toInt.toNat) := by
  rw [check_of_pos h.inRange.page_pos h.inRange.size_pos, checkBound_of_inRange h.inRange,
    checkFilters_eq_ok_iff.2 h.complete]
  rfl

/-- A malformed request is refused for the reason given. -/
theorem check_of_malformed {e : Refusal}
    (h : Malformed pager.settings.maxPageSize request.page.toInt request.pageSize.toInt
      request.filters e) :
    pager.check request = .error e := by
  cases h with
  | page h =>
    rw [check, positive_of_lt h]
    rfl
  | size hpage h =>
    rw [check, positive_of_le hpage, positive_of_lt h]
    rfl
  | bound hpage hsize hm h =>
    rw [check_of_pos hpage hsize, checkBound_of_lt hm (Int.lt_toNat.2 h)]
    rfl
  | filter hrange h =>
    rw [check_of_pos hrange.page_pos hrange.size_pos, checkBound_of_inRange hrange,
      checkFilters_eq_error h]
    rfl

/-- The checks refuse exactly the malformed requests. -/
theorem check_eq_error_iff {e : Refusal} :
    pager.check request = .error e ↔
      Malformed pager.settings.maxPageSize request.page.toInt request.pageSize.toInt
        request.filters e := by
  refine ⟨fun h => ?_, check_of_malformed⟩
  rcases wellFormed_or_malformed pager.settings.maxPageSize request.page.toInt
    request.pageSize.toInt request.filters with hwell | ⟨e', hmal⟩
  · rw [check_of_wellFormed hwell] at h
    cases h
  · obtain rfl : e' = e := Except.error.inj ((check_of_malformed hmal).symm.trans h)
    exact hmal

end Pager

end PagedQuery
