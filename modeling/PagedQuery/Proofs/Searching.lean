import Mathlib.Data.List.ProdSigma
import PagedQuery.Proofs.Inapplicable
import PagedQuery.Proofs.LikeMatching

/-!
# Searching for words in fields

A search makes a filter for every field and every word, joins those of one field, and
joins the fields in the same way. The nesting is of no consequence: a search asks one
question of every pair of a field and a word to which it applies, and by its connector
the answer must be yes for all of them, for one of them, or for the first.

## Main definitions

* `FirstEmptyPair`: the first pair with an empty member, for which a search is refused.
* `Searchable`, `searchedPairs`: the pairs to which a search applies.
* `Finds`: the question that a search asks of a pair.
* `Connector.Asks`: which pairs have to answer it.
-/

namespace PagedQuery

variable {ρ : Type}

/-! ## Pairs in order -/

/-- Pairs in order by their first and then by their second member: the pair of the `i`-th
and the `j`-th comes after `i` full rounds of the second members. -/
theorem getElem?_product {α β : Type} (xs : List α) (ys : List β) (i : Nat) {j : Nat} {y : β}
    (hy : ys[j]? = some y) : (xs ×ˢ ys)[i * ys.length + j]? = xs[i]?.map (·, y) := by
  have hj : j < ys.length := (List.getElem?_eq_some_iff.1 hy).1
  induction xs generalizing i with
  | nil => simp
  | cons x xs ih =>
    rw [List.product_cons]
    cases i with
    | zero =>
      rw [Nat.zero_mul, Nat.zero_add, List.getElem?_append_left (by simpa using hj),
        List.getElem?_map, hy]
      rfl
    | succ i =>
      have hskip : (i + 1) * ys.length + j = ys.length + (i * ys.length + j) := by
        rw [Nat.succ_mul]
        omega
      rw [List.getElem?_append_right (by simp; omega), List.length_map, hskip,
        Nat.add_sub_cancel_left, ih]
      rfl

/-- Every position in the list of pairs is that of a pair. -/
theorem exists_of_getElem?_product {α β : Type} {xs : List α} {ys : List β} {n : Nat} {p : α × β}
    (h : (xs ×ˢ ys)[n]? = some p) :
    ∃ i j, n = i * ys.length + j ∧ xs[i]? = some p.1 ∧ ys[j]? = some p.2 := by
  have hpos : 0 < ys.length := by
    have hmem := (List.mem_product.1 (List.mem_of_getElem? h)).2
    exact List.length_pos_of_mem hmem
  have hn : n = n / ys.length * ys.length + n % ys.length := (Nat.div_add_mod' n _).symm
  have hy := List.getElem?_eq_getElem (Nat.mod_lt n hpos)
  rw [hn, getElem?_product xs ys _ hy] at h
  obtain ⟨x, hx, rfl⟩ := Option.map_eq_some_iff.1 h
  exact ⟨_, _, hn, hx, hy⟩

/-- What is read off the pairs of each first member in turn is read off all pairs. -/
theorem flatten_filterMap_pairs {α β γ : Type} (g : α × β → Option γ) (xs : List α) (ys : List β) :
    (xs.map fun x => (ys.map (x, ·)).filterMap g).flatten = (xs ×ˢ ys).filterMap g := by
  induction xs with
  | nil => rfl
  | cons x xs ih =>
    rw [List.map_cons, List.flatten_cons, ih, List.product_cons, List.filterMap_append]

/-! ## The filters of a search -/

/-- The filter that searches for a word in a field. -/
def searchFilter (place : Placement) (k : Connector) (p : String × String) : Filter :=
  ⟨some p.1, some p.2, .search place, k⟩

theorem flatten_searches (fields words : List String) (place : Placement) (k : Connector) :
    (fields.map fun field => Pager.searches field words place k).flatten =
      (fields ×ˢ words).map (searchFilter place k) := by
  induction fields with
  | nil => rfl
  | cons field fields ih =>
    rw [List.map_cons, List.flatten_cons, ih, List.product_cons, List.map_append, List.map_map]
    rfl

theorem complete_searchFilter_iff {place : Placement} {k : Connector} {p : String × String} :
    (searchFilter place k p).Complete ↔ p.1 ≠ "" ∧ p.2 ≠ "" := by
  simp [searchFilter, Filter.Complete, Blank]

/-- A pair has an empty member as soon as one of the two lists has, if the other is there
to pair it with. -/
theorem exists_empty_iff {fields words : List String} :
    (∃ p ∈ fields ×ˢ words, p.1 = "" ∨ p.2 = "") ↔
      fields ≠ [] ∧ words ≠ [] ∧ ("" ∈ fields ∨ "" ∈ words) := by
  constructor
  · rintro ⟨⟨field, word⟩, hp, hempty⟩
    obtain ⟨hfield, hword⟩ := List.mem_product.1 hp
    refine ⟨List.ne_nil_of_mem hfield, List.ne_nil_of_mem hword, ?_⟩
    rcases hempty with rfl | rfl
    · exact .inl hfield
    · exact .inr hword
  · rintro ⟨hfields, hwords, hfield | hword⟩
    · obtain ⟨word, hword⟩ := List.exists_mem_of_ne_nil _ hwords
      exact ⟨("", word), List.mem_product.2 ⟨hfield, hword⟩, .inl rfl⟩
    · obtain ⟨field, hfield⟩ := List.exists_mem_of_ne_nil _ hfields
      exact ⟨(field, ""), List.mem_product.2 ⟨hfield, hword⟩, .inr rfl⟩

/-- The filters of a search are complete unless a pair has an empty member. -/
theorem complete_searchFilters_iff {fields words : List String} {place : Placement}
    {k : Connector} :
    (∀ f ∈ (fields ×ˢ words).map (searchFilter place k), f.Complete) ↔
      ¬ ∃ p ∈ fields ×ˢ words, p.1 = "" ∨ p.2 = "" := by
  simp only [List.forall_mem_map, complete_searchFilter_iff, not_exists, not_and, not_or, ne_eq]

/-- A search filter lacks its key if the field is empty, and else its text. -/
theorem lacks_searchFilter {place : Placement} {k : Connector} {p : String × String}
    {part : FilterPart} (h : (searchFilter place k p).Lacks part) :
    (p.1 = "" ∨ p.2 = "") ∧ part = if p.1 = "" then .key else .value := by
  rcases h with hkey | ⟨hkey, hvalue⟩
  · have hempty : p.1 = "" := by simpa [searchFilter, Blank] using hkey
    exact ⟨.inl hempty, (if_pos hempty).symm⟩
  · have hne : p.1 ≠ "" := by simpa [searchFilter, Blank] using hkey
    have hempty : p.2 = "" := by simpa [searchFilter, Blank] using hvalue
    exact ⟨.inr hempty, (if_neg hne).symm⟩

/-- The `i`-th field and the `j`-th word are a pair with an empty member, and no pair
before it is one. The pairs are in order by field, and for one field by word. -/
structure FirstEmptyPair (fields words : List String) (i j : Nat) (field word : String) :
    Prop where
  field_eq : fields[i]? = some field
  word_eq : words[j]? = some word
  empty : field = "" ∨ word = ""
  before : ∀ i' j' field' word', i' < i ∨ i' = i ∧ j' < j → fields[i']? = some field' →
    words[j']? = some word' → field' ≠ "" ∧ word' ≠ ""

/-- The first incomplete filter of a search is that of the first pair with an empty
member. -/
theorem FirstEmptyPair.of_firstIncomplete {fields words : List String} {place : Placement}
    {k : Connector} {index : Nat} {part : FilterPart}
    (h : FirstIncomplete ((fields ×ˢ words).map (searchFilter place k)) index part) :
    ∃ i j field word, FirstEmptyPair fields words i j field word ∧
      index = i * words.length + j ∧ part = if field = "" then .key else .value := by
  obtain ⟨f, hf, hlacks⟩ := h.lacks
  rw [List.getElem?_map] at hf
  obtain ⟨⟨field, word⟩, hp, rfl⟩ := Option.map_eq_some_iff.1 hf
  obtain ⟨i, j, hindex, hfield, hword⟩ := exists_of_getElem?_product hp
  obtain ⟨hempty, hpart⟩ := lacks_searchFilter hlacks
  refine ⟨i, j, field, word, ⟨hfield, hword, hempty, ?_⟩, hindex, hpart⟩
  intro i' j' field' word' hlt hfield' hword'
  have hget : ((fields ×ˢ words).map (searchFilter place k))[i' * words.length + j']? =
      some (searchFilter place k (field', word')) := by
    rw [List.getElem?_map, getElem?_product _ _ _ hword', hfield']
    rfl
  refine complete_searchFilter_iff.1 (h.before _ ?_ _ hget)
  -- the position grows with the pair, since a word's position stays below the number of words
  have hj' : j' < words.length := (List.getElem?_eq_some_iff.1 hword').1
  rcases hlt with hi | ⟨rfl, hj⟩
  · have hround : (i' + 1) * words.length ≤ i * words.length := Nat.mul_le_mul_right _ hi
    rw [Nat.succ_mul] at hround
    omega
  · omega

/-! ## The question asked of a pair -/

/-- Holds of a pair if the field is there and holds strings, and the engine builds the pattern
for the word. -/
def Searchable (schema : Schema ρ) (engine : Regex.Engine) (place : Placement)
    (p : String × String) : Prop :=
  (∃ field ∈ schema.fields, field.name = p.1 ∧ field.kind = .string) ∧
    (LikePattern.build engine (place.around p.2)).isOk = true

instance (schema : Schema ρ) (engine : Regex.Engine) (place : Placement) :
    DecidablePred (Searchable schema engine place) :=
  fun _ => instDecidableAnd

/-- The pairs to which a search applies, in order by field and for one field by word. -/
def searchedPairs (schema : Schema ρ) (engine : Regex.Engine) (fields words : List String)
    (place : Placement) : List (String × String) :=
  (fields ×ˢ words).filter fun p => Searchable schema engine place p

/-- Holds of a pair if the record has a string in the field, and the string matches the
pattern for the word. -/
def Finds (schema : Schema ρ) (place : Placement) (r : ρ) (p : String × String) : Prop :=
  ∃ text, schema.valueOf p.1 r = some (.string text) ∧
    LikeMatches (place.around p.2).toList text.toList

/-- The like test of a pair, which fails if the pattern is not built. -/
def finds (schema : Schema ρ) (engine : Regex.Engine) (place : Placement) (r : ρ)
    (p : String × String) : Bool :=
  match LikePattern.build engine (place.around p.2) with
  | .ok pattern => (schema.valueOf p.1 r).string?.any pattern.accepts
  | .error _ => false

theorem FieldValue.string?_eq_some_iff {v : FieldValue} {text : String} :
    v.string? = some text ↔ v = some (.string text) := by
  rcases v with _ | scalar
  · simp [string?]
  · cases scalar <;> simp [string?, Scalar.string?]

theorem isOk_iff {ε α : Type} {e : Except ε α} : e.isOk = true ↔ ∃ a, e = .ok a := by
  cases e <;> simp [Except.isOk, Except.toBool]

section

variable {schema : Schema ρ} {engine : Regex.Engine} {place : Placement} {k : Connector}
  {p : String × String}

theorem finds_iff {r : ρ} (h : Searchable schema engine place p) :
    finds schema engine place r p = true ↔ Finds schema place r p := by
  obtain ⟨pattern, hpattern⟩ := isOk_iff.1 h.2
  simp only [finds, hpattern, Option.any_eq_true, FieldValue.string?_eq_some_iff,
    LikePattern.accepts_iff, LikePattern.text_of_build hpattern, Finds]

/-- A search that does not apply to a pair has a reason against its filter: the field is not
there or holds no strings, or the pattern is not built. -/
theorem inapplicable_searchFilter (h : ¬ Searchable schema engine place p) :
    (searchFilter place k p).Inapplicable schema .standard engine := by
  by_cases hfield : ∃ field ∈ schema.fields, field.name = p.1
  · obtain ⟨field, hmem, hname⟩ := hfield
    by_cases hkind : field.kind = .string
    · cases hpattern : LikePattern.build engine (place.around p.2) with
      | ok pattern => exact absurd ⟨⟨field, hmem, hname, hkind⟩, isOk_iff.2 ⟨_, hpattern⟩⟩ h
      | error reason => exact .oversized rfl hpattern
    · exact .notSearchable hmem (congrArg some hname.symm) rfl hkind
  · exact .unknownField fun field hmem hkey =>
      hfield ⟨field, hmem, (Option.some.inj hkey).symm⟩

/-- With the usual parsers, a search filter that applies means its like test. -/
theorem condition?_searchFilter (h : Searchable schema engine place p) :
    ∃ pattern, LikePattern.build engine (place.around p.2) = .ok pattern ∧
      (searchFilter place k p).condition? schema .standard engine =
        some (.like p.1 place pattern) := by
  obtain ⟨⟨field, hmem, hname, hkind⟩, hok⟩ := h
  obtain ⟨pattern, hpattern⟩ := isOk_iff.1 hok
  have hlookup : schema.lookup? (some p.1) = some field :=
    Schema.lookup?_eq_some_iff.2 ⟨hmem, congrArg some hname.symm⟩
  have hparse : ParserTable.standard.parse? p.2 field.kind = some (.string p.2) := by
    rw [hkind]
    rfl
  have hsearch : field.kind.isSearchable = true := FieldKind.isSearchable_iff.2 hkind
  refine ⟨pattern, hpattern, ?_⟩
  simp only [Filter.condition?, Filter.outcome, searchFilter, hlookup, Option.getD_some, hparse,
    Filter.comparisonOutcome, Filter.searchOutcome, hsearch, hpattern, hname, if_true]
  rfl

theorem condition?_searchFilter_eq_none_iff :
    (searchFilter place k p).condition? schema .standard engine = none ↔
      ¬ Searchable schema engine place p := by
  constructor
  · intro hnone h
    obtain ⟨pattern, -, hsome⟩ := condition?_searchFilter (k := k) h
    rw [hnone] at hsome
    cases hsome
  · intro h
    exact Filter.condition?_eq_none_iff.2 (inapplicable_searchFilter h)

theorem map_holds_condition?_searchFilter (schema : Schema ρ) (engine : Regex.Engine)
    (place : Placement) (k : Connector) (r : ρ) (p : String × String) :
    ((searchFilter place k p).condition? schema .standard engine).map (·.holds schema r) =
      if Searchable schema engine place p then some (finds schema engine place r p) else none := by
  by_cases h : Searchable schema engine place p
  · obtain ⟨pattern, hpattern, hcondition⟩ := condition?_searchFilter (k := k) h
    rw [if_pos h, hcondition, finds, hpattern]
    rfl
  · rw [if_neg h, condition?_searchFilter_eq_none_iff.2 h]
    rfl

end

/-! ## The connector -/

namespace Connector

variable {α : Type} (k : Connector) (policy : ConnectorPolicy)

/-- Which of several things have to satisfy a test: all of them under a conjunction, one of
them under a disjunction, and the first where all others are dropped. -/
def Asks (test : α → Prop) (xs : List α) : Prop :=
  match k, policy with
  | .and, _ => ∀ x ∈ xs, test x
  | .andAlso, _ => ∀ x ∈ xs, test x
  | .or, _ => ∃ x ∈ xs, test x
  | .orElse, _ => ∃ x ∈ xs, test x
  | .missing, .conjoin => ∀ x ∈ xs, test x
  | .missing, .discard => ∃ x, xs.head? = some x ∧ test x

theorem asks_congr {test test' : α → Prop} {xs : List α} (h : ∀ x ∈ xs, test x ↔ test' x) :
    k.Asks policy test xs ↔ k.Asks policy test' xs := by
  have hall : (∀ x ∈ xs, test x) ↔ ∀ x ∈ xs, test' x := forall₂_congr h
  have hany : (∃ x ∈ xs, test x) ↔ ∃ x ∈ xs, test' x := exists_congr fun x =>
    and_congr_right (h x)
  have hfirst : (∃ x, xs.head? = some x ∧ test x) ↔ ∃ x, xs.head? = some x ∧ test' x :=
    exists_congr fun x => and_congr_right fun hx => h x (List.mem_of_head? hx)
  cases k with
  | missing =>
    cases policy with
    | conjoin => exact hall
    | discard => exact hfirst
  | and | andAlso => exact hall
  | or | orElse => exact hany

theorem foldl_and_eq (b : Bool) (bs : List Bool) : bs.foldl (· && ·) b = (b && bs.all id) := by
  induction bs generalizing b with
  | nil => simp
  | cons c bs ih => simp [ih, Bool.and_assoc]

theorem foldl_or_eq (b : Bool) (bs : List Bool) : bs.foldl (· || ·) b = (b || bs.any id) := by
  induction bs generalizing b with
  | nil => simp
  | cons c bs ih => simp [ih, Bool.or_assoc]

/-- Truths total to what the connector asks. -/
theorem total_map_eq_some_true_iff {test : α → Bool} {xs : List α} (h : xs ≠ []) :
    k.total policy (xs.map test) = some true ↔ k.Asks policy (fun x => test x = true) xs := by
  obtain ⟨x, xs, rfl⟩ := List.exists_cons_of_ne_nil h
  rw [List.map_cons, total, Option.some_inj]
  have hall : (xs.map test).foldl (· && ·) (test x) = true ↔ ∀ y ∈ x :: xs, test y = true := by
    simp [foldl_and_eq]
  have hany : (xs.map test).foldl (· || ·) (test x) = true ↔ ∃ y ∈ x :: xs, test y = true := by
    simp [foldl_or_eq]
  cases k with
  | missing =>
    cases policy with
    | conjoin => exact hall
    | discard =>
      have hfirst : (xs.map test).foldl (fun before _ => before) (test x) = test x := by
        induction xs.map test with
        | nil => rfl
        | cons _ _ ih => exact ih
      have hgoal : (xs.map test).foldl (fun before _ => before) (test x) = true ↔
          ∃ y, (x :: xs).head? = some y ∧ test y = true := by simp [hfirst]
      exact hgoal
  | and | andAlso => exact hall
  | or | orElse => exact hany

end Connector

/-! ## The whole search -/

namespace Pager

variable (settings : Settings) (engine : Regex.Engine) (schema : Schema ρ)
variable (fields words : List String) (place : Placement) (k : Connector)

/-- The condition of a search joins the conditions of its pairs in two steps. -/
theorem searchCondition_eq :
    searchCondition ⟨settings, .standard, engine⟩ schema fields words place k =
      Condition.joinAll settings.policy ((fields.map fun field =>
        Condition.joinAll settings.policy ((words.map fun word =>
          (searchFilter place k (field, word)).condition? schema .standard engine).map (·, k))).map
            (·, k)) := by
  simp only [searchCondition, conditionOf, searches, List.map_map]
  rfl

/-- There is no condition exactly if the search applies to no pair. -/
theorem searchCondition_eq_none_iff :
    searchCondition ⟨settings, .standard, engine⟩ schema fields words place k = none ↔
      searchedPairs schema engine fields words place = [] := by
  rw [searchCondition_eq, Condition.joinAll_eq_none_iff, searchedPairs, List.filter_eq_nil_iff]
  simp only [List.mem_map, forall_exists_index, and_imp, forall_apply_eq_imp_iff₂,
    Condition.joinAll_eq_none_iff, condition?_searchFilter_eq_none_iff, Prod.forall,
    List.mem_product, decide_eq_true_eq]
  exact ⟨fun h field word hfield hword => h field hfield word hword,
    fun h field hfield word hword => h field word hfield hword⟩

/-- On a record the condition of a search totals the tests of all pairs to which it
applies. -/
theorem map_holds_searchCondition (r : ρ) :
    (searchCondition ⟨settings, .standard, engine⟩ schema fields words place k).map
        (·.holds schema r) =
      k.total settings.policy
        ((searchedPairs schema engine fields words place).map (finds schema engine place r)) := by
  have hgroup (field : String) :
      (Condition.joinAll settings.policy ((words.map fun word =>
        (searchFilter place k (field, word)).condition? schema .standard engine).map (·, k))).map
          (·.holds schema r) =
        k.total settings.policy ((words.map (field, ·)).filterMap fun p =>
          if Searchable schema engine place p then some (finds schema engine place r p)
          else none) := by
    rw [Connector.map_holds_joinAll_map, List.filterMap_map, List.filterMap_map]
    simp only [Function.comp_def, map_holds_condition?_searchFilter]
  have htests : ((fields ×ˢ words).filterMap fun p =>
      if Searchable schema engine place p then some (finds schema engine place r p) else none) =
        (searchedPairs schema engine fields words place).map (finds schema engine place r) := by
    rw [searchedPairs, ← List.filterMap_eq_map, List.filterMap_filter]
    simp only [decide_eq_true_eq, Function.comp_apply]
  rw [searchCondition_eq, Connector.map_holds_joinAll_map, List.filterMap_map, ← htests,
    ← flatten_filterMap_pairs, ← Connector.total_flatten, List.filterMap_map]
  simp only [Function.comp_def, hgroup]

/-- A search that applies to some pair asks of a record what its connector says. -/
theorem all_holds_searchCondition_iff (r : ρ)
    (h : searchedPairs schema engine fields words place ≠ []) :
    (searchCondition ⟨settings, .standard, engine⟩ schema fields words place k).all
        (·.holds schema r) = true ↔
      k.Asks settings.policy (Finds schema place r)
        (searchedPairs schema engine fields words place) := by
  have hmap := map_holds_searchCondition settings engine schema fields words place k r
  cases hcondition : searchCondition ⟨settings, .standard, engine⟩ schema fields words place k with
  | none =>
    exact absurd ((searchCondition_eq_none_iff ..).1 hcondition) h
  | some c =>
    rw [hcondition, Option.map_some] at hmap
    rw [Option.all_some, ← Option.some_inj, hmap, k.total_map_eq_some_true_iff settings.policy h]
    exact k.asks_congr _ fun p hp => finds_iff (of_decide_eq_true (List.mem_filter.1 hp).2)

section

variable (pager : Pager) (view : ListView ρ)

/-- A search for whose filters nothing is missing restricts the view by its condition. -/
theorem search_of_complete (h : ∀ f ∈ (fields ×ˢ words).map (searchFilter place k), f.Complete) :
    ∃ searched, pager.search view fields words place k = .ok searched ∧
      searched.value =
        view.restrictBy? (pager.searchCondition view.schema fields words place k) := by
  have hmap := pager.search_eq_map view fields words place k
  rw [flatten_searches, checkFilters_eq_ok_iff.2 h] at hmap
  cases hsearch : pager.search view fields words place k with
  | error e =>
    rw [hsearch] at hmap
    cases hmap
  | ok searched =>
    rw [hsearch] at hmap
    exact ⟨searched, rfl, (Except.ok.inj hmap).trans (view.value_restrictBy _)⟩

/-- A search with an empty member in some pair names the first such pair. -/
theorem search_of_empty (h : ∃ p ∈ fields ×ˢ words, p.1 = "" ∨ p.2 = "") :
    ∃ i j field word, FirstEmptyPair fields words i j field word ∧
      pager.search view fields words place k = .error
        (.incompleteFilter (i * words.length + j) (if field = "" then .key else .value)) := by
  cases hfirst : firstIncomplete? ((fields ×ˢ words).map (searchFilter place k)) with
  | none => exact absurd h (complete_searchFilters_iff.1 (firstIncomplete?_eq_none_iff.1 hfirst))
  | some found =>
    obtain ⟨index, part⟩ := found
    have hincomplete := firstIncomplete?_spec hfirst
    obtain ⟨i, j, field, word, hpair, rfl, rfl⟩ := FirstEmptyPair.of_firstIncomplete hincomplete
    refine ⟨i, j, field, word, hpair, ?_⟩
    simp only [search, flatten_searches, checkFilters_eq_error hincomplete]
    rfl

end

/-- **A search is one question asked of every pair.** It is refused exactly if there is a
pair with an empty member, and the first such pair is named. Otherwise it leaves the view as
it is if it applies to no pair. If it does apply, a record stays if it was kept before and
the pairs to which the search applies find it as the connector asks: all of them, one of
them, or the first. -/
theorem search_asks_pairs (view : ListView ρ) :
    let pager : Pager := ⟨settings, .standard, engine⟩
    let pairs := searchedPairs view.schema engine fields words place
    let hasEmpty := fields ≠ [] ∧ words ≠ [] ∧ ("" ∈ fields ∨ "" ∈ words)
    (hasEmpty → ∃ i j field word, FirstEmptyPair fields words i j field word ∧
      pager.search view fields words place k = .error
        (.incompleteFilter (i * words.length + j) (if field = "" then .key else .value))) ∧
    (¬ hasEmpty → ∃ searched, pager.search view fields words place k = .ok searched ∧
      (pairs = [] → searched.value = view) ∧
      (pairs ≠ [] → searched.value.sorter = view.sorter ∧ searched.value.schema = view.schema ∧
        searched.value.records = view.records ∧ searched.value.key = view.key ∧
        ∀ r, searched.value.keeps r = true ↔ view.keeps r = true ∧
          k.Asks settings.policy (Finds view.schema place r) pairs)) := by
  intro pager pairs hasEmpty
  refine ⟨fun hempty => search_of_empty fields words place k pager view
    (exists_empty_iff.2 hempty), fun hnot => ?_⟩
  obtain ⟨searched, hsearch, hvalue⟩ := search_of_complete fields words place k pager view
    (complete_searchFilters_iff.2 (mt exists_empty_iff.1 hnot))
  refine ⟨searched, hsearch, fun hnone => ?_, fun hsome => ?_⟩
  · rw [hvalue, (searchCondition_eq_none_iff ..).2 hnone]
    rfl
  · rw [hvalue]
    refine ⟨view.sorter_restrictBy? _, view.schema_restrictBy? _, view.records_restrictBy? _,
      view.key_restrictBy? _, ?_⟩
    intro r
    rw [ListView.keeps_restrictBy?, Bool.and_eq_true,
      all_holds_searchCondition_iff settings engine view.schema fields words place k r hsome]

/-- Two words looked for at the start of two fields, of which one holds no strings: a name
that starts with the second word stays. -/
theorem search_start_of_names :
    let schema : Schema String := ⟨[⟨"name", .string, fun s => some (.string s)⟩,
      ⟨"size", .int, fun _ => some (.number (.int 3))⟩], by simp, by simp, by simp⟩
    let view : ListView String := .of .merge schema ["Ada", "Bob", "Eve"]
    let engine := Regex.Engine.byRows fun _ => none
    ∃ searched,
      (standard engine).search view ["size", "name"] ["a", "b"] .atStart .or = .ok searched ∧
      searched.value.keeps "Bob" = true := by
  intro schema view engine
  have hpairs : searchedPairs view.schema engine ["size", "name"] ["a", "b"] .atStart =
      [("name", "a"), ("name", "b")] := by decide
  obtain ⟨searched, hsearch, -, hkept⟩ :=
    (search_asks_pairs .standard engine ["size", "name"] ["a", "b"] .atStart .or view).2 (by simp)
  obtain ⟨-, -, -, -, hkeeps⟩ := hkept (by simp [hpairs])
  refine ⟨searched, hsearch, (hkeeps "Bob").2 ⟨rfl, ?_⟩⟩
  rw [hpairs]
  have hfold : Text.foldCase 'B' = Text.foldCase 'b' := by decide
  have hmatch : LikeMatches ['b', '%'] (['B'] ++ (['o', 'b'] ++ [])) :=
    .cons (.other (by decide) (by decide) hfold) (.cons (.percent ['o', 'b']) .nil)
  exact ⟨("name", "b"), by simp, "Bob", rfl, hmatch⟩

end Pager

end PagedQuery
