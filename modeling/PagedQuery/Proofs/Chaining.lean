import PagedQuery.Proofs.Operations

/-!
# Filters all at once and one at a time

A list of filters that are all joined by conjunction keeps the rows that pass every one of
them. So a view narrowed by the whole list reads like the same view narrowed by one filter
after another, in whatever order: each filter is the first of its own list then, and its
connector is not looked at. Filters that are all joined by disjunction may be put in any
order too, but have to stay together.

## Main definitions

* `ListView.ReadsAlike view other`: the same is read from both views.
* `ListView.history view`: operations that lead to a view.
-/

namespace PagedQuery

variable {ρ : Type}

/-! ## One joint throughout -/

namespace Connector

variable {k : Connector} {policy : ConnectorPolicy}

theorem joint_of_conjoins (h : k.conjoins = true ∨ k = .missing ∧ policy = .conjoin) :
    k.joint policy = .conjunction := by
  rcases h with h | ⟨rfl, rfl⟩
  · cases k with
    | and | andAlso => rfl
    | missing | or | orElse => cases h
  · rfl

theorem joint_of_disjoins (h : k.disjoins = true) : k.joint policy = .disjunction := by
  cases k with
  | or | orElse => rfl
  | missing | and | andAlso => cases h

/-- Under a conjunction all truths count, and there need be none. -/
theorem all_total_and (policy : ConnectorPolicy) (bs : List Bool) :
    (Connector.and.total policy bs).all id = bs.all id := by
  cases bs with
  | nil => rfl
  | cons b bs => exact foldl_and_eq b bs

/-- Under a disjunction one truth is enough, unless there is none. -/
theorem all_total_or (policy : ConnectorPolicy) (bs : List Bool) :
    (Connector.or.total policy bs).all id = (bs.isEmpty || bs.any id) := by
  cases bs with
  | nil => rfl
  | cons b bs => exact foldl_or_eq b bs

end Connector

/-- Of the connectors only their joints matter. -/
theorem Condition.joinAll_of_joint {policy : ConnectorPolicy} {k : Connector}
    {cs : List (Option Condition × Connector)} (h : ∀ p ∈ cs, p.2.joint policy = k.joint policy) :
    joinAll policy cs = joinAll policy ((cs.map (·.1)).map (·, k)) := by
  rw [joinAll, joinAll, List.map_map, List.foldl_map]
  apply List.foldl_ext
  intro before p hp
  obtain ⟨c?, k'⟩ := p
  cases c? with
  | none => cases before <;> rfl
  | some c =>
    cases before with
    | none => rfl
    | some before => exact congrArg (fun joint => some (join joint before c)) (h _ hp)

namespace Pager

variable (pager : Pager) (schema : Schema ρ) {filters : List Filter}

/-- What the filters of a list say about a record, each by itself. -/
def truths (filters : List Filter) (r : ρ) : List Bool :=
  filters.filterMap fun f => (f.condition? schema pager.parsers pager.engine).map (·.holds schema r)

/-- A list with one joint throughout says what its truths total under that joint. -/
theorem map_holds_conditionOf {k : Connector}
    (h : ∀ f ∈ filters, f.connector.joint pager.settings.policy = k.joint pager.settings.policy)
    (r : ρ) :
    (pager.conditionOf schema filters).map (·.holds schema r) =
      k.total pager.settings.policy (pager.truths schema filters r) := by
  rw [conditionOf, Condition.joinAll_of_joint (k := k) (by simpa using h),
    Connector.map_holds_joinAll_map, List.map_map, List.filterMap_map]
  rfl

/-- A list joined by conjunction asks for all its truths. -/
theorem all_conditionOf_of_conjoins
    (h : ∀ f ∈ filters, f.connector.conjoins = true ∨
      f.connector = .missing ∧ pager.settings.policy = .conjoin) (r : ρ) :
    (pager.conditionOf schema filters).all (·.holds schema r) =
      (pager.truths schema filters r).all id := by
  have htotal := pager.map_holds_conditionOf schema (k := .and)
    (fun f hf => Connector.joint_of_conjoins (h f hf)) r
  rw [← Connector.all_total_and pager.settings.policy, ← htotal, Option.all_map]
  rfl

/-- A list joined by disjunction asks for one of its truths. -/
theorem all_conditionOf_of_disjoins (h : ∀ f ∈ filters, f.connector.disjoins = true) (r : ρ) :
    (pager.conditionOf schema filters).all (·.holds schema r) =
      ((pager.truths schema filters r).isEmpty || (pager.truths schema filters r).any id) := by
  have htotal := pager.map_holds_conditionOf schema (k := .or)
    (fun f hf => Connector.joint_of_disjoins (h f hf)) r
  rw [← Connector.all_total_or pager.settings.policy, ← htotal, Option.all_map]
  rfl

/-- A filter by itself means its own condition, whatever its connector. -/
theorem conditionOf_singleton (f : Filter) :
    pager.conditionOf schema [f] = f.condition? schema pager.parsers pager.engine := by
  cases h : f.condition? schema pager.parsers pager.engine <;>
    simp [conditionOf, h, Condition.joinAll, Condition.extend]

/-- Filters that are applied one at a time all have to be passed. -/
theorem all_narrow_each (filters : List Filter) (r : ρ) :
    (filters.map fun f => Operation.narrow pager [f]).all
        (fun op => (op.condition? schema).all (·.holds schema r)) =
      (pager.truths schema filters r).all id := by
  rw [List.all_map, truths, List.all_filterMap]
  congr 1
  funext f
  simp only [Function.comp_apply, Operation.condition?, conditionOf_singleton]
  cases f.condition? schema pager.parsers pager.engine <;> rfl

theorem truths_perm {order : List Filter} (h : order.Perm filters) (r : ρ) :
    (pager.truths schema order r).Perm (pager.truths schema filters r) :=
  h.filterMap _

end Pager

/-! ## Views that read alike -/

namespace ListView

/-- The same is read from both views. -/
structure ReadsAlike (view other : ListView ρ) : Prop where
  count_eq : view.count = other.count
  window_eq : ∀ skip take, view.window skip take = other.window skip take

/-- Operations that lead from a fresh view of the same records to this one. -/
def history (view : ListView ρ) : List Operation :=
  (view.condition.map .restrict).toList ++ (view.key.map .sort).toList

/-- Every view is one after some run of operations. -/
theorem reflects_history (view : ListView ρ) :
    Reflects view.sorter view.schema view.records view.history view where
  sorter_eq := rfl
  schema_eq := rfl
  records_eq := rfl
  keeps_eq r := by
    rw [keeps, history]
    cases view.condition <;> cases view.key <;> simp [Operation.condition?]
  key_eq := by
    rw [keyInForce, history]
    cases view.condition <;> cases view.key <;> simp [Operation.key?]

end ListView

namespace Reflects

variable {sorter : Sorter ρ} {schema : Schema ρ} {records : List ρ}
  {ops more more' : List Operation} {view : ListView ρ}

/-- Views after two runs with the same rows kept and the same key in force read alike. -/
theorem readsAlike {ops' : List Operation} {view' : ListView ρ}
    (h : Reflects sorter schema records ops view) (h' : Reflects sorter schema records ops' view')
    (hkept : kept schema records ops = kept schema records ops')
    (hkey : keyInForce schema ops = keyInForce schema ops') : view.ReadsAlike view' where
  count_eq := by rw [ListView.count, ListView.count, h.matching_eq, h'.matching_eq, hkept]
  window_eq skip take := by
    rw [ListView.window, ListView.window, h.shown_eq, h'.shown_eq, eager, eager, hkept, hkey]

theorem keyInForce_append (h : ∀ op ∈ more, op.isSorting = false) :
    keyInForce schema (ops ++ more) = keyInForce schema ops := by
  have hnone : more.filterMap (·.key? schema) = [] :=
    List.filterMap_eq_nil_iff.2 fun op hop => Operation.key?_of_not_isSorting (h op hop)
  rw [keyInForce, List.filterMap_append, hnone, List.append_nil, keyInForce]

/-- Two runs of restrictions that every record passes alike lead on to views that read
alike. -/
theorem run_readsAlike (h : Reflects sorter schema records ops view) (hmore : ∀ op ∈ more, op.Valid)
    (hmore' : ∀ op ∈ more', op.Valid) (hsort : ∀ op ∈ more, op.isSorting = false)
    (hsort' : ∀ op ∈ more', op.isSorting = false)
    (hpass : ∀ r, more.all (fun op => (op.condition? schema).all (·.holds schema r)) =
      more'.all fun op => (op.condition? schema).all (·.holds schema r)) :
    ∃ a b, Operation.run view more = .ok a ∧ Operation.run view more' = .ok b ∧
      a.ReadsAlike b := by
  obtain ⟨a, ha, hreflects⟩ := h.run hmore
  obtain ⟨b, hb, hreflects'⟩ := h.run hmore'
  refine ⟨a, b, ha, hb, hreflects.readsAlike hreflects' ?_ ?_⟩
  · simp only [kept, List.all_append, hpass]
  · rw [keyInForce_append hsort, keyInForce_append hsort']

end Reflects

/-! ## The whole list -/

namespace Pager

variable (pager : Pager) (view : ListView ρ) {filters order : List Filter}

theorem run_narrow (filters : List Filter) :
    Operation.run view [.narrow pager filters] = (pager.narrow view filters).map Logged.value := by
  rw [Operation.run, List.foldlM_cons]
  exact bind_pure _

/-- **Filters joined by conjunction may be applied one at a time and in any order**, and
filters joined by disjunction may be put in any order. The list of complete filters is
accepted at once and one by one, and the views that result have the same count and the
same windows, whatever the view was restricted to and sorted by before. -/
theorem narrow_any_order (hcomplete : ∀ f ∈ filters, f.Complete) (hperm : order.Perm filters) :
    ((∀ f ∈ filters, f.connector.conjoins = true ∨
        f.connector = .missing ∧ pager.settings.policy = .conjoin) →
      ∃ whole chained, (pager.narrow view filters).map Logged.value = .ok whole ∧
        Operation.run view (order.map fun f => .narrow pager [f]) = .ok chained ∧
        whole.ReadsAlike chained) ∧
    ((∀ f ∈ filters, f.connector.disjoins = true) →
      ∃ whole permuted, (pager.narrow view filters).map Logged.value = .ok whole ∧
        (pager.narrow view order).map Logged.value = .ok permuted ∧
        whole.ReadsAlike permuted) := by
  have hcomplete' : ∀ f ∈ order, f.Complete := fun f hf => hcomplete f (hperm.mem_iff.1 hf)
  constructor
  · intro hconjoins
    rw [← run_narrow]
    apply view.reflects_history.run_readsAlike
    · simpa [Operation.Valid] using hcomplete
    · simpa [Operation.Valid] using hcomplete'
    · simp [Operation.isSorting]
    · simp [Operation.isSorting]
    · intro r
      rw [all_narrow_each, (pager.truths_perm view.schema hperm r).all_eq,
        ← pager.all_conditionOf_of_conjoins view.schema hconjoins]
      simp [Operation.condition?]
  · intro hdisjoins
    have hdisjoins' : ∀ f ∈ order, f.connector.disjoins = true :=
      fun f hf => hdisjoins f (hperm.mem_iff.1 hf)
    rw [← run_narrow, ← run_narrow]
    apply view.reflects_history.run_readsAlike
    · simpa [Operation.Valid] using hcomplete
    · simpa [Operation.Valid] using hcomplete'
    · simp [Operation.isSorting]
    · simp [Operation.isSorting]
    · intro r
      have htruths := pager.truths_perm view.schema hperm r
      simp only [List.all_cons, List.all_nil, Bool.and_true, Operation.condition?,
        pager.all_conditionOf_of_disjoins view.schema hdisjoins,
        pager.all_conditionOf_of_disjoins view.schema hdisjoins', htruths.any_eq,
        htruths.isEmpty_eq]

/-- Three filters at once, and one at a time from the last to the first. The one in the
middle does not apply, and the last one, for a number below 3, is then the first. -/
theorem narrow_between :
    let schema : Schema FieldValue := ⟨[⟨"value", .int, id⟩], by simp, by simp, by simp⟩
    let view : ListView FieldValue := .of .merge schema
      [some (.number (.int 3)), some (.number (.int 1)), none, some (.number (.int 2))]
    let pager := standard (.byRows fun _ => none)
    let filters : List Filter := [.of "value" (.order .gt) "1",
      ⟨some "weight", some "7", .equals, .and⟩, ⟨some "value", some "3", .order .lt, .andAlso⟩]
    (∀ f ∈ filters, f.Complete) ∧ filters.reverse.Perm filters ∧
    (∀ f ∈ filters, f.connector.conjoins = true ∨
      f.connector = .missing ∧ pager.settings.policy = .conjoin) ∧
    ∃ chained,
      Operation.run view (filters.reverse.map fun f => .narrow pager [f]) = .ok chained ∧
      chained.count = 1 ∧ chained.window 0 4 = some [some (.number (.int 2))] := by
  intro schema view pager filters
  have hcomplete : ∀ f ∈ filters, f.Complete := by
    simp [filters, Filter.Complete, Filter.of, Blank]
  have hconjoins : ∀ f ∈ filters, f.connector.conjoins = true ∨
      f.connector = .missing ∧ pager.settings.policy = .conjoin := by
    simp [filters, pager, Filter.of, Connector.conjoins, standard, Settings.standard]
  have hperm : filters.reverse.Perm filters := List.reverse_perm _
  refine ⟨hcomplete, hperm, hconjoins, ?_⟩
  obtain ⟨whole, chained, hwhole, hchained, halike⟩ :=
    (narrow_any_order pager view hcomplete hperm).1 hconjoins
  obtain rfl := Except.ok.inj hwhole
  refine ⟨chained, hchained, ?_, ?_⟩
  · rw [← halike.count_eq]
    rfl
  · rw [← halike.window_eq]
    rfl

end Pager

end PagedQuery
