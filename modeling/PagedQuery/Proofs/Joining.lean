import PagedQuery.Condition.Join

/-!
# What joined conditions mean

A list of filters is joined into one tree before a record is seen. Read on a record, the
tree says what the list says when it is gone through from left to right with one truth in
hand: the first condition there is gives the truth to start from, and every further one
is weighed against it by its own connector.

Where one connector joins everything, nothing depends on how the conditions are grouped,
so a list of groups reads like the list of all their members.

## Main definitions

* `Connector.weigh`: the truth in hand after one more condition.
* `Condition.truths`, `Condition.readThrough`: a list of filters read on a record.
* `Condition.connected`: a list without what follows the first condition unconnected.
* `Connector.total`: many truths under one connector.
-/

namespace PagedQuery

variable {ρ : Type}

/-- The truth in hand after a condition of the given truth, joined by the connector. -/
def Connector.weigh (k : Connector) (policy : ConnectorPolicy) (before truth : Bool) : Bool :=
  match k, policy with
  | .and, _ => before && truth
  | .andAlso, _ => before && truth
  | .or, _ => before || truth
  | .orElse, _ => before || truth
  | .missing, .conjoin => before && truth
  | .missing, .discard => before

namespace Condition

/-! ## Reading a list from left to right -/

/-- The truths of the conditions that are there, each with its connector. -/
def truths (schema : Schema ρ) (r : ρ) (cs : List (Option Condition × Connector)) :
    List (Bool × Connector) :=
  cs.filterMap fun (c?, k) => c?.map fun c => (c.holds schema r, k)

/-- Goes on with the truth `before` in hand. -/
def readOn (policy : ConnectorPolicy) (before : Bool) (ts : List (Bool × Connector)) : Bool :=
  ts.foldl (fun before (truth, k) => k.weigh policy before truth) before

/-- Starts from the first truth, whatever its connector, and goes on from there. There is
nothing to read in an empty list. -/
def readThrough (policy : ConnectorPolicy) : List (Bool × Connector) → Option Bool
  | [] => none
  | (first, _) :: rest => some (readOn policy first rest)

/-- The list without the filters that follow the first condition there is and have no
connector. -/
def connected : List (Option Condition × Connector) → List (Option Condition × Connector)
  | [] => []
  | (none, k) :: cs => (none, k) :: connected cs
  | (some c, k) :: cs => (some c, k) :: cs.filter fun p => p.2 ≠ .missing

variable (policy : ConnectorPolicy) (cs : List (Option Condition × Connector))
variable (schema : Schema ρ) (r : ρ)

/-! ## One more condition -/

/-- A joint of two trees weighs their truths. -/
theorem holds_join (k : Connector) (before c : Condition) :
    (join (k.joint policy) before c).holds schema r =
      k.weigh policy (before.holds schema r) (c.holds schema r) := by
  cases k with
  | missing => cases policy <;> rfl
  | and | andAlso | or | orElse => rfl

/-- The tree that grows from a first condition. -/
def joinOnto (before : Condition) : Condition :=
  cs.foldl (fun before (c?, k) => c?.elim before (join (k.joint policy) before)) before

/-- Once there is a tree there stays one. -/
theorem foldl_extend_some (before : Condition) :
    cs.foldl (extend policy) (some before) = some (joinOnto policy cs before) := by
  induction cs generalizing before with
  | nil => rfl
  | cons p cs ih =>
    obtain ⟨c?, k⟩ := p
    cases c? with
    | none => exact ih before
    | some c => exact ih (join (k.joint policy) before c)

theorem joinAll_cons_some (c : Condition) (k : Connector) :
    joinAll policy ((some c, k) :: cs) = some (joinOnto policy cs c) :=
  foldl_extend_some policy cs c

/-- The truth of the tree is the one in hand. A filter that has no condition leaves both as
they are, and any other is weighed against both. -/
theorem holds_joinOnto (before : Condition) :
    (joinOnto policy cs before).holds schema r =
      readOn policy (before.holds schema r) (truths schema r cs) := by
  induction cs generalizing before with
  | nil => rfl
  | cons p cs ih =>
    obtain ⟨c?, k⟩ := p
    cases c? with
    | none => exact ih before
    | some c =>
      have hrest := ih (join (k.joint policy) before c)
      rw [holds_join] at hrest
      exact hrest

/-! ## The whole list -/

/-- The tree of a list says what the list says when it is read. -/
theorem map_holds_joinAll :
    (joinAll policy cs).map (·.holds schema r) = readThrough policy (truths schema r cs) := by
  induction cs with
  | nil => rfl
  | cons p cs ih =>
    obtain ⟨c?, k⟩ := p
    cases c? with
    | none => exact ih
    | some c =>
      rw [joinAll_cons_some, Option.map_some, holds_joinOnto]
      rfl

/-- A list has a tree as soon as one of its filters has a condition. -/
theorem joinAll_eq_none_iff : joinAll policy cs = none ↔ ∀ p ∈ cs, p.1 = none := by
  induction cs with
  | nil => simp [joinAll]
  | cons p cs ih =>
    obtain ⟨c?, k⟩ := p
    rw [List.forall_mem_cons]
    cases c? with
    | none =>
      have hskip : joinAll policy ((none, k) :: cs) = joinAll policy cs := rfl
      rw [hskip, ih]
      simp
    | some c => simp [joinAll_cons_some]

/-- A filter without a condition leaves no trace, wherever it stands. -/
theorem joinAll_filter_isSome : joinAll policy (cs.filter (·.1.isSome)) = joinAll policy cs := by
  have hstep : (fun before (p : Option Condition × Connector) =>
      if p.1.isSome = true then extend policy before p else before) = extend policy := by
    funext before ⟨c?, k⟩
    cases c? with
    | none => cases before <;> rfl
    | some c => rfl
  rw [joinAll, List.foldl_filter, hstep]
  rfl

/-- The truth that comes last is weighed against that of all before it. -/
theorem readThrough_concat (ts : List (Bool × Connector)) (truth : Bool) (k : Connector) :
    readThrough policy (ts ++ [(truth, k)]) =
      some (match readThrough policy ts with
        | none => truth
        | some before => k.weigh policy before truth) := by
  cases ts with
  | nil => rfl
  | cons t ts => simp [readThrough, readOn]

/-! ## Dropping what is not connected -/

/-- Under a tree, filters without a connector are dropped one by one. -/
theorem foldl_extend_discard (before : Condition) :
    (cs.filter fun p => p.2 ≠ .missing).foldl (extend .discard) (some before) =
      cs.foldl (extend .discard) (some before) := by
  induction cs generalizing before with
  | nil => rfl
  | cons p cs ih =>
    obtain ⟨c?, k⟩ := p
    by_cases hk : k = .missing
    · subst hk
      cases c? with
      | none => exact ih before
      | some c => exact ih before
    · rw [List.filter_cons_of_pos (by simpa using hk), List.foldl_cons, List.foldl_cons]
      cases c? with
      | none => exact ih before
      | some c => exact ih _

theorem joinAll_connected : joinAll .discard (connected cs) = joinAll .discard cs := by
  induction cs with
  | nil => rfl
  | cons p cs ih =>
    obtain ⟨c?, k⟩ := p
    cases c? with
    | none => exact ih
    | some c => exact foldl_extend_discard cs c

/-- **A list of filters is read from left to right.** There is a tree unless no filter
has a condition, and on every record it has the truth that the list is read to have:
filters without a condition change nothing, the first condition starts, and each further
one is weighed against the truth in hand. No connector binds more tightly than another,
for the last one joins its condition to the whole list before it. Where a missing
connector discards, the filters so discarded may as well be deleted. -/
theorem joinAll_reads_left_to_right :
    (joinAll policy cs = none ↔ ∀ p ∈ cs, p.1 = none) ∧
    (joinAll policy cs).map (·.holds schema r) = readThrough policy (truths schema r cs) ∧
    joinAll policy (cs.filter (·.1.isSome)) = joinAll policy cs ∧
    (∀ c k, (joinAll policy (cs ++ [(some c, k)])).map (·.holds schema r) =
      some (match (joinAll policy cs).map (·.holds schema r) with
        | none => c.holds schema r
        | some before => k.weigh policy before (c.holds schema r))) ∧
    joinAll .discard (connected cs) = joinAll .discard cs := by
  refine ⟨joinAll_eq_none_iff policy cs, map_holds_joinAll policy cs schema r,
    joinAll_filter_isSome policy cs, ?_, joinAll_connected cs⟩
  intro c k
  have htruths : truths schema r (cs ++ [(some c, k)]) =
      truths schema r cs ++ [(c.holds schema r, k)] := by
    rw [truths, List.filterMap_append]
    rfl
  rw [map_holds_joinAll, htruths, readThrough_concat, map_holds_joinAll]

end Condition

/-! ## One connector throughout -/

namespace Connector

variable (k : Connector) (policy : ConnectorPolicy)

/-- Many truths with the same connector between any two; nothing if there are none. -/
def total : List Bool → Option Bool
  | [] => none
  | first :: rest => some (rest.foldl (k.weigh policy) first)

/-- Every connector is associative, the one that drops its right side included. -/
instance : Std.Associative (k.weigh policy) where
  assoc a b c := by
    cases k with
    | missing => cases policy <;> simp [weigh, Bool.and_assoc]
    | and | andAlso => exact Bool.and_assoc a b c
    | or | orElse => exact Bool.or_assoc a b c

theorem total_append (bs cs : List Bool) :
    k.total policy (bs ++ cs) =
      Option.merge (k.weigh policy) (k.total policy bs) (k.total policy cs) := by
  cases bs with
  | nil => cases cs <;> rfl
  | cons b bs =>
    cases cs with
    | nil => simp [total]
    | cons c cs =>
      have hfold : cs.foldl (k.weigh policy) (k.weigh policy (bs.foldl (k.weigh policy) b) c) =
          k.weigh policy (bs.foldl (k.weigh policy) b) (cs.foldl (k.weigh policy) c) :=
        List.foldl_assoc
      simp only [total, List.cons_append, List.foldl_append, List.foldl_cons, hfold]
      rfl

/-- Truths in groups total what they total without the groups. Empty groups take no
part. -/
theorem total_flatten (groups : List (List Bool)) :
    k.total policy (groups.filterMap (k.total policy)) = k.total policy groups.flatten := by
  induction groups with
  | nil => rfl
  | cons group groups ih =>
    cases group with
    | nil => exact ih
    | cons b bs =>
      have hfirst : (b :: bs) :: groups = [b :: bs] ++ groups := rfl
      rw [hfirst, List.filterMap_append, total_append, ih, List.flatten_append, total_append]
      simp [total]

/-- Conditions joined by one connector total their truths. -/
theorem map_holds_joinAll_map (cs : List (Option Condition)) (schema : Schema ρ) (r : ρ) :
    (Condition.joinAll policy (cs.map (·, k))).map (·.holds schema r) =
      k.total policy (cs.filterMap (·.map (·.holds schema r))) := by
  have htruths : Condition.truths schema r (cs.map (·, k)) =
      (cs.filterMap (·.map (·.holds schema r))).map (·, k) := by
    rw [Condition.truths, List.filterMap_map, List.map_filterMap]
    congr 1
    funext c?
    cases c? <;> rfl
  rw [Condition.map_holds_joinAll, htruths]
  cases cs.filterMap (·.map (·.holds schema r)) with
  | nil => rfl
  | cons b bs =>
    simp only [List.map_cons, Condition.readThrough, Condition.readOn, List.foldl_map]
    rfl

end Connector

end PagedQuery
