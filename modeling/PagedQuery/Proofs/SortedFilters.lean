import PagedQuery.Proofs.SortedViews

/-!
# Conditions on sorted views

Conditions and sortings go by one order of the values. In a view sorted by a field of one
family, the rows with less than a literal come first, then those with as much, and the
rows without a place, for which no comparison holds, come after all of these. In the other
direction it is the rows with more that come first.

Conditions of any kind only leave rows out. Since the sorting is stable, it is no matter
whether they do so before it or after.

## Main definitions

* `Direction.before`, `Direction.upTo`: the relations of the values that come before a
  literal in a direction, without and with the literal itself.
-/

namespace PagedQuery

variable {ρ : Type}

/-! ## Parts of a list -/

section Parts

variable {α : Type} {p q : α → Bool} {l : List α}

/-- Elements that come first are a prefix. -/
theorem filter_comes_first (h : l.Pairwise fun a b => p b → p a) : l.filter p <+: l :=
  ⟨_, filter_append_filter_not h⟩

/-- What lies between two prefixes is in one piece. -/
theorem filter_in_one_piece (hp : l.Pairwise fun a b => p b → p a)
    (hq : l.Pairwise fun a b => q b → q a) : l.filter (fun a => !p a && q a) <:+: l := by
  have hinner : (l.filter q).filter p ++ (l.filter q).filter (fun a => !p a) = l.filter q :=
    filter_append_filter_not (hp.filter q)
  refine ⟨(l.filter q).filter p, l.filter fun a => !q a, ?_⟩
  rw [← List.filter_filter, hinner, filter_append_filter_not hq]

end Parts

/-! ## Conditions by the places of rows -/

/-- A value compares with a literal of its family by their ranks. Next to a NaN and for a
missing value there is no comparison. -/
theorem FieldValue.bind_compare? {v : FieldValue} {literal : Scalar}
    (h : ∀ a, v = some a → a.family = literal.family) :
    v.bind (·.compare? literal) =
      if literal.isNaN then none else v.rank?.map (compare · literal.rank) := by
  rcases v.comesLast_or_rank with ⟨hlast, hrank⟩ | ⟨a, rfl, ha, hrank⟩
  · rw [hrank, Option.map_none, ite_self]
    cases v with
    | none => rfl
    | some a => exact Scalar.compare?_of_isNaN (h a rfl) (.inl hlast)
  · rw [hrank, Option.map_some, Option.bind_some]
    cases hliteral : literal.isNaN with
    | true => exact Scalar.compare?_of_isNaN (h a rfl) (.inr hliteral)
    | false => exact Scalar.compare?_eq_rank (h a rfl) ha hliteral

/-- The family of the values of a field can be checked row by row. -/
theorem Schema.family_eq_of_all (schema : Schema ρ) {field : String} {rows : List ρ}
    {family : Scalar.Family}
    (h : rows.all (fun r => (schema.valueOf field r).all (·.family == family)) = true) :
    ∀ r ∈ rows, ∀ a, schema.valueOf field r = some a → a.family = family := by
  intro r hr a ha
  have hvalue := List.all_eq_true.1 h r hr
  rw [ha] at hvalue
  exact eq_of_beq hvalue

/-- A value equals a literal exactly if it compares as equal. -/
theorem Scalar.equals?_beq (a literal : Scalar) :
    (a.equals? literal == some true) = (a.compare? literal).any (· == .eq) := by
  cases a <;> cases literal
  case number.number m n => cases h : m.compare? n <;> simp [equals?, compare?, h]
  all_goals simp [equals?, compare?]

namespace Direction

/-- The relation to a literal of the values that come before it. -/
def before : Direction → OrderRelation
  | asc => .lt
  | desc => .gt

/-- The relation to a literal of the values that come before it or are equal to it. -/
def upTo : Direction → OrderRelation
  | asc => .lte
  | desc => .gte

theorem holds_before (d : Direction) : d.before.holds = fun o => d.apply o == .lt := by
  funext o
  cases d <;> cases o <;> rfl

theorem holds_upTo (d : Direction) : d.upTo.holds = fun o => d.apply o != .gt := by
  funext o
  cases d <;> cases o <;> rfl

theorem beq_eq (d : Direction) : (· == Ordering.eq) = fun o => d.apply o == .eq := by
  funext o
  cases d <;> cases o <;> rfl

end Direction

namespace Condition

variable {schema : Schema ρ} {field : String} {literal : Scalar} {r : ρ}

/-- A test that the values after a literal fail looks at the place of a row alone. -/
theorem any_bind_compare? (h : ∀ a, schema.valueOf field r = some a → a.family = literal.family)
    (d : Direction) (test : Ordering → Bool) (htest : test .gt = false) :
    ((schema.valueOf field r).bind (·.compare? literal)).any (fun o => test (d.apply o)) =
      (!literal.isNaN && test (d.rankOrder (schema.placeOf field r) (some literal.rank))) := by
  rw [FieldValue.bind_compare? h, Schema.placeOf]
  cases literal.isNaN with
  | true => rfl
  | false =>
    cases (schema.valueOf field r).rank? with
    | none => exact htest.symm
    | some x => rfl

variable (h : ∀ a, schema.valueOf field r = some a → a.family = literal.family) (d : Direction)

include h

theorem holds_before : (order field d.before literal).holds schema r =
    (!literal.isNaN && d.rankOrder (schema.placeOf field r) (some literal.rank) == .lt) := by
  rw [holds, d.holds_before]
  exact any_bind_compare? h d (· == .lt) rfl

theorem holds_upTo : (order field d.upTo literal).holds schema r =
    (!literal.isNaN && d.rankOrder (schema.placeOf field r) (some literal.rank) != .gt) := by
  rw [holds, d.holds_upTo]
  exact any_bind_compare? h d (· != .gt) rfl

theorem holds_equals : (equals field literal).holds schema r =
    (!literal.isNaN && d.rankOrder (schema.placeOf field r) (some literal.rank) == .eq) := by
  have hequals : (equals field literal).holds schema r =
      ((schema.valueOf field r).bind (·.compare? literal)).any (· == .eq) := by
    rw [holds]
    cases schema.valueOf field r with
    | none => rfl
    | some a => exact Scalar.equals?_beq a literal
  rw [hequals, d.beq_eq]
  exact any_bind_compare? h d (· == .eq) rfl

end Condition

/-! ## What comes first -/

section

variable {schema : Schema ρ} {field : String} {literal : Scalar} {rows : List ρ} {d : Direction}
  (h : ∀ r ∈ rows, ∀ a, schema.valueOf field r = some a → a.family = literal.family)
  (hrows : rows.Pairwise fun r s => SortKey.rowOrder schema ⟨field, d⟩ r s ≠ .gt)

include h hrows

/-- In front of a row that comes before the literal every row does. -/
theorem pairwise_before : rows.Pairwise fun r s =>
    (Condition.order field d.before literal).holds schema s →
      (Condition.order field d.before literal).holds schema r := by
  refine hrows.imp_of_mem fun {r s} hr hs hrs hholds => ?_
  rw [Condition.holds_before (h s hs), Bool.and_eq_true, beq_iff_eq] at hholds
  rw [Condition.holds_before (h r hr), Bool.and_eq_true, beq_iff_eq]
  exact ⟨hholds.1, Std.TransCmp.lt_of_isLE_of_lt (Ordering.ne_gt_iff_isLE.1 hrs) hholds.2⟩

/-- In front of a row that does not come after the literal no row does. -/
theorem pairwise_upTo : rows.Pairwise fun r s =>
    (Condition.order field d.upTo literal).holds schema s →
      (Condition.order field d.upTo literal).holds schema r := by
  refine hrows.imp_of_mem fun {r s} hr hs hrs hholds => ?_
  rw [Condition.holds_upTo (h s hs), Bool.and_eq_true] at hholds
  rw [Condition.holds_upTo (h r hr), Bool.and_eq_true]
  exact ⟨hholds.1, bne_gt_trans _ _ _ (bne_iff_ne.2 hrs) hholds.2⟩

/-- The rows that are equal to the literal are those up to it, without those before it. -/
theorem filter_equals_in_one_piece :
    rows.filter ((Condition.equals field literal).holds schema) <:+: rows := by
  have hequals : ∀ r ∈ rows, (Condition.equals field literal).holds schema r =
      (!(Condition.order field d.before literal).holds schema r &&
        (Condition.order field d.upTo literal).holds schema r) := by
    intro r hr
    rw [Condition.holds_equals (h r hr) d, Condition.holds_before (h r hr),
      Condition.holds_upTo (h r hr)]
    cases literal.isNaN <;>
      cases d.rankOrder (schema.placeOf field r) (some literal.rank) <;> rfl
  rw [List.filter_congr hequals]
  exact filter_in_one_piece (pairwise_before h hrows) (pairwise_upTo h hrows)

end

namespace ListView

variable (view : ListView ρ)

/-- **Conditions and sortings go by one order.** Take a field whose values are missing or of
one family, and a literal of that family. In the view sorted by the field from the smallest
on, the rows with less than the literal are a prefix, and so are those with at most as much;
in the view sorted from the greatest on it is those with more, and with at least as much. In
both, the rows with as much as the literal are in one piece. -/
theorem sorted_sides (field : String) (literal : Scalar)
    (h : ∀ r ∈ view.matching, ∀ a, view.schema.valueOf field r = some a →
      a.family = literal.family) :
    ∃ ascending descending,
      (view.sort ⟨field, .asc⟩).window 0 view.count = some ascending ∧
      (view.sort ⟨field, .desc⟩).window 0 view.count = some descending ∧
      ascending.filter ((Condition.order field .lt literal).holds view.schema) <+: ascending ∧
      ascending.filter ((Condition.order field .lte literal).holds view.schema) <+: ascending ∧
      descending.filter ((Condition.order field .gt literal).holds view.schema) <+: descending ∧
      descending.filter ((Condition.order field .gte literal).holds view.schema) <+: descending ∧
      ascending.filter ((Condition.equals field literal).holds view.schema) <:+: ascending ∧
      descending.filter ((Condition.equals field literal).holds view.schema) <:+: descending := by
  let rows (d : Direction) := sortedBy (SortKey.rowOrder view.schema ⟨field, d⟩) view.matching
  have hfamily (d : Direction) : ∀ r ∈ rows d,
      ∀ a, view.schema.valueOf field r = some a → a.family = literal.family :=
    fun r hr => h r (sortedBy_perm.mem_iff.1 hr)
  have hsorted (d : Direction) : (rows d).Pairwise
      fun r s => SortKey.rowOrder view.schema ⟨field, d⟩ r s ≠ .gt := pairwise_sortedBy
  exact ⟨rows .asc, rows .desc, view.window_sort ⟨literal.family, h⟩,
    view.window_sort ⟨literal.family, h⟩,
    filter_comes_first (pairwise_before (hfamily .asc) (hsorted .asc)),
    filter_comes_first (pairwise_upTo (hfamily .asc) (hsorted .asc)),
    filter_comes_first (pairwise_before (hfamily .desc) (hsorted .desc)),
    filter_comes_first (pairwise_upTo (hfamily .desc) (hsorted .desc)),
    filter_equals_in_one_piece (hfamily .asc) (hsorted .asc),
    filter_equals_in_one_piece (hfamily .desc) (hsorted .desc)⟩

/-- Integers of both signs next to a missing value: the signed and the unsigned 1 are in one
piece, in the order of the list, and the missing value is beyond them in both directions. -/
theorem sorted_sides_of_one :
    let schema : Schema FieldValue := ⟨[⟨"value", .int, id⟩], by simp, by simp, by simp⟩
    let int : Int64 → FieldValue := fun n => some (.number (.int n))
    let uint : UInt64 → FieldValue := fun n => some (.number (.uint n))
    let view := ListView.of .merge schema [uint 3, none, int 1, int (-2), uint 1]
    (∀ r ∈ view.matching, ∀ a, view.schema.valueOf "value" r = some a → a.family = .integer) ∧
      ∃ ascending descending,
        (view.sort ⟨"value", .asc⟩).window 0 view.count = some ascending ∧
        (view.sort ⟨"value", .desc⟩).window 0 view.count = some descending ∧
        ascending = [int (-2), int 1, uint 1, uint 3, none] ∧
        descending = [uint 3, int 1, uint 1, int (-2), none] ∧
        [int (-2)] <+: ascending ∧ [int (-2), int 1, uint 1] <+: ascending ∧
        [uint 3] <+: descending ∧ [uint 3, int 1, uint 1] <+: descending ∧
        [int 1, uint 1] <:+: ascending ∧ [int 1, uint 1] <:+: descending := by
  intro schema int uint view
  have hfamily : ∀ r ∈ view.matching, ∀ a, view.schema.valueOf "value" r = some a →
      a.family = .integer := view.schema.family_eq_of_all rfl
  have hmatching : view.matching = [uint 3, none, int 1, int (-2), uint 1] := rfl
  obtain ⟨ascending, descending, hasc, hdesc, hsides⟩ :=
    sorted_sides view "value" (.number (.int 1)) hfamily
  have hascending : ascending = [int (-2), int 1, uint 1, uint 3, none] := by
    rw [view.window_sort ⟨.integer, hfamily⟩, hmatching] at hasc
    rw [← Option.some.inj hasc]
    simp only [sortedBy_cons, sortedBy_nil]
    rfl
  have hdescending : descending = [uint 3, int 1, uint 1, int (-2), none] := by
    rw [view.window_sort ⟨.integer, hfamily⟩, hmatching] at hdesc
    rw [← Option.some.inj hdesc]
    simp only [sortedBy_cons, sortedBy_nil]
    rfl
  refine ⟨hfamily, ascending, descending, hasc, hdesc, hascending, hdescending, ?_⟩
  subst hascending hdescending
  exact hsides

/-! ## Leaving rows out -/

/-- **A restriction does not reorder.** In a view sorted by a field whose values are missing
or of one family, or not sorted at all, a restriction shows the rows shown before that
satisfy it, as they were. -/
theorem window_restrict (c : Condition)
    (h : ∀ key ∈ view.key, view.schema.Uniform key.field view.matching) :
    ∃ rows, view.window 0 view.count = some rows ∧
      (view.restrict c).window 0 (view.restrict c).count =
        some (rows.filter (c.holds view.schema)) := by
  have hmatching : (view.restrict c).matching = view.matching.filter (c.holds view.schema) :=
    view.matching_restrictBy? (some c)
  rw [window_zero _ (Nat.le_refl _), window_zero _ (Nat.le_refl _)]
  cases hkey : view.key with
  | none =>
    refine ⟨view.matching, view.shown_eq_matching hkey, ?_⟩
    rw [(view.restrict c).shown_eq_matching hkey, hmatching]
  | some key =>
    have huniform : view.schema.Uniform key.field view.matching := h key hkey
    have huniform' : view.schema.Uniform key.field (view.restrict c).matching := by
      obtain ⟨family, hfamily⟩ := huniform
      rw [hmatching]
      exact ⟨family, fun r hr => hfamily r (List.mem_filter.1 hr).1⟩
    refine ⟨_, view.shown_eq_sortedBy hkey huniform, ?_⟩
    rw [(view.restrict c).shown_eq_sortedBy hkey huniform', hmatching]
    exact congrArg some (filter_sortedBy _ _).symm

/-- The greatest first, without the 3: the two 2 stay as they are in the list, though one is
signed and the other is not. The missing value is not unequal to 3 either. -/
theorem window_restrict_without_three :
    let schema : Schema FieldValue := ⟨[⟨"value", .int, id⟩], by simp, by simp, by simp⟩
    let int : Int64 → FieldValue := fun n => some (.number (.int n))
    let uint : UInt64 → FieldValue := fun n => some (.number (.uint n))
    let records := [int 1, none, uint 2, int 3, int 2]
    let view := (ListView.of .merge schema records).sort ⟨"value", .desc⟩
    (∀ key ∈ view.key, view.schema.Uniform key.field view.matching) ∧
      view.window 0 view.count = some [int 3, uint 2, int 2, int 1, none] ∧
      (view.restrict (.notEquals "value" (.number (.int 3)))).window 0 3 =
        some [uint 2, int 2, int 1] := by
  intro schema int uint records view
  have huniform : ∀ key ∈ view.key, view.schema.Uniform key.field view.matching := by
    intro key hkey
    obtain rfl := Option.some.inj hkey
    exact ⟨.integer, view.schema.family_eq_of_all rfl⟩
  have hmatching : view.matching = [int 1, none, uint 2, int 3, int 2] := rfl
  have hshown : view.window 0 view.count = some [int 3, uint 2, int 2, int 1, none] := by
    rw [window_zero _ (Nat.le_refl _), shown_eq_sortedBy view rfl (huniform _ rfl), hmatching]
    simp only [sortedBy_cons, sortedBy_nil]
    rfl
  obtain ⟨rows, hrows, hrestrict⟩ :=
    window_restrict view (.notEquals "value" (.number (.int 3))) huniform
  obtain rfl := Option.some.inj (hshown.symm.trans hrows)
  exact ⟨huniform, hshown, hrestrict⟩

end ListView

end PagedQuery
