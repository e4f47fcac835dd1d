import PagedQuery.Proofs.ListViews
import PagedQuery.Proofs.Ranks

/-!
# What a sorted view shows

A field whose values are all of one family has a total order on its rows: by rank in the
direction of the sort key, and rows without a place in the order last. A view sorted by
such a field shows the rows it keeps in this order, and rows of one rank as they are in
the list.

## Main definitions

* `FieldValue.rank?`: the place of a value, which a missing one and a NaN lack.
* `Schema.Uniform schema field rows`: the values of the field are of one family.
* `Direction.rankOrder`: the order of places, with rows without one last.
* `SortedFrom schema key source rows`: the rows are a stable sort of the source.
-/

namespace PagedQuery

/-! ## Stable sorting -/

section StableSort

variable {α : Type} {cmp : α → α → Ordering} {l : List α}

/-- A list whose elements with a property come first is made of these and of the others. -/
theorem filter_append_filter_not {p : α → Bool} (h : l.Pairwise fun a b => p b → p a) :
    l.filter p ++ l.filter (fun a => !p a) = l := by
  induction l with
  | nil => rfl
  | cons a l ih =>
    obtain ⟨ha, hl⟩ := List.pairwise_cons.1 h
    by_cases hp : p a
    · rw [List.filter_cons_of_pos hp, List.filter_cons_of_neg (by simp [hp]), List.cons_append,
        ih hl]
    · -- No element has the property if the first one lacks it.
      have hnone : ∀ b ∈ l, ¬ p b := fun b hb hpb => hp (ha b hb hpb)
      rw [List.filter_cons_of_neg hp, List.filter_cons_of_pos (by simp [hp]),
        List.filter_eq_nil_iff.2 hnone, List.nil_append, List.filter_eq_self.2]
      intro b hb
      simpa using hnone b hb

theorem sortedBy_nil : sortedBy cmp [] = [] := List.mergeSort_nil

theorem sortedBy_perm : (sortedBy cmp l).Perm l := List.mergeSort_perm _ _

/-- Sorting compares elements of the list only. -/
theorem sortedBy_congr {cmp' : α → α → Ordering} (h : ∀ a ∈ l, ∀ b ∈ l, cmp a b = cmp' a b) :
    sortedBy cmp l = sortedBy cmp' l := by
  have hmap := List.map_mergeSort (f := id) (r := fun a b => cmp a b != .gt)
    (s := fun a b => cmp' a b != .gt) (l := l) fun a ha b hb => by simp only [h a ha b hb, id]
  rw [List.map_id, List.map_id] at hmap
  exact hmap

/-- A list in order stays as it is. -/
theorem sortedBy_of_pairwise (h : l.Pairwise fun a b => cmp a b ≠ .gt) : sortedBy cmp l = l :=
  List.mergeSort_of_pairwise (h.imp fun hab => bne_iff_ne.2 hab)

variable [Std.TransCmp cmp]

theorem bne_gt_trans (a b c : α) (hab : cmp a b != .gt) (hbc : cmp b c != .gt) :
    cmp a c != .gt := by
  rw [bne_iff_ne, Ne, Ordering.ne_gt_iff_isLE] at hab hbc ⊢
  exact Std.TransCmp.isLE_trans hab hbc

theorem bne_gt_total (a b : α) : cmp a b != .gt || cmp b a != .gt := by
  have hswap : cmp b a = (cmp a b).swap := Std.OrientedCmp.eq_swap
  rw [hswap]
  cases cmp a b <;> rfl

theorem pairwise_sortedBy : (sortedBy cmp l).Pairwise fun a b => cmp a b ≠ .gt :=
  (List.pairwise_mergeSort bne_gt_trans bne_gt_total l).imp fun hab => bne_iff_ne.1 hab

/-- Sorting puts the first element after all that are less and before all others. -/
theorem sortedBy_cons (a : α) (l : List α) :
    sortedBy cmp (a :: l) = (sortedBy cmp l).filter (fun b => cmp a b == .gt)
      ++ a :: (sortedBy cmp l).filter (fun b => cmp a b != .gt) := by
  obtain ⟨before, after, hcons, htail, hbefore⟩ : ∃ before after,
      sortedBy cmp (a :: l) = before ++ a :: after ∧ sortedBy cmp l = before ++ after
        ∧ ∀ b ∈ before, (!(cmp a b != .gt)) = true :=
    List.mergeSort_cons bne_gt_trans bne_gt_total a l
  have hsorted : (before ++ a :: after).Pairwise fun a b => cmp a b ≠ .gt :=
    hcons ▸ pairwise_sortedBy
  have hgt : ∀ b ∈ before, cmp a b = .gt := by
    intro b hb
    simpa using hbefore b hb
  have hle : ∀ b ∈ after, cmp a b ≠ .gt :=
    (List.pairwise_cons.1 (List.pairwise_append.1 hsorted).2.1).1
  have hless : (sortedBy cmp l).filter (fun b => cmp a b == .gt) = before := by
    rw [htail, List.filter_append, List.filter_eq_self.2, List.filter_eq_nil_iff.2,
      List.append_nil]
    · intro b hb
      simpa using hle b hb
    · intro b hb
      simpa using hgt b hb
  have hothers : (sortedBy cmp l).filter (fun b => cmp a b != .gt) = after := by
    rw [htail, List.filter_append, List.filter_eq_nil_iff.2, List.filter_eq_self.2,
      List.nil_append]
    · intro b hb
      simpa using hle b hb
    · intro b hb
      simpa using hgt b hb
  rw [hless, hothers, hcons]

/-- Sorting commutes with leaving elements out. -/
theorem filter_sortedBy (p : α → Bool) (l : List α) :
    (sortedBy cmp l).filter p = sortedBy cmp (l.filter p) := by
  induction l with
  | nil => rw [sortedBy_nil, List.filter_nil, sortedBy_nil]
  | cons a l ih =>
    have hcomm : ∀ q : α → Bool,
        ((sortedBy cmp l).filter q).filter p = (sortedBy cmp (l.filter p)).filter q := by
      intro q
      rw [← ih, List.filter_filter, List.filter_filter]
      simp only [Bool.and_comm]
    rw [sortedBy_cons, List.filter_append, hcomm]
    by_cases ha : p a
    · rw [List.filter_cons_of_pos ha, List.filter_cons_of_pos ha, hcomm, sortedBy_cons]
    · rw [List.filter_cons_of_neg ha, List.filter_cons_of_neg ha, hcomm]
      have hfirst : (sortedBy cmp (l.filter p)).Pairwise fun b c =>
          cmp a c == .gt → cmp a b == .gt := by
        refine pairwise_sortedBy.imp fun {b c} hbc hc => ?_
        have hcb : (cmp c b).isGE := by
          rw [Std.OrientedCmp.isGE_iff_isLE, ← Ordering.ne_gt_iff_isLE]
          exact hbc
        exact beq_iff_eq.2 (Std.TransCmp.gt_of_gt_of_isGE (beq_iff_eq.1 hc) hcb)
      exact filter_append_filter_not hfirst

/-- A comparison is consistent if an order makes the same of the elements of the list. -/
theorem Consistent.of_congr {cmp' : α → α → Ordering}
    (h : ∀ a ∈ l, ∀ b ∈ l, cmp' a b = cmp a b) : Consistent cmp' l where
  eq_swap a ha b hb := by
    rw [h b hb a ha, h a ha b hb]
    exact Std.OrientedCmp.eq_swap
  trans a ha b hb c hc hab hbc := by
    rw [h a ha b hb] at hab
    rw [h b hb c hc] at hbc
    rw [h a ha c hc]
    rw [Ne, Ordering.ne_gt_iff_isLE] at hab hbc ⊢
    exact Std.TransCmp.isLE_trans hab hbc

end StableSort

/-! ## The order of rows -/

/-- The place of a value in its family. A missing value and a NaN have none. -/
def FieldValue.rank? (v : FieldValue) : Option (List Int) :=
  if v.comesLast then none else v.map Scalar.rank

/-- A value comes last or has a place. -/
theorem FieldValue.comesLast_or_rank (v : FieldValue) :
    (v.comesLast = true ∧ v.rank? = none) ∨
      ∃ a, v = some a ∧ a.isNaN = false ∧ v.rank? = some a.rank := by
  cases v with
  | none => exact .inl ⟨rfl, rfl⟩
  | some a =>
    cases ha : a.isNaN with
    | true => exact .inl ⟨ha, if_pos ha⟩
    | false => exact .inr ⟨a, rfl, ha, if_neg (Bool.eq_false_iff.1 ha)⟩

theorem FieldValue.rank?_eq_none_iff {v : FieldValue} : v.rank? = none ↔ v.comesLast := by
  rcases v.comesLast_or_rank with ⟨hlast, hrank⟩ | ⟨a, rfl, ha, hrank⟩
  · simp [hlast, hrank]
  · simp [comesLast, ha, hrank]

namespace Schema

variable {ρ : Type} (schema : Schema ρ) (field : String)

/-- The place of a row by a field. -/
def placeOf (r : ρ) : Option (List Int) := (schema.valueOf field r).rank?

/-- The present values of a field are all of one family. -/
def Uniform (rows : List ρ) : Prop :=
  ∃ family, ∀ r ∈ rows, ∀ a, schema.valueOf field r = some a → a.family = family

end Schema

namespace Direction

/-- Holds of ranks that may follow one another in the direction. -/
def le : Direction → List Int → List Int → Prop
  | asc, x, y => x ≤ y
  | desc, x, y => y ≤ x

/-- The order of places in a direction. What has no place comes last. -/
def rankOrder (d : Direction) : Option (List Int) → Option (List Int) → Ordering :=
  compareLex (compareOn Option.isNone) fun x y => d.apply (compareOn (·.getD []) x y)

instance (d : Direction) : Std.TransCmp d.rankOrder := by
  cases d with
  | asc => exact inferInstanceAs (Std.TransCmp (compareLex _ (compareOn _)))
  | desc =>
    have hswap : desc.rankOrder = compareLex (compareOn Option.isNone)
        fun x y => compareOn (·.getD []) y x := by
      funext x y
      simp only [rankOrder, compareLex, apply]
      rw [← Std.OrientedCmp.eq_swap]
    rw [hswap]
    infer_instance

theorem rankOrder_some_some (d : Direction) (x y : List Int) :
    d.rankOrder (some x) (some y) = d.apply (compare x y) := rfl

theorem rankOrder_none_some (d : Direction) (x : List Int) :
    d.rankOrder none (some x) = .gt := rfl

theorem rankOrder_some_none (d : Direction) (x : List Int) :
    d.rankOrder (some x) none = .lt := rfl

theorem rankOrder_none_none (d : Direction) : d.rankOrder none none = .eq := by
  cases d <;> rfl

theorem compare_rank_eq_lt {x y : List Int} : compare x y = .lt ↔ x < y :=
  compare_list_eq_lt Int.compare_eq_lt

/-- The order of places is the order of ranks in its direction. -/
theorem rankOrder_ne_gt_iff {d : Direction} {x y : List Int} :
    d.rankOrder (some x) (some y) ≠ .gt ↔ d.le x y := by
  rw [rankOrder_some_some]
  cases d with
  | asc =>
    have hle : x ≤ y ↔ ¬ y < x := not_lt.symm
    rw [apply, le, hle, ← compare_rank_eq_lt, Ne, Std.OrientedCmp.gt_iff_lt]
  | desc =>
    have hle : y ≤ x ↔ ¬ x < y := not_lt.symm
    rw [apply, le, hle, ← compare_rank_eq_lt, Ne, Ordering.swap_eq_gt]

end Direction

namespace SortKey

variable {ρ : Type} {schema : Schema ρ} {key : SortKey} {rows : List ρ}

/-- Values of one family are compared by their places. -/
theorem compare?_eq_rankOrder {v w : FieldValue}
    (h : ∀ a b, v = some a → w = some b → a.family = b.family) :
    key.compare? v w = some (key.direction.rankOrder v.rank? w.rank?) := by
  rcases v.comesLast_or_rank with ⟨hv, hvrank⟩ | ⟨a, rfl, ha, hvrank⟩ <;>
    rcases w.comesLast_or_rank with ⟨hw, hwrank⟩ | ⟨b, rfl, hb, hwrank⟩ <;>
    rw [hvrank, hwrank]
  · rw [compare?, hv, hw, Direction.rankOrder_none_none]
    rfl
  · rw [compare?, hv, Direction.rankOrder_none_some]
    simp only [FieldValue.comesLast, hb, Bool.true_or, if_true]
    rfl
  · rw [compare?, hw, Direction.rankOrder_some_none]
    simp only [FieldValue.comesLast, ha, Bool.or_true, if_true]
    rfl
  · have hcompare : a.sortCompare? b = some (compare a.rank b.rank) :=
      Scalar.sortCompare?_eq_compare? ha hb (Scalar.compare?_eq_rank (h a b rfl rfl) ha hb)
    simp [compare?, FieldValue.comesLast, FieldValue.compare?, ha, hb, hcompare,
      Direction.rankOrder_some_some]

/-- The order of rows by their places. -/
def rowOrder (schema : Schema ρ) (key : SortKey) (r s : ρ) : Ordering :=
  key.direction.rankOrder (schema.placeOf key.field r) (schema.placeOf key.field s)

instance : Std.TransCmp (rowOrder schema key) where
  eq_swap := by
    intro r s
    rw [rowOrder, rowOrder]
    exact Std.OrientedCmp.eq_swap
  isLE_trans := by
    intro r s t hrs hst
    rw [rowOrder] at hrs hst ⊢
    exact Std.TransCmp.isLE_trans hrs hst

theorem rowOrder_of_comesLast {r s : ρ} (hr : (schema.valueOf key.field r).comesLast = true)
    (hs : (schema.valueOf key.field s).comesLast = false) : rowOrder schema key r s = .gt := by
  have hnone : schema.placeOf key.field r = none := FieldValue.rank?_eq_none_iff.2 hr
  rcases (schema.valueOf key.field s).comesLast_or_rank with ⟨hlast, _⟩ | ⟨b, _, _, hrank⟩
  · rw [hs] at hlast
    cases hlast
  · have hsome : schema.placeOf key.field s = some b.rank := hrank
    rw [rowOrder, hnone, hsome, Direction.rankOrder_none_some]

/-- Rows with values of one family are compared by their places. -/
theorem compareRecords_eq_rowOrder (h : schema.Uniform key.field rows) {r s : ρ} (hr : r ∈ rows)
    (hs : s ∈ rows) : key.compareRecords schema r s = rowOrder schema key r s := by
  obtain ⟨family, hfamily⟩ := h
  rw [compareRecords, compare?_eq_rankOrder, Option.getD_some, rowOrder, Schema.placeOf,
    Schema.placeOf]
  intro a b ha hb
  rw [hfamily r hr a ha, hfamily s hs b hb]

end SortKey

/-! ## Sorted views -/

section

variable {ρ : Type}

/-- The rows are those of the source, sorted stably by the values of a field. -/
structure SortedFrom (schema : Schema ρ) (key : SortKey) (source rows : List ρ) : Prop where
  perm : rows.Perm source
  /-- The rows with a missing value or a NaN come last, as they are in the source. -/
  last : ∃ front, rows = front ++ source.filter (fun r => (schema.valueOf key.field r).comesLast)
    ∧ ∀ r ∈ front, (schema.valueOf key.field r).comesLast = false
  /-- The values of the other rows are in the direction of the sort key. -/
  ordered : rows.Pairwise fun r s => ∀ x ∈ schema.placeOf key.field r,
    ∀ y ∈ schema.placeOf key.field s, key.direction.le x y
  /-- The rows of one value are as they are in the source, in both directions. -/
  stable : ∀ x : List Int, rows.filter (fun r => schema.placeOf key.field r = some x)
    = source.filter fun r => schema.placeOf key.field r = some x

variable {schema : Schema ρ} {key : SortKey} {source : List ρ}

/-- The rows of one place, or of none, keep their order. -/
theorem filter_sortedBy_rowOrder {p : ρ → Bool} {place : Option (List Int)}
    (hp : ∀ r, p r → schema.placeOf key.field r = place) :
    (sortedBy (key.rowOrder schema) source).filter p = source.filter p := by
  rw [filter_sortedBy]
  apply sortedBy_of_pairwise
  apply List.pairwise_of_forall_mem_list
  intro r hr s hs
  have hself : key.direction.rankOrder place place = .eq := Std.ReflCmp.compare_self
  rw [SortKey.rowOrder, hp r (List.mem_filter.1 hr).2, hp s (List.mem_filter.1 hs).2, hself]
  exact Ordering.noConfusion

/-- Sorting by the places of a field sorts stably by its values. -/
theorem sortedFrom_sortedBy :
    SortedFrom schema key source (sortedBy (key.rowOrder schema) source) where
  perm := sortedBy_perm
  last := by
    have hfirst : (sortedBy (key.rowOrder schema) source).Pairwise fun r s =>
        !(schema.valueOf key.field s).comesLast → !(schema.valueOf key.field r).comesLast := by
      refine pairwise_sortedBy.imp fun {r s} hrs hs => ?_
      by_contra hr
      exact hrs (SortKey.rowOrder_of_comesLast (by simpa using hr) (by simpa using hs))
    have hlast : (sortedBy (key.rowOrder schema) source).filter
        (fun r => (schema.valueOf key.field r).comesLast)
          = source.filter fun r => (schema.valueOf key.field r).comesLast :=
      filter_sortedBy_rowOrder fun r hr => FieldValue.rank?_eq_none_iff.2 hr
    have happend := filter_append_filter_not hfirst
    simp only [Bool.not_not, hlast] at happend
    refine ⟨_, happend.symm, fun r hr => ?_⟩
    simpa using (List.mem_filter.1 hr).2
  ordered := by
    refine pairwise_sortedBy.imp fun {r s} hrs x hx y hy => ?_
    rw [SortKey.rowOrder, hx, hy] at hrs
    exact Direction.rankOrder_ne_gt_iff.1 hrs
  stable x := filter_sortedBy_rowOrder fun r hr => of_decide_eq_true hr

end

namespace ListView

variable {ρ : Type} (view : ListView ρ)

/-- What a view sorted by a field of one family shows, whatever it is sorted with. -/
theorem shown_eq_sortedBy {key : SortKey} (hkey : view.key = some key)
    (h : view.schema.Uniform key.field view.matching) :
    view.shown = some (sortedBy (key.rowOrder view.schema) view.matching) := by
  have horder : ∀ r ∈ view.matching, ∀ s ∈ view.matching,
      key.compareRecords view.schema r s = key.rowOrder view.schema r s :=
    fun r hr s hs => key.compareRecords_eq_rowOrder h hr hs
  rw [shown, hkey]
  exact (view.sorter.sort?_of_consistent (.of_congr horder)).trans
    (congrArg some (sortedBy_congr horder))

theorem window_sort {key : SortKey} (h : view.schema.Uniform key.field view.matching) :
    (view.sort key).window 0 view.count =
      some (sortedBy (key.rowOrder view.schema) view.matching) := by
  rw [window_zero _ (count_sort view key).le]
  exact shown_eq_sortedBy (view.sort key) rfl h

/-- **A sorted view is a stable sort of the rows it keeps.** It is enough that the present
values of the field are of one family: the integers of both signs count as one, and NaN are
among the double precision numbers. Sorting does not break off then. -/
theorem sortedFrom_window_sort (key : SortKey)
    (h : view.schema.Uniform key.field view.matching) :
    ∃ rows, (view.sort key).window 0 view.count = some rows ∧
      SortedFrom view.schema key view.matching rows :=
  ⟨_, view.window_sort h, sortedFrom_sortedBy⟩

/-- The largest first: a NaN and a missing value are last as they came, and the two zeros,
which are one value, keep their order as well. -/
theorem sortedFrom_window_zeros :
    let schema : Schema FieldValue := ⟨[⟨"value", .float, id⟩], by simp, by simp, by simp⟩
    let float : Binary64 → FieldValue := fun x => some (.number (.float x))
    let negativeZero := float (.ofMagnitude true 0 (by decide))
    let zero := float (.ofMagnitude false 0 (by decide))
    let nan := float (.quietNaN false)
    let least := float (.ofMagnitude false 1 (by decide))
    let view := ListView.of .merge schema [nan, negativeZero, none, least, zero]
    view.schema.Uniform "value" view.matching ∧
      ∃ rows, (view.sort ⟨"value", .desc⟩).window 0 5 = some rows ∧
        (∃ front, rows = front ++ [nan, none]) ∧
        rows.filter (fun r => schema.placeOf "value" r = some [0]) = [negativeZero, zero] := by
  intro schema float negativeZero zero nan least view
  have huniform : view.schema.Uniform "value" view.matching := by
    have hfamily : ∀ v ∈ [nan, negativeZero, none, least, zero],
        (v.map Scalar.family).getD .float = .float := by
      simp only [List.forall_mem_cons]
      exact ⟨rfl, rfl, rfl, rfl, rfl, List.forall_mem_nil _⟩
    refine ⟨.float, fun r hr a ha => ?_⟩
    have hread : r = some a := ha
    subst hread
    exact hfamily (some a) hr
  obtain ⟨rows, hrows, hsorted⟩ := sortedFrom_window_sort view ⟨"value", .desc⟩ huniform
  obtain ⟨front, hfront, _⟩ := hsorted.last
  exact ⟨huniform, rows, hrows, ⟨front, hfront⟩, hsorted.stable [0]⟩

end ListView

end PagedQuery
