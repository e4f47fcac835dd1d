import PagedQuery.Proofs.Compiling
import PagedQuery.View.OfList

/-!
# What the operations do to the view of a list

One equation for each part of a view after each operation. A restriction changes which
rows are kept and nothing else, a sorting changes the key and nothing else, and what is
read is determined by the rows kept and the key.

## Main definitions

* `ListView.Sortable view`: the rows kept can be compared consistently by the key in force.
* `ListView.restrictBy? view c?`: the view restricted by a condition, if there is one.
-/

namespace PagedQuery

namespace ListView

variable {ρ : Type} (view : ListView ρ)

/-! ## Reading -/

/-- The windows are those of the rows shown. -/
theorem window_of_shown {rows : List ρ} (h : view.shown = some rows) (skip take : Nat) :
    view.window skip take = some ((rows.drop skip).take take) := by
  rw [window, h, Option.map_some]

/-- A window that is long enough shows everything. -/
theorem window_zero {take : Nat} (h : view.count ≤ take) : view.window 0 take = view.shown := by
  cases hshown : view.shown with
  | none => rw [window, hshown, Option.map_none]
  | some rows =>
    have hlength := view.length_of_shown hshown
    rw [view.window_of_shown hshown, List.drop_zero, List.take_of_length_le (hlength ▸ h)]

/-- Without a key the rows are shown in their own order. -/
theorem shown_eq_matching (hkey : view.key = none) : view.shown = some view.matching := by
  rw [shown, hkey]

/-- Holds if the key in force, if there is one, compares the rows kept consistently. -/
def Sortable : Prop := ∀ key ∈ view.key, Consistent (key.compareRecords view.schema) view.matching

/-- Rows that are compared consistently are shown, whatever sorts them. -/
theorem exists_shown_of_sortable (h : view.Sortable) : ∃ rows, view.shown = some rows := by
  unfold shown
  cases hkey : view.key with
  | none => exact ⟨_, rfl⟩
  | some key => exact ⟨_, view.sorter.sort?_of_consistent (h key hkey)⟩

theorem count_le : view.count ≤ view.records.length := List.length_filter_le _ _

/-! ## Restricting -/

/-- A restriction conjoins its condition with the ones before. -/
@[simp] theorem keeps_restrict (c : Condition) (r : ρ) :
    (view.restrict c).keeps r = (view.keeps r && c.holds view.schema r) := by
  unfold keeps restrict
  cases view.condition <;> simp [Condition.holds]

/-- A view restricted by a condition, if there is one. -/
def restrictBy? : Option Condition → ListView ρ
  | none => view
  | some c => view.restrict c

theorem value_restrictBy (c? : Option Condition) :
    (restrictBy view c?).value = view.restrictBy? c? := by
  cases c? <;> rfl

/-- Filters that have been checked restrict the view by the condition that they mean. -/
theorem value_narrowChecked (pager : Pager) (filters : List Filter) :
    (pager.narrowChecked view filters).value =
      view.restrictBy? (pager.conditionOf view.schema filters) := by
  rw [Pager.value_narrowChecked, value_restrictBy]
  rfl

section

variable (c? : Option Condition)

@[simp] theorem sorter_restrictBy? : (view.restrictBy? c?).sorter = view.sorter := by
  cases c? <;> rfl

@[simp] theorem records_restrictBy? : (view.restrictBy? c?).records = view.records := by
  cases c? <;> rfl

@[simp] theorem schema_restrictBy? : (view.restrictBy? c?).schema = view.schema := by
  cases c? <;> rfl

@[simp] theorem key_restrictBy? : (view.restrictBy? c?).key = view.key := by
  cases c? <;> rfl

/-- Without a condition every row stays. -/
@[simp] theorem keeps_restrictBy? (r : ρ) :
    (view.restrictBy? c?).keeps r = (view.keeps r && c?.all (·.holds view.schema r)) := by
  cases c? with
  | none => simp [restrictBy?]
  | some c => simp [restrictBy?]

/-- The rows kept after a restriction are those of the rows before that satisfy it. -/
theorem matching_restrictBy? :
    (view.restrictBy? c?).matching =
      view.matching.filter fun r => c?.all (·.holds view.schema r) := by
  have hkeeps : (view.restrictBy? c?).keeps
      = fun r => c?.all (·.holds view.schema r) && view.keeps r := by
    funext r
    rw [keeps_restrictBy?, Bool.and_comm]
  rw [matching, records_restrictBy?, hkeeps, matching, List.filter_filter]

end

/-! ## Sorting -/

@[simp] theorem matching_sort (key : SortKey) : (view.sort key).matching = view.matching := rfl

/-- A sorting never changes the number of rows. -/
@[simp] theorem count_sort (key : SortKey) : (view.sort key).count = view.count := rfl

/-- A sorting installs the key that it asks for, and leaves the one before if it asks for
none. -/
theorem value_sortAs (sort? : Option SortRequest) :
    (sortAs view sort?).value =
      { view with key := (sort?.bind (·.key? view.schema)).or view.key } := by
  cases sort? with
  | none => rfl
  | some sort =>
    obtain ⟨name, direction⟩ := sort
    cases direction with
    | none => rfl
    | some direction =>
      have hfind : (View.schema view).lookup? (some name) = view.schema.find? name :=
        view.schema.lookup?_some name
      simp only [sortAs, hfind, SortRequest.key?, Option.bind_some]
      cases h : view.schema.find? name with
      | none =>
        have hnone := Schema.find?_eq_none_iff.1 h
        rw [if_neg (by simpa using hnone)]
        rfl
      | some f =>
        have hname : f.name = name := Schema.name_of_find? h
        have hmem : f ∈ view.schema.fields := List.mem_of_find?_eq_some h
        rw [if_pos ⟨f, hmem, hname⟩, ← hname]
        rfl

theorem count_sortAs (sort? : Option SortRequest) :
    (sortAs view sort?).value.count = view.count := by
  rw [value_sortAs]
  rfl

end ListView

end PagedQuery
