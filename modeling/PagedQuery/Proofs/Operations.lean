import PagedQuery.Proofs.Searching

/-!
# Runs of operations on a view

A view collects what it is asked and reads nothing until it is counted or shown. The
reference is eager: the rows that satisfy every condition asked for, sorted once by the
key asked for last, with the same sort. After any run of operations the view reads as the
reference says.

## Main definitions

* `Operation`: what a view of a list may be asked; `Operation.apply` carries it out.
* `Operation.condition?`, `Operation.key?`: what an operation contributes.
* `kept`, `keyInForce`, `eager`: the reference, as a function of the run.
* `Reflects`: the invariant between a view and the run that led to it.
-/

namespace PagedQuery

variable {ρ : Type}

/-- An operation on a view of a list, with the pager that carries it out where there is
one. -/
inductive Operation where
  | restrict (c : Condition)
  | sort (key : SortKey)
  | narrow (pager : Pager) (filters : List Filter)
  | search (pager : Pager) (fields words : List String) (place : Placement)
      (connector : Connector)
  | ascending (field : String)
  | descending (field : String)

namespace Operation

/-- Carries out an operation. -/
def apply (view : ListView ρ) : Operation → Except Refusal (ListView ρ)
  | restrict c => .ok (view.restrict c)
  | sort key => .ok (view.sort key)
  | narrow pager filters => (pager.narrow view filters).map Logged.value
  | search pager fields words place connector =>
    (pager.search view fields words place connector).map Logged.value
  | ascending field => .ok (ascendingBy view field).value
  | descending field => .ok (descendingBy view field).value

/-- Carries out operations one after another. -/
def run (view : ListView ρ) (ops : List Operation) : Except Refusal (ListView ρ) :=
  ops.foldlM apply view

/-- Holds of the operations with valid arguments: all filters complete, and no search for
an empty word or in a field with an empty name. -/
def Valid : Operation → Prop
  | narrow _ filters => ∀ f ∈ filters, f.Complete
  | search _ fields words _ _ => ∀ field ∈ fields, ∀ word ∈ words, field ≠ "" ∧ word ≠ ""
  | _ => True

/-- Holds of the operations that are about the order of the rows. -/
def isSorting : Operation → Bool
  | sort _ => true
  | ascending _ => true
  | descending _ => true
  | _ => false

/-- The condition that an operation contributes, if it contributes one. -/
def condition? (schema : Schema ρ) : Operation → Option Condition
  | restrict c => some c
  | narrow pager filters => pager.conditionOf schema filters
  | search pager fields words place connector =>
    pager.searchCondition schema fields words place connector
  | _ => none

/-- The key that an operation installs. A key is taken as it is; a sorting by the name of
a field installs one only if there is such a field. -/
def key? (schema : Schema ρ) : Operation → Option SortKey
  | sort key => some key
  | ascending field => if ∃ f ∈ schema.fields, f.name = field then some ⟨field, .asc⟩ else none
  | descending field => if ∃ f ∈ schema.fields, f.name = field then some ⟨field, .desc⟩ else none
  | _ => none

variable {schema : Schema ρ} {op : Operation}

theorem condition?_of_isSorting (h : op.isSorting = true) : op.condition? schema = none := by
  cases op with
  | restrict _ | narrow _ _ | search _ _ _ _ _ => cases h
  | sort _ | ascending _ | descending _ => rfl

theorem key?_of_not_isSorting (h : op.isSorting = false) : op.key? schema = none := by
  cases op with
  | restrict _ | narrow _ _ | search _ _ _ _ _ => rfl
  | sort _ | ascending _ | descending _ => cases h

end Operation

/-! ## The reference -/

/-- The rows that satisfy every condition contributed, in their own order. -/
def kept (schema : Schema ρ) (records : List ρ) (ops : List Operation) : List ρ :=
  records.filter fun r => ops.all fun op => (op.condition? schema).all (·.holds schema r)

/-- The key installed last, if any is. -/
def keyInForce (schema : Schema ρ) (ops : List Operation) : Option SortKey :=
  (ops.filterMap (·.key? schema)).getLast?

/-- The rows kept, sorted by the key in force, unless sorting them breaks off. -/
def eager (sorter : Sorter ρ) (schema : Schema ρ) (records : List ρ) (ops : List Operation) :
    Option (List ρ) :=
  match keyInForce schema ops with
  | none => some (kept schema records ops)
  | some key => sorter.sort? (key.compareRecords schema) (kept schema records ops)

/-! ## One operation -/

namespace Operation

/-- A search with valid arguments makes complete filters. -/
theorem complete_of_mem_searches {fields words : List String} {place : Placement}
    {connector : Connector}
    (h : ∀ field ∈ fields, ∀ word ∈ words, field ≠ "" ∧ word ≠ "") :
    ∀ f ∈ (fields.map fun field => Pager.searches field words place connector).flatten,
      f.Complete := by
  rw [flatten_searches]
  intro f hf
  obtain ⟨p, hp, rfl⟩ := List.mem_map.1 hf
  obtain ⟨hfield, hword⟩ := List.mem_product.1 hp
  exact complete_searchFilter_iff.2 (h p.1 hfield p.2 hword)

/-- What an operation does to a view: its condition is conjoined, and its key, if it
installs one, replaces the key before. -/
theorem apply_of_valid (view : ListView ρ) {op : Operation} (h : op.Valid) :
    op.apply view = .ok { view.restrictBy? (op.condition? view.schema) with
      key := (op.key? view.schema).or view.key } := by
  cases op with
  | restrict c => rfl
  | sort key => rfl
  | narrow pager filters =>
    rw [apply, pager.narrow_of_complete view h]
    simp only [Except.map, ListView.value_narrowChecked, condition?, key?, Option.none_or]
    rw [← ListView.key_restrictBy?]
  | search pager fields words place connector =>
    rw [apply, Pager.search_eq_map, checkFilters_eq_ok_iff.2 (complete_of_mem_searches h)]
    simp only [Except.map, ListView.value_restrictBy, condition?, key?, Option.none_or]
    rw [← ListView.key_restrictBy?]
    rfl
  | ascending field =>
    rw [apply, ascendingBy, ListView.value_sortAs]
    rfl
  | descending field =>
    rw [apply, descendingBy, ListView.value_sortAs]
    rfl

end Operation

/-! ## Runs of operations -/

/-- A view after a run of operations on a fresh view of `records`: it keeps the rows that
satisfy every condition contributed, and its key is the one in force. -/
structure Reflects (sorter : Sorter ρ) (schema : Schema ρ) (records : List ρ)
    (ops : List Operation) (view : ListView ρ) : Prop where
  sorter_eq : view.sorter = sorter
  schema_eq : view.schema = schema
  records_eq : view.records = records
  keeps_eq : ∀ r, view.keeps r =
    ops.all fun op => (op.condition? schema).all (·.holds schema r)
  key_eq : view.key = keyInForce schema ops

namespace Reflects

variable {sorter : Sorter ρ} {schema : Schema ρ} {records : List ρ} {ops : List Operation}
  {view : ListView ρ}

/-- A fresh view reflects the run of no operations. -/
theorem fresh (sorter : Sorter ρ) (schema : Schema ρ) (records : List ρ) :
    Reflects sorter schema records [] (.of sorter schema records) :=
  ⟨rfl, rfl, rfl, fun _ => rfl, rfl⟩

/-- One more operation extends the run. -/
theorem step (h : Reflects sorter schema records ops view) {op : Operation} (hop : op.Valid) :
    ∃ view', op.apply view = .ok view' ∧
      Reflects sorter schema records (ops ++ [op]) view' := by
  refine ⟨_, Operation.apply_of_valid view hop, ?_, ?_, ?_, ?_, ?_⟩
  · exact (view.sorter_restrictBy? _).trans h.sorter_eq
  · exact (view.schema_restrictBy? _).trans h.schema_eq
  · exact (view.records_restrictBy? _).trans h.records_eq
  · intro r
    refine (view.keeps_restrictBy? _ r).trans ?_
    rw [h.keeps_eq, h.schema_eq]
    simp
  · rw [keyInForce, List.filterMap_append, List.getLast?_append, h.key_eq, h.schema_eq,
      keyInForce]
    cases hkey : op.key? schema <;> simp [hkey]

/-- **The invariant of a run.** A run of valid operations succeeds, and the view that it
gives reflects the run together with what came before. -/
theorem run (h : Reflects sorter schema records ops view) {more : List Operation}
    (hmore : ∀ op ∈ more, op.Valid) :
    ∃ view', Operation.run view more = .ok view' ∧
      Reflects sorter schema records (ops ++ more) view' := by
  induction more generalizing ops view with
  | nil => exact ⟨view, rfl, by rwa [List.append_nil]⟩
  | cons op more ih =>
    obtain ⟨hop, hrest⟩ := List.forall_mem_cons.1 hmore
    obtain ⟨next, happly, hnext⟩ := h.step hop
    obtain ⟨final, hrun, hfinal⟩ := ih hnext hrest
    refine ⟨final, ?_, by simpa using hfinal⟩
    rw [Operation.run, List.foldlM_cons, happly]
    exact hrun

/-- The rows kept are those of the reference. -/
theorem matching_eq (h : Reflects sorter schema records ops view) :
    view.matching = kept schema records ops := by
  rw [ListView.matching, h.records_eq, kept]
  congr 1
  exact funext h.keeps_eq

/-- The rows shown are those of the reference. -/
theorem shown_eq (h : Reflects sorter schema records ops view) :
    view.shown = eager sorter schema records ops := by
  cases hkey : keyInForce schema ops <;>
    simp only [ListView.shown, eager, h.sorter_eq, h.key_eq, h.matching_eq, h.schema_eq, hkey]

end Reflects

/-- Rows that the key in force compares consistently are sorted stably by it, whatever sorts
them, and without a key they are as they were. -/
theorem eager_of_consistent (sorter : Sorter ρ) {schema : Schema ρ} {records : List ρ}
    {ops : List Operation}
    (h : ∀ key ∈ keyInForce schema ops,
      Consistent (key.compareRecords schema) (kept schema records ops)) :
    eager sorter schema records ops =
      some ((keyInForce schema ops).elim (kept schema records ops) fun key =>
        sortedBy (key.compareRecords schema) (kept schema records ops)) := by
  unfold eager
  cases hkey : keyInForce schema ops with
  | none => rfl
  | some key => exact sorter.sort?_of_consistent (h key hkey)

/-- **A view reads as if every operation had been carried out at once.** After any run of
valid operations the number of rows and every window are those of the reference, which shows
its rows unless the key in force does not compare them consistently; a window as long as the
list shows as many rows as are counted. A further sorting does not change their number; a
further restriction keeps the key in force and adds no row. -/
theorem run_reads_eager (sorter : Sorter ρ) (schema : Schema ρ) (records : List ρ)
    (ops : List Operation) (hops : ∀ op ∈ ops, op.Valid) :
    ∃ view, Operation.run (.of sorter schema records) ops = .ok view ∧
      view.count = (kept schema records ops).length ∧
      (∀ skip take, view.window skip take =
        (eager sorter schema records ops).map fun rows => (rows.drop skip).take take) ∧
      ((∀ key ∈ keyInForce schema ops,
          Consistent (key.compareRecords schema) (kept schema records ops)) →
        eager sorter schema records ops =
          some ((keyInForce schema ops).elim (kept schema records ops) fun key =>
            sortedBy (key.compareRecords schema) (kept schema records ops))) ∧
      (∀ rows, view.window 0 records.length = some rows → view.count = rows.length) ∧
      ∀ op : Operation, op.Valid → ∃ view', op.apply view = .ok view' ∧
        (op.isSorting = true → view'.count = view.count) ∧
        (op.isSorting = false → view'.key = view.key ∧ view'.matching.Sublist view.matching) := by
  obtain ⟨view, hrun, hview⟩ := (Reflects.fresh sorter schema records).run hops
  rw [List.nil_append] at hview
  refine ⟨view, hrun, ?_, ?_, eager_of_consistent sorter, ?_, ?_⟩
  · rw [ListView.count, hview.matching_eq]
  · intro skip take
    rw [ListView.window, hview.shown_eq]
  · intro rows hrows
    rw [← hview.records_eq, view.window_zero view.count_le] at hrows
    exact (view.length_of_shown hrows).symm
  · intro op hop
    refine ⟨_, Operation.apply_of_valid view hop, fun hsort => ?_, fun hrestrict => ⟨?_, ?_⟩⟩
    · rw [Operation.condition?_of_isSorting hsort]
      rfl
    · rw [Operation.key?_of_not_isSorting hrestrict, Option.none_or]
    · change (view.restrictBy? _).matching.Sublist _
      rw [ListView.matching_restrictBy?]
      exact List.filter_sublist

/-- Restrictions and sortings in turn, among them a sorting by a field that is not there
and filters that do not apply: the key installed before stays in force. -/
theorem run_mixed_operations :
    let schema : Schema FieldValue := ⟨[⟨"value", .int, id⟩], by simp, by simp, by simp⟩
    let records : List FieldValue :=
      [some (.number (.int 3)), none, some (.number (.int 1)), some (.number (.int 2))]
    let pager := Pager.standard (.byRows fun _ => none)
    let ops : List Operation :=
      [.restrict (.order "value" .lt (.number (.int 3))), .sort ⟨"value", .desc⟩,
        .ascending "weight", .search pager ["value"] ["1"] .anywhere .or,
        .narrow pager [.of "weight" .equals "7"]]
    (∀ op ∈ ops, op.Valid) ∧
    ∃ view, Operation.run (.of .merge schema records) ops = .ok view ∧ view.count = 2 ∧
      view.window 0 2 = some [some (.number (.int 2)), some (.number (.int 1))] := by
  intro schema records pager ops
  have hops : ∀ op ∈ ops, op.Valid := by
    simp [ops, Operation.Valid, Filter.Complete, Filter.of, Blank]
  have hkept : kept schema records ops = [some (.number (.int 1)), some (.number (.int 2))] := rfl
  have hkey : keyInForce schema ops = some ⟨"value", .desc⟩ := rfl
  have hlt : SortKey.compareRecords schema ⟨"value", .desc⟩ (some (.number (.int 1)))
      (some (.number (.int 2))) = .gt := rfl
  have heager : eager .merge schema records ops
      = some [some (.number (.int 2)), some (.number (.int 1))] := by
    simp only [eager, hkey, hkept, Sorter.merge, sortedBy]
    rw [List.mergeSort]
    simp [List.MergeSort.Internal.splitInTwo, hlt]
  obtain ⟨view, hrun, hcount, hwindow, _⟩ := run_reads_eager .merge schema records ops hops
  refine ⟨hops, view, hrun, ?_, ?_⟩
  · rw [hcount, hkept]
    rfl
  · rw [hwindow, heager]
    rfl

end PagedQuery
