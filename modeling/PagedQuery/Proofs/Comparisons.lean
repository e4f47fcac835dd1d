import PagedQuery.Proofs.Chaining
import PagedQuery.Proofs.Typing

/-!
# What comparisons say

A value and a literal of one kind stand in exactly one order, unless a NaN is among them,
and the six comparisons of a field with a literal all go by it. A NaN is unequal to every
number and stands in no order. Between two kinds, and for a missing value, no comparison
holds, not even an inequality.

Integers are in the order of their exact values, however they are represented. So a filter
on a field of integers selects the rows by the integer that its text writes.

## Main definitions

* `Scalar.kind`: the kind of a value, with all numbers of one kind.
* `Scalar.integer?`: the integer that a value is.
* `Comparison.onIntegers?`: the relation between integers that a comparison asks for.
-/

namespace PagedQuery

variable {ρ : Type}

/-! ## Values of one kind -/

namespace Scalar

/-- The kinds of values. -/
inductive Kind where
  | string
  | number
  | char
  | dateTime
  | variant
  | bool
  deriving DecidableEq

/-- The kind of a value. -/
def kind : Scalar → Kind
  | string _ => .string
  | number _ => .number
  | char _ => .char
  | dateTime _ => .dateTime
  | variant _ => .variant
  | bool _ => .bool

variable {a b : Scalar}

/-- Two values are in no order if they are of two kinds or a NaN is among them. -/
theorem compare?_eq_none_iff :
    a.compare? b = none ↔ a.kind ≠ b.kind ∨ a.isNaN = true ∨ b.isNaN = true := by
  cases a <;> cases b
  case number.number m n => simpa [compare?, kind, isNaN] using Number.compare?_eq_none_iff
  all_goals simp [compare?, kind, isNaN]

/-- Whether two values of one kind are equal is known even without an order. -/
theorem equals?_eq :
    a.equals? b = if a.kind = b.kind then some (a.compare? b == some .eq) else none := by
  cases a <;> cases b <;> simp [equals?, compare?, kind]

end Scalar

/-! ## The six comparisons -/

namespace Condition

variable {schema : Schema ρ} {r : ρ} {field : String} {literal v : Scalar}

theorem holds_order_of_value (relation : OrderRelation) (h : schema.valueOf field r = some v) :
    (order field relation literal).holds schema r = (v.compare? literal).any relation.holds := by
  rw [holds, h, Option.bind_some]

theorem holds_equals_of_value (h : schema.valueOf field r = some v)
    (hkind : v.kind = literal.kind) :
    (equals field literal).holds schema r = (v.compare? literal == some .eq) := by
  rw [holds, h, Option.bind_some, Scalar.equals?_eq, if_pos hkind, Option.some_beq_some,
    beq_true]

theorem holds_notEquals_of_value (h : schema.valueOf field r = some v)
    (hkind : v.kind = literal.kind) :
    (notEquals field literal).holds schema r = !(v.compare? literal == some .eq) := by
  rw [holds, h, Option.bind_some, Scalar.equals?_eq, if_pos hkind, Option.some_beq_some,
    beq_false]

/-- No comparison holds of a missing value, or of a value of another kind. -/
theorem not_holds_of_other_kind
    (h : ∀ v, schema.valueOf field r = some v → v.kind ≠ literal.kind) :
    (equals field literal).holds schema r = false ∧
      (notEquals field literal).holds schema r = false ∧
      ∀ relation, (order field relation literal).holds schema r = false := by
  cases hvalue : schema.valueOf field r with
  | none => simp [holds, hvalue]
  | some v =>
    have hkind : v.kind ≠ literal.kind := h v hvalue
    have hcompare : v.compare? literal = none := Scalar.compare?_eq_none_iff.2 (.inl hkind)
    simp [holds, hvalue, hcompare, Scalar.equals?_eq, hkind]

/-- **The six comparisons of a field with a literal.** None of them holds if there is no such
field, if its value is missing, or if value and literal are of two kinds. If a NaN is among
two numbers, the inequality holds and nothing else. Otherwise exactly one of less, equal
and greater holds, and the other three say what their names say. -/
theorem six_comparisons (schema : Schema ρ) (r : ρ) (field : String) (literal : Scalar) :
    let eq := (equals field literal).holds schema r
    let ne := (notEquals field literal).holds schema r
    let lt := (order field .lt literal).holds schema r
    let lte := (order field .lte literal).holds schema r
    let gt := (order field .gt literal).holds schema r
    let gte := (order field .gte literal).holds schema r
    ((∀ f ∈ schema.fields, f.name ≠ field) ∨ schema.valueOf field r = none ∨
        (∃ v, schema.valueOf field r = some v ∧ v.kind ≠ literal.kind) →
      ∀ verdict ∈ [eq, ne, lt, lte, gt, gte], verdict = false) ∧
    ∀ v, schema.valueOf field r = some v → v.kind = literal.kind →
      (v.isNaN = true ∨ literal.isNaN = true →
        ne = true ∧ ∀ verdict ∈ [eq, lt, lte, gt, gte], verdict = false) ∧
      (v.isNaN = false → literal.isNaN = false →
        [lt, eq, gt].count true = 1 ∧ ne = !eq ∧ lte = (lt || eq) ∧ gte = (gt || eq)) := by
  intro eq ne lt lte gt gte
  constructor
  · intro h
    have hkind : ∀ v, schema.valueOf field r = some v → v.kind ≠ literal.kind := by
      intro v hv
      rcases h with hunknown | hnone | ⟨w, hw, hne⟩
      · rw [Schema.valueOf, Schema.find?_eq_none_iff.2 hunknown] at hv
        cases hv
      · rw [hnone] at hv
        cases hv
      · obtain rfl := Option.some.inj (hw.symm.trans hv)
        exact hne
    obtain ⟨heq, hne, horder⟩ := not_holds_of_other_kind hkind
    simp [eq, ne, lt, lte, gt, gte, heq, hne, horder]
  · intro v hvalue hkind
    have heq : eq = (v.compare? literal == some .eq) := holds_equals_of_value hvalue hkind
    have hne : ne = !(v.compare? literal == some .eq) := holds_notEquals_of_value hvalue hkind
    have horder (relation : OrderRelation) : (order field relation literal).holds schema r =
        (v.compare? literal).any relation.holds := holds_order_of_value relation hvalue
    simp only [heq, hne, lt, lte, gt, gte, horder]
    constructor
    · intro hnan
      have hcompare : v.compare? literal = none := Scalar.compare?_eq_none_iff.2 (.inr hnan)
      simp [hcompare]
    · intro hv hliteral
      obtain ⟨o, ho⟩ : ∃ o, v.compare? literal = some o := by
        refine Option.ne_none_iff_exists'.1 (mt Scalar.compare?_eq_none_iff.1 ?_)
        simp [hkind, hv, hliteral]
      rw [ho]
      cases o <;> decide

end Condition

/-! ## Integers -/

/-- The integer that a value is, if it is one. -/
def Scalar.integer? : Scalar → Option Int
  | .number n => n.toInt?
  | _ => none

theorem Scalar.eq_number_of_integer? {v : Scalar} {m : Int} (h : v.integer? = some m) :
    ∃ n : Number, v = .number n ∧ n.toInt? = some m := by
  cases v with
  | number n => exact ⟨n, rfl, h⟩
  | string | char | dateTime | variant | bool => cases h

theorem Scalar.kind_of_integer? {v : Scalar} {m : Int} (h : v.integer? = some m) :
    v.kind = .number := by
  obtain ⟨n, rfl, -⟩ := eq_number_of_integer? h
  rfl

/-- Integers are in the order of their exact values, whatever represents them. -/
theorem Scalar.compare?_of_integer? {v literal : Scalar} {m k : Int} (hv : v.integer? = some m)
    (hliteral : literal.integer? = some k) : v.compare? literal = some (compare m k) := by
  obtain ⟨a, rfl, ha⟩ := eq_number_of_integer? hv
  obtain ⟨b, rfl, hb⟩ := eq_number_of_integer? hliteral
  rw [compare?, Number.compare?_of_toInt? ha hb]

/-- The relation between integers that is named. -/
def OrderRelation.onIntegers : OrderRelation → Int → Int → Bool
  | lt, m, k => m < k
  | lte, m, k => m ≤ k
  | gt, m, k => m > k
  | gte, m, k => m ≥ k

/-- The relation between integers that a comparison asks for, if it asks for one. -/
def Comparison.onIntegers? : Comparison → Option (Int → Int → Bool)
  | equals => some fun m k => m = k
  | notEquals => some fun m k => m ≠ k
  | order relation => some relation.onIntegers
  | nothing => none
  | search _ => none

theorem OrderRelation.holds_compare (relation : OrderRelation) (m k : Int) :
    relation.holds (compare m k) = relation.onIntegers m k := by
  rw [Bool.eq_iff_iff]
  cases relation with
  | lt => simp only [holds, onIntegers, beq_iff_eq, decide_eq_true_eq, Int.compare_eq_lt]
  | lte => simp only [holds, onIntegers, bne_iff_ne, decide_eq_true_eq, Int.compare_ne_gt]
  | gt => simp only [holds, onIntegers, beq_iff_eq, decide_eq_true_eq, Int.compare_eq_gt, gt_iff_lt]
  | gte =>
    simp only [holds, onIntegers, bne_iff_ne, decide_eq_true_eq, Int.compare_ne_lt, ge_iff_le]

theorem compare_integers_beq_eq (m k : Int) :
    (some (compare m k) == some .eq) = decide (m = k) := by
  rw [Bool.eq_iff_iff]
  simp only [beq_iff_eq, Option.some_inj, Int.compare_eq_eq, decide_eq_true_eq]

/-- No integer is read from an empty text. -/
theorem ne_empty_of_integer? {text : String} {kind : FieldKind} {literal : Scalar} {k : Int}
    (hparse : ParserTable.standard.parse? text kind = some literal)
    (hliteral : literal.integer? = some k) : text ≠ "" := by
  rintro rfl
  obtain ⟨n, rfl, hn⟩ := Scalar.eq_number_of_integer? hliteral
  cases literalOf_of_parse? hparse <;> cases hparse

namespace Filter

variable {schema : Schema ρ} {field : Field ρ} {comparison : Comparison} {test : Int → Int → Bool}
  {literal : Scalar} {k : Int}

/-- A comparison with an integer holds of the rows whose integer stands in the relation asked
for. -/
theorem holds_comparisonOutcome (engine : Regex.Engine) (key text : String)
    (hfield : field ∈ schema.fields) (htest : comparison.onIntegers? = some test)
    (hliteral : literal.integer? = some k) :
    ∃ c, (comparisonOutcome engine key text field literal comparison).condition? = some c ∧
      ∀ r, (∀ v, field.read r = some v → v.integer?.isSome = true) →
        c.holds schema r = ((field.read r).bind Scalar.integer?).any (test · k) := by
  have hvalue {r : ρ} : schema.valueOf field.name r = field.read r :=
    schema.valueOf_of_mem hfield r
  -- No comparison holds of a missing value, so it is enough to look at integers.
  suffices hrows : ∃ c,
      (comparisonOutcome engine key text field literal comparison).condition? = some c ∧
      (∀ r, field.read r = none → c.holds schema r = false) ∧
      ∀ r v m, field.read r = some v → v.integer? = some m → c.holds schema r = test m k by
    obtain ⟨c, hc, hmissing, hinteger⟩ := hrows
    refine ⟨c, hc, fun r hr => ?_⟩
    cases hread : field.read r with
    | none => exact hmissing r hread
    | some v =>
      obtain ⟨m, hm⟩ := Option.isSome_iff_exists.1 (hr v hread)
      rw [hinteger r v m hread hm, Option.bind_some, hm, Option.any_some]
  have hmissing (r : ρ) (hread : field.read r = none) :
      (Condition.equals field.name literal).holds schema r = false ∧
        (Condition.notEquals field.name literal).holds schema r = false ∧
        ∀ relation, (Condition.order field.name relation literal).holds schema r = false :=
    Condition.not_holds_of_other_kind (by simp [hvalue, hread])
  have hkind {v : Scalar} {m : Int} (hm : v.integer? = some m) : v.kind = literal.kind :=
    (Scalar.kind_of_integer? hm).trans (Scalar.kind_of_integer? hliteral).symm
  cases comparison with
  | nothing | search _ => cases htest
  | equals =>
    obtain rfl := Option.some.inj htest
    refine ⟨_, rfl, fun r hread => (hmissing r hread).1, fun r v m hread hm => ?_⟩
    rw [Condition.holds_equals_of_value (hvalue.trans hread) (hkind hm),
      Scalar.compare?_of_integer? hm hliteral, compare_integers_beq_eq]
  | notEquals =>
    obtain rfl := Option.some.inj htest
    refine ⟨_, rfl, fun r hread => (hmissing r hread).2.1, fun r v m hread hm => ?_⟩
    rw [Condition.holds_notEquals_of_value (hvalue.trans hread) (hkind hm),
      Scalar.compare?_of_integer? hm hliteral, compare_integers_beq_eq, ← decide_not]
  | order relation =>
    obtain rfl := Option.some.inj htest
    refine ⟨_, rfl, fun r hread => (hmissing r hread).2.2 relation, fun r v m hread hm => ?_⟩
    rw [Condition.holds_order_of_value relation (hvalue.trans hread),
      Scalar.compare?_of_integer? hm hliteral, Option.any_some, relation.holds_compare]

end Filter

namespace Pager

variable (settings : Settings) (engine : Regex.Engine) (sorter : Sorter ρ) (schema : Schema ρ)
  (records : List ρ) {field : Field ρ}

/-- **Filters on integers are exact.** Take a field that holds integers in the records of a
list, signed or unsigned, or nothing, and a text that the usual parser of the field reads as
the integer `k`. The filter of the field by that text is accepted, and of the records it
leaves, in their order, those with an integer that stands in the relation asked for to `k`. -/
theorem narrow_integers (hfield : field ∈ schema.fields)
    (hvalues : ∀ r ∈ records, ∀ v, field.read r = some v → v.integer?.isSome = true)
    {comparison : Comparison} {test : Int → Int → Bool}
    (htest : comparison.onIntegers? = some test) {text : String} {k : Int}
    (htext : (ParserTable.standard.parse? text field.kind).bind Scalar.integer? = some k)
    (connector : Connector) :
    let selected := records.filter fun r => ((field.read r).bind Scalar.integer?).any (test · k)
    ∃ narrowed, narrow ⟨settings, .standard, engine⟩ (ListView.of sorter schema records)
        [⟨some field.name, some text, comparison, connector⟩] = .ok narrowed ∧
      narrowed.value.count = selected.length ∧
      ∀ skip take, narrowed.value.window skip take = some ((selected.drop skip).take take) := by
  intro selected
  let pager : Pager := ⟨settings, .standard, engine⟩
  let view := ListView.of sorter schema records
  let filter : Filter := ⟨some field.name, some text, comparison, connector⟩
  obtain ⟨literal, hparse, hliteral⟩ := Option.bind_eq_some_iff.1 htext
  obtain ⟨c, hc, hholds⟩ :=
    Filter.holds_comparisonOutcome engine field.name text hfield htest hliteral
  have hcomplete : ∀ f ∈ [filter], f.Complete := by
    have hname : field.name ≠ "" := schema.name_ne_empty field hfield
    have hne : text ≠ "" := ne_empty_of_integer? hparse hliteral
    simp [filter, Filter.Complete, Blank, hname, hne]
  have hcondition : pager.conditionOf view.schema [filter] = some c := by
    have houtcome : filter.outcome schema .standard engine =
        Filter.comparisonOutcome engine field.name text field literal comparison :=
      Filter.outcome_of_readable hfield rfl hparse
    exact (pager.conditionOf_singleton schema filter).trans
      ((congrArg FilterOutcome.condition? houtcome).trans hc)
  have hmatching : (pager.narrowChecked view [filter]).value.matching = selected := by
    have hall : view.matching = records := List.filter_eq_self.2 fun _ _ => rfl
    rw [ListView.value_narrowChecked, hcondition, ListView.matching_restrictBy?, hall]
    exact List.filter_congr fun r hr => hholds r (hvalues r hr)
  have hkey : (pager.narrowChecked view [filter]).value.key = none := by
    rw [ListView.value_narrowChecked, ListView.key_restrictBy?]
    rfl
  refine ⟨_, pager.narrow_of_complete view hcomplete, ?_, fun skip take => ?_⟩
  · rw [ListView.count, hmatching]
  · rw [ListView.window_of_shown _ (ListView.shown_eq_matching _ hkey), hmatching]

/-- In a field of unsigned integers, the rows above the greatest signed integer: a negative
number is not among them, and neither is a missing value. -/
theorem narrow_above_signed :
    let schema : Schema FieldValue := ⟨[⟨"value", .uint, id⟩], by simp, by simp, by simp⟩
    let int : Int64 → FieldValue := fun n => some (.number (.int n))
    let uint : UInt64 → FieldValue := fun n => some (.number (.uint n))
    let records := [uint 9223372036854775808, int (-1), none, int 9223372036854775807,
      uint 18446744073709551615]
    let filter : Filter := .of "value" (.order .gt) " +09223372036854775807"
    let pager := standard (.byRows fun _ => none)
    (∀ r ∈ records, ∀ v, r = some v → v.integer?.isSome = true) ∧
    (Comparison.order .gt).onIntegers? = some OrderRelation.gt.onIntegers ∧
    (ParserTable.standard.parse? " +09223372036854775807" .uint).bind Scalar.integer? =
      some 9223372036854775807 ∧
    ∃ narrowed, pager.narrow (ListView.of .merge schema records) [filter] = .ok narrowed ∧
      narrowed.value.window 0 5 =
        some [uint 9223372036854775808, uint 18446744073709551615] := by
  intro schema int uint records filter pager
  have hvalues : ∀ r ∈ records, ∀ v, r = some v → v.integer?.isSome = true := by
    simp [records, int, uint, Scalar.integer?, Number.toInt?]
  have htext : (ParserTable.standard.parse? " +09223372036854775807" .uint).bind Scalar.integer? =
      some 9223372036854775807 := rfl
  have htest : (Comparison.order .gt).onIntegers? = some OrderRelation.gt.onIntegers := rfl
  obtain ⟨narrowed, hnarrowed, -, hwindow⟩ := narrow_integers .standard pager.engine .merge
    schema records (List.mem_singleton_self _) hvalues htest htext .missing
  refine ⟨hvalues, htest, htext, narrowed, hnarrowed, ?_⟩
  rw [hwindow]
  rfl

end Pager

end PagedQuery
