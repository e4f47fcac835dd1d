import PagedQuery.Proofs.Inapplicable
import PagedQuery.Proofs.LikeMatching
import PagedQuery.Proofs.Rounding

/-!
# Compiled conditions are typed

The tree that a list of filters is compiled to compares each field with a literal of the
kind for which the field is declared, and searches only fields of strings. So on records
that hold what their fields are declared to hold, a comparison is left without an answer
only by a missing value or a NaN, and never by a value of another kind.

## Main definitions

* `Condition.leaves`, `Condition.test?`: the comparisons of a condition, and what each
  compares with what.
* `LiteralOf kind literal`: the literals for fields of a kind.
* `Condition.TypedLeaf`: the comparisons that filters of a list may ask for.
* `FieldKind.admits`, `Schema.Conforms`: the records that hold what is declared.
-/

namespace PagedQuery

variable {ρ : Type}

/-! ## Literals and values of a kind -/

/-- The literals for fields of a kind. -/
inductive LiteralOf : FieldKind → Scalar → Prop
  | int (n : Int64) : LiteralOf .int (.number (.int n))
  | uint (n : UInt64) : LiteralOf .uint (.number (.uint n))
  | float (x : Binary64) : LiteralOf .float (.number (.float x))
  | string (s : String) : LiteralOf .string (.string s)
  | char (c : Char) : LiteralOf .char (.char c)
  | bool (b : Bool) : LiteralOf .bool (.bool b)
  | dateTime (d : DateTime) : LiteralOf .dateTime (.dateTime d)
  | variant {variants : List String} {index : Nat} (h : index < variants.length) :
      LiteralOf (.enum variants) (.variant index)

/-- The values that a field of a kind is declared to hold. A field of numbers of any sort
may hold any number. -/
def FieldKind.admits : FieldKind → Scalar → Bool
  | int, .number _ => true
  | uint, .number _ => true
  | float, .number _ => true
  | string, .string _ => true
  | char, .char _ => true
  | bool, .bool _ => true
  | dateTime, .dateTime _ => true
  | enum _, .variant _ => true
  | _, _ => false

/-- Holds of the records whose fields hold what they are declared to hold, or nothing. -/
def Schema.Conforms (schema : Schema ρ) (r : ρ) : Prop :=
  ∀ field ∈ schema.fields, ∀ v ∈ field.read r, field.kind.admits v = true

/-- The usual parsers read the text of a filter as a literal of the kind of its field. -/
theorem literalOf_of_parse? {text : String} {kind : FieldKind} {literal : Scalar}
    (h : ParserTable.standard.parse? text kind = some literal) : LiteralOf kind literal := by
  have hparser : ParserTable.standardParser kind.basic text kind = some literal := h
  cases kind with
  | int =>
    obtain ⟨n, hn, rfl⟩ := Option.map_eq_some_iff.1 hparser
    obtain ⟨n, -, rfl⟩ := Option.map_eq_some_iff.1 hn
    exact .int n
  | uint =>
    obtain ⟨n, hn, rfl⟩ := Option.map_eq_some_iff.1 hparser
    obtain ⟨n, -, rfl⟩ := Option.map_eq_some_iff.1 hn
    exact .uint n
  | float =>
    obtain ⟨n, hn, rfl⟩ := Option.map_eq_some_iff.1 hparser
    obtain ⟨x, -, rfl⟩ := Option.map_eq_some_iff.1 hn
    exact .float x
  | string =>
    obtain rfl := Option.some.inj hparser
    exact .string text
  | char =>
    have hsingle : ∃ cs, Literal.single? cs = some literal := by
      simp only [FieldKind.basic, ParserTable.standardParser, Literal.char?] at hparser
      split at hparser <;> exact ⟨_, hparser⟩
    obtain ⟨cs, hcs⟩ := hsingle
    rcases cs with _ | ⟨c, _ | ⟨_, _⟩⟩
    · cases hcs
    · obtain rfl := Option.some.inj hcs
      exact .char c
    · cases hcs
  | bool =>
    simp only [FieldKind.basic, ParserTable.standardParser, Literal.bool?] at hparser
    split at hparser
    · obtain rfl := Option.some.inj hparser
      exact .bool true
    · split at hparser
      · obtain rfl := Option.some.inj hparser
        exact .bool false
      · cases hparser
  | dateTime =>
    obtain ⟨d, -, rfl⟩ := Option.map_eq_some_iff.1 hparser
    exact .dateTime d
  | enum variants =>
    obtain ⟨index, hindex, rfl⟩ := Option.map_eq_some_iff.1 hparser
    exact .variant (List.findIdx?_eq_some_iff_findIdx_eq.1 hindex).1

/-! ## Comparing within a kind -/

theorem Binary64.compare?_eq_none_iff {x y : Binary64} :
    x.compare? y = none ↔ x.isNaN = true ∨ y.isNaN = true := by
  rw [compare?]
  split <;> simp_all

/-- Two numbers compare unless one of them is a NaN. -/
theorem Number.compare?_eq_none_iff {a b : Number} :
    a.compare? b = none ↔ a.isNaN = true ∨ b.isNaN = true := by
  cases a <;> cases b <;>
    simp [compare?, toBinary64, isNaN, Binary64.compare?_eq_none_iff, Binary64.isNaN_ofInt]

/-- A value that a field may hold compares with a literal for the field, unless one of them
is a NaN. -/
theorem LiteralOf.compare?_eq_none_iff {kind : FieldKind} {literal v : Scalar}
    (h : LiteralOf kind literal) (hv : kind.admits v = true) :
    v.compare? literal = none ↔ v.isNaN = true ∨ literal.isNaN = true := by
  cases h <;> cases v <;> simp only [FieldKind.admits, Bool.false_eq_true] at hv
  case int.number | uint.number | float.number => exact Number.compare?_eq_none_iff
  all_goals simp [Scalar.compare?, Scalar.isNaN]

/-! ## Leaves -/

namespace Condition

/-- The comparisons of a condition, from left to right. -/
def leaves : Condition → List Condition
  | and left right => left.leaves ++ right.leaves
  | or left right => left.leaves ++ right.leaves
  | equals field literal => [.equals field literal]
  | notEquals field literal => [.notEquals field literal]
  | order field relation literal => [.order field relation literal]
  | like field place pattern => [.like field place pattern]

/-- The field that a comparison compares, and the literal with which it does. A search has
no literal. -/
def test? : Condition → Option (String × Scalar)
  | equals field literal => some (field, literal)
  | notEquals field literal => some (field, literal)
  | order field _ literal => some (field, literal)
  | like .. => none
  | and .. => none
  | or .. => none

/-- The comparisons that filters of a list may ask for. They are with fields of the schema,
under their own names: with a literal of the kind of the field, or a search for the text of
a filter on it. -/
inductive TypedLeaf (schema : Schema ρ) (filters : List Filter) : Condition → Prop
  | compared {leaf : Condition} {field : Field ρ} {literal : Scalar}
      (htest : leaf.test? = some (field.name, literal)) (hfield : field ∈ schema.fields)
      (hliteral : LiteralOf field.kind literal) : TypedLeaf schema filters leaf
  | searched {field : Field ρ} {f : Filter} {place : Placement} {pattern : LikePattern}
      (hfield : field ∈ schema.fields) (hkind : field.kind = .string) (hf : f ∈ filters)
      (hkey : f.key = some field.name) (hcomparison : f.comparison = .search place)
      (htext : pattern.text = place.around (f.value.getD "")) :
      TypedLeaf schema filters (.like field.name place pattern)

/-- The leaves of a condition that may be absent. -/
def leavesOf (c? : Option Condition) : List Condition := c?.elim [] leaves

theorem leaves_join (joint : Joint) (before c : Condition) :
    (join joint before c).leaves ⊆ before.leaves ++ c.leaves := by
  cases joint with
  | conjunction | disjunction => exact List.Subset.refl _
  | dropped => exact List.subset_append_left ..

/-- One more filter adds no leaves but its own. -/
theorem leavesOf_extend (policy : ConnectorPolicy) (before : Option Condition)
    (p : Option Condition × Connector) :
    leavesOf (extend policy before p) ⊆ leavesOf before ++ leavesOf p.1 := by
  obtain ⟨c?, k⟩ := p
  cases c? with
  | none => exact List.subset_append_left ..
  | some c =>
    cases before with
    | none => exact List.subset_append_right ..
    | some before => exact leaves_join ..

/-- A leaf was there before the filters of a list were gone through, or comes from one of
them. -/
theorem mem_leavesOf_foldl {policy : ConnectorPolicy} {cs : List (Option Condition × Connector)}
    {before : Option Condition} {leaf : Condition}
    (h : leaf ∈ leavesOf (cs.foldl (extend policy) before)) :
    leaf ∈ leavesOf before ∨ ∃ p ∈ cs, leaf ∈ leavesOf p.1 := by
  induction cs generalizing before with
  | nil => exact .inl h
  | cons p cs ih =>
    rcases ih h with hstep | ⟨q, hq, hleaf⟩
    · rcases List.mem_append.1 (leavesOf_extend policy before p hstep) with hbefore | hp
      · exact .inl hbefore
      · exact .inr ⟨p, List.mem_cons_self, hp⟩
    · exact .inr ⟨q, List.mem_cons_of_mem p hq, hleaf⟩

/-- Every leaf of the condition of a list comes from the condition of one of its filters. -/
theorem exists_of_mem_leavesOf_joinAll {policy : ConnectorPolicy}
    {cs : List (Option Condition × Connector)} {leaf : Condition}
    (h : leaf ∈ leavesOf (joinAll policy cs)) : ∃ p ∈ cs, leaf ∈ leavesOf p.1 :=
  (mem_leavesOf_foldl h).resolve_left List.not_mem_nil

end Condition

/-! ## The leaves of compiled filters -/

namespace Filter

variable {schema : Schema ρ} {engine : Regex.Engine} {filters : List Filter} {f : Filter}

/-- A filter that means a condition has a field and a text that can be read for it. -/
theorem exists_of_condition? {parsers : ParserTable} {c : Condition}
    (h : f.condition? schema parsers engine = some c) :
    ∃ field literal, field ∈ schema.fields ∧ f.key = some field.name ∧
      parsers.parse? (f.value.getD "") field.kind = some literal ∧
      (comparisonOutcome engine field.name (f.value.getD "") field literal
        f.comparison).condition? = some c := by
  cases hlookup : schema.lookup? f.key with
  | none =>
    rw [condition?, outcome_of_unknown (Schema.lookup?_eq_none_iff.1 hlookup)] at h
    cases h
  | some field =>
    obtain ⟨hfield, hkey⟩ := Schema.lookup?_eq_some_iff.1 hlookup
    cases hparse : parsers.parse? (f.value.getD "") field.kind with
    | none =>
      rw [condition?, outcome_of_unreadable hfield hkey hparse] at h
      cases h
    | some literal =>
      rw [condition?, outcome_of_readable hfield hkey hparse] at h
      exact ⟨field, literal, hfield, hkey, hparse, h⟩

/-- A search means a condition only in a field of strings, and keeps its text. -/
theorem eq_like_of_condition?_searchOutcome {key text : String} {field : Field ρ}
    {place : Placement} {c : Condition}
    (h : (searchOutcome engine key text field place).condition? = some c) :
    field.kind = .string ∧ ∃ pattern : LikePattern, pattern.text = place.around text ∧
      c = .like field.name place pattern := by
  unfold searchOutcome at h
  split at h
  · next hkind =>
    cases hpattern : LikePattern.build engine (place.around text) with
    | error reason =>
      rw [hpattern] at h
      cases h
    | ok pattern =>
      rw [hpattern] at h
      exact ⟨FieldKind.isSearchable_iff.1 hkind, pattern, LikePattern.text_of_build hpattern,
        (Option.some.inj h).symm⟩
  · cases h

/-- The condition of one filter is a single comparison, and typed. -/
theorem typedLeaf_of_mem_leaves {c leaf : Condition} (hf : f ∈ filters)
    (h : f.condition? schema .standard engine = some c) (hleaf : leaf ∈ c.leaves) :
    Condition.TypedLeaf schema filters leaf := by
  obtain ⟨field, literal, hfield, hkey, hparse, hc⟩ := exists_of_condition? h
  have hliteral : LiteralOf field.kind literal := literalOf_of_parse? hparse
  cases hcomparison : f.comparison with
  | nothing =>
    rw [hcomparison] at hc
    cases hc
  | equals | notEquals | order _ =>
    rw [hcomparison] at hc
    obtain rfl := Option.some.inj hc
    obtain rfl := List.mem_singleton.1 hleaf
    exact .compared rfl hfield hliteral
  | search place =>
    rw [hcomparison] at hc
    obtain ⟨hkind, pattern, htext, rfl⟩ := eq_like_of_condition?_searchOutcome hc
    obtain rfl := List.mem_singleton.1 hleaf
    exact .searched hfield hkind hf hkey hcomparison htext

end Filter

/-- A typed comparison with a literal is left without an answer exactly by a missing value
or a NaN. -/
theorem Condition.TypedLeaf.compare?_eq_none_iff {schema : Schema ρ} {filters : List Filter}
    {leaf : Condition} (h : leaf.TypedLeaf schema filters) {name : String} {literal : Scalar}
    (htest : leaf.test? = some (name, literal)) {r : ρ} (hr : schema.Conforms r) :
    (schema.valueOf name r).bind (·.compare? literal) = none ↔
      schema.valueOf name r = none ∨
        ∃ v, schema.valueOf name r = some v ∧ (v.isNaN = true ∨ literal.isNaN = true) := by
  cases h with
  | searched => cases htest
  | @compared _ field _ htest' hfield hliteral =>
    obtain ⟨rfl, rfl⟩ := Prod.mk.inj (Option.some.inj (htest'.symm.trans htest))
    rw [schema.valueOf_of_mem hfield]
    cases hv : field.read r with
    | none => simp
    | some v =>
      have hadmits : field.kind.admits v = true := hr field hfield v hv
      simp [hliteral.compare?_eq_none_iff hadmits]

/-- **Compiled conditions are typed.** Every comparison in the condition of a list of
filters is with a field of the schema and a literal of the kind of that field, or a search
in a field of strings for the text of one of the filters. So on a record that holds what its
fields are declared to hold, a comparison with a literal is left without an answer exactly
if the value is missing or a NaN is compared. -/
theorem Filter.compileAll_typed (schema : Schema ρ) (engine : Regex.Engine)
    (policy : ConnectorPolicy) (filters : List Filter) {c : Condition}
    (h : (compileAll schema .standard engine policy filters).value = some c) :
    ∀ leaf ∈ c.leaves, leaf.TypedLeaf schema filters ∧
      ∀ name literal, leaf.test? = some (name, literal) → ∀ r, schema.Conforms r →
        ((schema.valueOf name r).bind (·.compare? literal) = none ↔
          schema.valueOf name r = none ∨
            ∃ v, schema.valueOf name r = some v ∧ (v.isNaN = true ∨ literal.isNaN = true)) := by
  intro leaf hleaf
  rw [value_compileAll] at h
  have hmem : leaf ∈ Condition.leavesOf (Condition.joinAll policy
      (filters.map fun f => (f.condition? schema .standard engine, f.connector))) := by
    rw [h]
    exact hleaf
  obtain ⟨p, hp, hleaf⟩ := Condition.exists_of_mem_leavesOf_joinAll hmem
  obtain ⟨f, hf, rfl⟩ := List.mem_map.1 hp
  have htyped : leaf.TypedLeaf schema filters := by
    cases hcondition : f.condition? schema .standard engine with
    | none =>
      rw [hcondition] at hleaf
      cases hleaf
    | some c =>
      rw [hcondition] at hleaf
      exact typedLeaf_of_mem_leaves hf hcondition hleaf
  exact ⟨htyped, fun name literal htest r hr => htyped.compare?_eq_none_iff htest hr⟩

/-- A comparison with a field of integers and a search in a field of strings. The first is left
without an answer by a record that holds a NaN. -/
theorem Filter.compileAll_typed_score :
    let schema : Schema FieldValue := ⟨[⟨"score", .int, id⟩,
      ⟨"name", .string, fun _ => some (.string "Ada")⟩], by simp, by simp, by simp⟩
    let filters : List Filter := [.of "score" (.order .gt) "3",
      ⟨some "name", some "a", .search .atStart, .and⟩]
    let engine := Regex.Engine.byRows fun _ => none
    let three : Scalar := .number (.int 3)
    let nan : FieldValue := some (.number (.float (.quietNaN false)))
    let score : Condition := .order "score" .gt three
    ∃ pattern : LikePattern, pattern.text = "a%" ∧
    let name : Condition := .like "name" .atStart pattern
    (compileAll schema .standard engine .conjoin filters).value = some (score.and name) ∧
    (score ∈ (score.and name).leaves ∧ score.TypedLeaf schema filters) ∧
    (name ∈ (score.and name).leaves ∧ name.TypedLeaf schema filters) ∧
    score.test? = some ("score", three) ∧ schema.Conforms nan ∧
    (schema.valueOf "score" nan).bind (·.compare? three) = none := by
  intro schema filters engine three nan score
  obtain ⟨pattern, hpattern⟩ : ∃ pattern, LikePattern.build engine "a%" = .ok pattern := ⟨_, rfl⟩
  refine ⟨pattern, LikePattern.text_of_build hpattern, ?_⟩
  intro name
  have hcompile : (compileAll schema .standard engine .conjoin filters).value =
      some (score.and name) := by
    obtain rfl := Except.ok.inj hpattern
    rfl
  have hscore : score ∈ (score.and name).leaves := List.mem_cons_self
  have hname : name ∈ (score.and name).leaves := List.mem_cons_of_mem _ List.mem_cons_self
  have hconforms : schema.Conforms nan := by
    simp [schema, nan, Schema.Conforms, FieldKind.admits]
  have htyped := compileAll_typed schema engine .conjoin filters hcompile
  have hanswer := (htyped score hscore).2 "score" three rfl nan hconforms
  exact ⟨hcompile, ⟨hscore, (htyped score hscore).1⟩, ⟨hname, (htyped name hname).1⟩, rfl,
    hconforms, hanswer.2 (.inr ⟨_, rfl, .inl rfl⟩)⟩

end PagedQuery
