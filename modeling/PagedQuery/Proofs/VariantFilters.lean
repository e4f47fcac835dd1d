import PagedQuery.Proofs.Chaining
import PagedQuery.Proofs.Padding

/-!
# Filters by the name of a variant

A field that holds variants of an enumeration is filtered by their names. The name that a
filter gives stands for the first variant with that name, up to white space around it and the
case of its ASCII letters, and the filter keeps the rows that hold this variant. A name that
no variant has keeps all rows. So a variant is found by its own name, unless the name is
hidden by an earlier variant or has white space around it.

## Main definitions

* `FirstNamed variants name i`: the first variant with a name is the one at position `i`.
* `ListView.Shows view rows`: the view shows the rows in their order.
-/

namespace PagedQuery

open Text

variable {ρ : Type}

/-! ## Names of variants -/

/-- The variant at position `i` has the name, up to the case of ASCII letters, and none before
it has. -/
structure FirstNamed (variants : List String) (name : List Char) (i : Nat) : Prop where
  named : ∃ v, variants[i]? = some v ∧ Recased v.toList name
  before : ∀ j < i, ∀ v, variants[j]? = some v → ¬ Recased v.toList name

theorem Recased.symm {s t : List Char} (h : Recased s t) : Recased t s :=
  recased_iff.2 (recased_iff.1 h).symm

theorem Recased.trans {s t u : List Char} (h : Recased s t) (h' : Recased t u) : Recased s u :=
  recased_iff.2 ((recased_iff.1 h).trans (recased_iff.1 h'))

/-- The first variant with a name is the first with that name in another case. -/
theorem FirstNamed.of_recased {variants : List String} {name name' : List Char} {i : Nat}
    (h : FirstNamed variants name i) (hname : Recased name name') :
    FirstNamed variants name' i := by
  obtain ⟨v, hv, hcase⟩ := h.named
  exact ⟨⟨v, hv, hcase.trans hname⟩,
    fun j hj u hu hcase' => h.before j hj u hu (hcase'.trans hname.symm)⟩

namespace Literal

variable {s : String} {variants : List String}

/-- A name is read as the first variant that has it. -/
theorem enum?_eq_some_iff {literal : Scalar} : enum? s (.enum variants) = some literal ↔
    ∃ i, FirstNamed variants (trim s.toList) i ∧ literal = .variant i := by
  have hfirst (i : Nat) :
      (variants.findIdx? fun v => equalsIgnoringCase v.toList (trim s.toList)) = some i ↔
        FirstNamed variants (trim s.toList) i := by
    simp only [List.findIdx?_eq_some_iff_getElem, equalsIgnoringCase_iff]
    constructor
    · rintro ⟨hi, hcase, hbefore⟩
      refine ⟨⟨_, List.getElem?_eq_getElem hi, hcase⟩, fun j hj v hv => ?_⟩
      obtain ⟨hlt, rfl⟩ := List.getElem?_eq_some_iff.1 hv
      exact hbefore j hj
    · rintro ⟨⟨v, hv, hcase⟩, hbefore⟩
      obtain ⟨hi, rfl⟩ := List.getElem?_eq_some_iff.1 hv
      exact ⟨hi, hcase, fun j hj => hbefore j hj _ (List.getElem?_eq_getElem _)⟩
  simp only [enum?, Option.map_eq_some_iff, hfirst]
  exact exists_congr fun i => and_congr_right fun _ => eq_comm

/-- A name that no variant has is not read. -/
theorem enum?_eq_none_iff : enum? s (.enum variants) = none ↔
    ∀ v ∈ variants, ¬ Recased v.toList (trim s.toList) := by
  simp only [enum?, Option.map_eq_none_iff, List.findIdx?_eq_none_iff, Bool.eq_false_iff, ne_eq,
    equalsIgnoringCase_iff]

end Literal

/-! ## What a filter leaves -/

namespace ListView

/-- Holds if counting the view and every window of it show the given rows in their order. -/
def Shows (view : ListView ρ) (rows : List ρ) : Prop :=
  view.count = rows.length ∧
    ∀ skip take, view.window skip take = some ((rows.drop skip).take take)

/-- One filter that lacks nothing leaves the rows that satisfy its condition, and all rows if
it has none. -/
theorem shows_narrow_one (pager : Pager) (sorter : Sorter ρ) (schema : Schema ρ)
    (records : List ρ) {f : Filter} (hf : f.Complete) :
    ∃ narrowed, pager.narrow (of sorter schema records) [f] = .ok narrowed ∧
      narrowed.value.Shows (records.filter fun r =>
        (f.condition? schema pager.parsers pager.engine).all (·.holds schema r)) := by
  let view := of sorter schema records
  let c? := f.condition? schema pager.parsers pager.engine
  have hview : (pager.narrowChecked view [f]).value = view.restrictBy? c? := by
    rw [value_narrowChecked, pager.conditionOf_singleton]
    rfl
  have hmatching : view.matching = records := List.filter_eq_self.2 fun _ _ => rfl
  have hkey : (view.restrictBy? c?).key = none := by
    rw [key_restrictBy?]
    rfl
  refine ⟨_, pager.narrow_of_complete _ (List.forall_mem_singleton.2 hf), ?_⟩
  rw [hview]
  constructor
  · rw [count, matching_restrictBy?, hmatching]
    rfl
  · intro skip take
    rw [window_of_shown _ (shown_eq_matching _ hkey), matching_restrictBy?, hmatching]
    rfl

end ListView

/-- The position of the variant that a value is, if it is one. -/
def Scalar.variant? : Scalar → Option Nat
  | variant i => some i
  | _ => none

/-- The rows whose field holds the variant at position `i`, in their order. -/
def Field.rowsOf (field : Field ρ) (i : Nat) (records : List ρ) : List ρ :=
  records.filter fun r => (field.read r).bind Scalar.variant? == some i

section

variable {schema : Schema ρ} {engine : Regex.Engine} {field : Field ρ} {variants : List String}
  {text : String}

/-- Equality with a variant holds of the records that hold this variant. A missing value and a
value that is no variant equal none. -/
theorem holds_equals_variant (hfield : field ∈ schema.fields) (i : Nat) (r : ρ) :
    (Condition.equals field.name (.variant i)).holds schema r =
      ((field.read r).bind Scalar.variant? == some i) := by
  rw [Condition.holds, schema.valueOf_of_mem hfield]
  cases field.read r with
  | none => rfl
  | some v =>
    cases v with
    | variant j =>
      simp only [Option.bind_some, Scalar.equals?, Scalar.compare?, Option.map_some,
        Scalar.variant?, Option.some_beq_some, beq_true]
      rw [Bool.eq_iff_iff, beq_iff_eq, beq_iff_eq, Nat.compare_eq_eq]
    | _ => rfl

/-- A filter by the name of a variant asks for equality with the first variant of that name. -/
theorem condition?_of_firstNamed (hfield : field ∈ schema.fields)
    (hkind : field.kind = .enum variants) {i : Nat}
    (hi : FirstNamed variants (trim text.toList) i) :
    (Filter.of field.name .equals text).condition? schema .standard engine =
      some (.equals field.name (.variant i)) := by
  have hread : ParserTable.standard.parse? text field.kind = some (.variant i) := by
    rw [hkind]
    exact Literal.enum?_eq_some_iff.2 ⟨i, hi, rfl⟩
  exact congrArg FilterOutcome.condition? (Filter.outcome_of_readable
    (f := .of field.name .equals text) hfield rfl hread)

/-- A filter by a name that no variant has asks for nothing. -/
theorem condition?_of_unnamed (hfield : field ∈ schema.fields)
    (hkind : field.kind = .enum variants)
    (hnone : ∀ v ∈ variants, ¬ Recased v.toList (trim text.toList)) :
    (Filter.of field.name .equals text).condition? schema .standard engine = none := by
  have hread : ParserTable.standard.parse? text field.kind = none := by
    rw [hkind]
    exact Literal.enum?_eq_none_iff.2 hnone
  exact congrArg FilterOutcome.condition? (Filter.outcome_of_unreadable
    (f := .of field.name .equals text) hfield rfl hread)

end

namespace Schema

variable (engine : Regex.Engine) (sorter : Sorter ρ) (schema : Schema ρ) (records : List ρ)
  {field : Field ρ} {variants : List String}

/-- **Filters by name select variants.** In a field of an enumeration, the filter by a text
that is not empty keeps the rows that hold the first variant whose name is the text, up to
white space around it and the case of ASCII letters; it keeps all rows if there is no such
variant. So the name of a variant, in any case and with any white space around it, selects
the rows of this variant, unless the name is empty, has white space at an end, or is the name
of an earlier variant too. -/
theorem keepEqual_by_variant_name (hfield : field ∈ schema.fields)
    (hkind : field.kind = .enum variants) :
    (∀ text : String, text ≠ "" →
      ∃ kept, keepEqual engine (ListView.of sorter schema records) field.name text = .ok kept ∧
        (∀ i, FirstNamed variants (trim text.toList) i →
          kept.value.Shows (field.rowsOf i records)) ∧
        ((∀ v ∈ variants, ¬ Recased v.toList (trim text.toList)) → kept.value.Shows records)) ∧
    ∀ (i : Nat) (name : String), variants[i]? = some name → name ≠ "" →
      trim name.toList = name.toList →
      (∀ j < i, ∀ v, variants[j]? = some v → ¬ Recased v.toList name.toList) →
      ∀ (text : String) (cs : List Char), Recased name.toList cs → Padded cs text.toList →
        ∃ kept, keepEqual engine (ListView.of sorter schema records) field.name text = .ok kept ∧
          kept.value.Shows (field.rowsOf i records) := by
  have hselect (text : String) (htext : text ≠ "") :
      ∃ kept, keepEqual engine (ListView.of sorter schema records) field.name text = .ok kept ∧
        (∀ i, FirstNamed variants (trim text.toList) i →
          kept.value.Shows (field.rowsOf i records)) ∧
        ((∀ v ∈ variants, ¬ Recased v.toList (trim text.toList)) → kept.value.Shows records) := by
    have hcomplete : (Filter.of field.name .equals text).Complete := by
      have hname : field.name ≠ "" := schema.name_ne_empty field hfield
      simp [Filter.of, Filter.Complete, Blank, hname, htext]
    obtain ⟨kept, hkept, hshows⟩ :=
      ListView.shows_narrow_one (.standard engine) sorter schema records hcomplete
    refine ⟨kept, hkept, fun i hi => ?_, fun hnone => ?_⟩
    · have hcondition :
          (Filter.of field.name .equals text).condition? schema .standard engine =
            some (.equals field.name (.variant i)) := condition?_of_firstNamed hfield hkind hi
      simpa only [Pager.standard, hcondition, Option.all_some, holds_equals_variant hfield,
        Field.rowsOf] using hshows
    · have hcondition :
          (Filter.of field.name .equals text).condition? schema .standard engine = none :=
        condition?_of_unnamed hfield hkind hnone
      simpa only [Pager.standard, hcondition, Option.all_none, List.filter_true] using hshows
  refine ⟨hselect, fun i name hi hne htrim hbefore text cs hcase hpadded => ?_⟩
  have hname : Recased name.toList (trim text.toList) := by
    rw [hpadded.trim_eq, ← htrim]
    exact hcase.trim
  have hfirst : FirstNamed variants name.toList i := ⟨⟨name, hi, recased_iff.2 rfl⟩, hbefore⟩
  have htext : text ≠ "" := by
    rintro rfl
    have hnil : name.toList = [] := List.forall₂_nil_right_iff.1 hname
    exact hne (String.toList_eq_nil_iff.1 hnil)
  obtain ⟨kept, hkept, hshows, -⟩ := hselect text htext
  exact ⟨kept, hkept, hshows i (hfirst.of_recased hname)⟩

/-- The third name is hidden by the first, and letters beyond ASCII have one case. A name that
no variant has keeps the missing value too. -/
theorem keepEqual_by_variant_name_hidden :
    let variants := ["Öl", "öl", "ÖL"]
    let schema : Schema FieldValue := ⟨[⟨"fuel", .enum variants, id⟩], by simp, by simp, by simp⟩
    let rows : List FieldValue := [some (.variant 1), none, some (.variant 0), some (.variant 2)]
    let engine : Regex.Engine := .byRows fun _ => none
    variants[0]? = some "Öl" ∧ trim "Öl".toList = "Öl".toList ∧
    Recased "Öl".toList "ÖL".toList ∧ Padded "ÖL".toList " ÖL\u3000".toList ∧
    (∃ kept, keepEqual engine (ListView.of .merge schema rows) "fuel" " ÖL\u3000" = .ok kept ∧
      kept.value.window 0 4 = some [some (.variant 0)]) ∧
    (∀ v ∈ variants, ¬ Recased v.toList (trim "gas".toList)) ∧
    ∃ kept, keepEqual engine (ListView.of .merge schema rows) "fuel" "gas" = .ok kept ∧
      kept.value.window 0 4 = some rows := by
  intro variants schema rows engine
  have hcase : Recased "Öl".toList "ÖL".toList := recased_iff.2 (by decide)
  have hpadded : Padded "ÖL".toList " ÖL\u3000".toList :=
    ⟨[' '], ['\u3000'], by decide, by decide, rfl⟩
  have htrim : trim "Öl".toList = "Öl".toList := by decide
  have hnone : ∀ v ∈ variants, ¬ Recased v.toList (trim "gas".toList) := by
    simp only [recased_iff]
    decide
  obtain ⟨htext, hname⟩ :=
    keepEqual_by_variant_name engine .merge schema rows (List.mem_singleton_self _) rfl
  obtain ⟨first, hfirst, hrows⟩ := hname 0 "Öl" rfl (by decide) htrim
    (fun j hj => absurd hj j.not_lt_zero) _ _ hcase hpadded
  obtain ⟨all, hall, -, hshows⟩ := htext "gas" (by decide)
  exact ⟨rfl, htrim, hcase, hpadded, ⟨first, hfirst, hrows.2 0 4⟩, hnone, all, hall,
    (hshows hnone).2 0 4⟩

end Schema

end PagedQuery
