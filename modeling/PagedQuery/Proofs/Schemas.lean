import Mathlib.Data.List.Nodup
import PagedQuery.Record.Schema

/-!
# Building schemas

A schema is built from a list of fields exactly if the list is sound, and then it holds these
fields and no others. Otherwise the first field that makes the list unsound is reported, and
of its mistakes the one that is checked first.

A name is taken once, so a field is found by its name wherever it stands. The same check, made
while the positions of the fields are entered under their names, reports the same mistakes, and
the index that it leaves finds the same fields.

## Main definitions

* `Sound fields`: what a list of fields has to satisfy.
* `Mistake before f e`: what is wrong with a field after the fields `before`.
* `FirstMistake fields e`: what is wrong with the first field that has a mistake.
* `indexFrom`: the check that enters positions under names; `Indexes index fields`: what it
  leaves.
* `Gives schema fields`: how a schema answers for the fields it was built from.
-/

namespace PagedQuery

namespace Schema

variable {ρ : Type}

/-! ## Looking up fields -/

section

variable {schema : Schema ρ} {name : String}

theorem name_of_find? {f : Field ρ} (h : schema.find? name = some f) : f.name = name := by
  simpa using List.find?_some h

theorem find?_eq_none_iff : schema.find? name = none ↔ ∀ f ∈ schema.fields, f.name ≠ name := by
  simp [find?]

/-- A name is taken once, so a field is found by its own. -/
theorem find?_eq_some_iff {f : Field ρ} :
    schema.find? name = some f ↔ f ∈ schema.fields ∧ f.name = name := by
  constructor
  · intro h
    exact ⟨List.mem_of_find?_eq_some h, name_of_find? h⟩
  · rintro ⟨hf, rfl⟩
    cases hfind : schema.find? f.name with
    | none => exact absurd rfl (find?_eq_none_iff.1 hfind f hf)
    | some g =>
      have hg : g ∈ schema.fields := List.mem_of_find?_eq_some hfind
      rw [List.inj_on_of_nodup_map schema.nodup_names hg hf (name_of_find? hfind)]

/-- No field has the empty name, so the check for it changes nothing. -/
theorem lookup?_some (schema : Schema ρ) (name : String) :
    schema.lookup? (some name) = schema.find? name := by
  by_cases h : name = ""
  · subst h
    exact (find?_eq_none_iff.2 schema.name_ne_empty).symm
  · exact if_neg h

/-- The key of a request names a field, or else there is no field for it. -/
theorem lookup?_eq_some_iff {key? : Option String} {f : Field ρ} :
    schema.lookup? key? = some f ↔ f ∈ schema.fields ∧ key? = some f.name := by
  cases key? with
  | none => simp [lookup?]
  | some key => rw [lookup?_some, find?_eq_some_iff, Option.some_inj, eq_comm]

theorem lookup?_eq_none_iff {key? : Option String} :
    schema.lookup? key? = none ↔ ∀ f ∈ schema.fields, key? ≠ some f.name := by
  rw [Option.eq_none_iff_forall_ne_some]
  simp only [ne_eq, lookup?_eq_some_iff, not_and]

/-- What a record holds under the name of a field is what the field reads from it. -/
theorem valueOf_of_mem (schema : Schema ρ) {field : Field ρ} (h : field ∈ schema.fields)
    (r : ρ) : schema.valueOf field.name r = field.read r := by
  rw [valueOf, find?_eq_some_iff.2 ⟨h, rfl⟩]
  rfl

end

/-! ## Sound lists of fields -/

/-- Holds of the lists of fields with names that are neither empty nor repeated, and with
variants for every enumeration. -/
structure Sound (fields : List (Field ρ)) : Prop where
  name_ne_empty : ∀ f ∈ fields, f.name ≠ ""
  kind_ne_empty : ∀ f ∈ fields, f.kind ≠ .enum []
  nodup_names : (fields.map (·.name)).Nodup

/-- What is wrong with a field after the fields `before`. Each constructor asks that the checks
before its own have been passed. -/
inductive Mistake (before : List (Field ρ)) (f : Field ρ) : SchemaError → Prop
  | emptyName (h : f.name = "") : Mistake before f .emptyName
  | noVariants (hname : f.name ≠ "") (h : f.kind = .enum []) :
      Mistake before f (.noVariants f.name)
  | repeatedName (hname : f.name ≠ "") (hkind : f.kind ≠ .enum [])
      (h : ∃ g ∈ before, g.name = f.name) : Mistake before f (.repeatedName f.name)

/-- What is wrong with the first field that has a mistake: the fields before it are sound. -/
def FirstMistake (fields : List (Field ρ)) (e : SchemaError) : Prop :=
  ∃ before f after, fields = before ++ f :: after ∧ Sound before ∧ Mistake before f e

section

variable {names : List String} {fields before : List (Field ρ)} {f : Field ρ} {e : SchemaError}

theorem sound_iff : Sound fields ↔ firstError? [] fields = none := by
  rw [firstError?_eq_none_iff]
  constructor
  · rintro ⟨hname, hkind, hnodup⟩
    exact ⟨hname, hkind, hnodup, fun _ _ => List.not_mem_nil⟩
  · rintro ⟨hname, hkind, hnodup, -⟩
    exact ⟨hname, hkind, hnodup⟩

/-- The check of one field looks at no more of the fields before it than their names. -/
theorem fieldError?_eq_some_iff (hnames : ∀ name, name ∈ names ↔ ∃ g ∈ before, g.name = name) :
    fieldError? names f = some e ↔ Mistake before f e := by
  constructor
  · intro h
    unfold fieldError? at h
    split at h
    · next hname =>
      obtain rfl := Option.some.inj h
      exact .emptyName hname
    · next hname =>
      split at h
      · next hkind =>
        obtain rfl := Option.some.inj h
        exact .noVariants hname hkind
      · next hkind =>
        split at h
        · next htaken =>
          obtain rfl := Option.some.inj h
          exact .repeatedName hname hkind ((hnames f.name).1 htaken)
        · cases h
  · rintro (hempty | ⟨hname, hempty⟩ | ⟨hname, hkind, htaken⟩)
    · simp [fieldError?, hempty]
    · simp [fieldError?, hname, hempty]
    · simp [fieldError?, hname, hkind, (hnames f.name).2 htaken]

/-- The check of a list stops at the first mistake. -/
theorem firstError?_eq_some_iff :
    firstError? names fields = some e ↔
      ∃ before f after, fields = before ++ f :: after ∧ firstError? names before = none ∧
        fieldError? ((before.map (·.name)).reverse ++ names) f = some e := by
  induction fields generalizing names with
  | nil => simp [firstError?]
  | cons g fields ih =>
    rw [firstError?, Option.or_eq_some_iff, ih]
    constructor
    · rintro (hg | ⟨hg, before, f, after, rfl, hbefore, hf⟩)
      · exact ⟨[], g, fields, rfl, rfl, hg⟩
      · refine ⟨g :: before, f, after, rfl, ?_, by simpa using hf⟩
        rw [firstError?, hg, hbefore]
        rfl
    · rintro ⟨before, f, after, hsplit, hbefore, hf⟩
      cases before with
      | nil =>
        obtain ⟨rfl, rfl⟩ := List.cons.inj hsplit
        exact .inl hf
      | cons g' before =>
        obtain ⟨rfl, rfl⟩ := List.cons.inj hsplit
        obtain ⟨hg, hbefore⟩ := Option.or_eq_none_iff.1 hbefore
        exact .inr ⟨hg, before, f, after, rfl, hbefore, by simpa using hf⟩

theorem firstError?_eq_some_iff_firstMistake :
    firstError? [] fields = some e ↔ FirstMistake fields e := by
  rw [firstError?_eq_some_iff]
  refine exists_congr fun before => exists_congr fun f => exists_congr fun after => ?_
  have hnames (name : String) :
      name ∈ (before.map (·.name)).reverse ++ [] ↔ ∃ g ∈ before, g.name = name := by simp
  rw [← sound_iff, fieldError?_eq_some_iff hnames]

/-! ## Building -/

theorem ofFields_eq_error_iff : ofFields fields = .error e ↔ FirstMistake fields e := by
  rw [← firstError?_eq_some_iff_firstMistake]
  unfold ofFields
  split
  · next e' he' => rw [he', Except.error.injEq, Option.some_inj]
  · next hnone => simp [hnone]

theorem exists_ofFields_eq_ok_iff : (∃ schema, ofFields fields = .ok schema) ↔ Sound fields := by
  rw [sound_iff]
  unfold ofFields
  split
  · next e he => simp [he]
  · next hnone => simp [hnone]

/-- A schema holds the fields that it was built from, in their order. -/
theorem fields_of_ofFields {schema : Schema ρ} (h : ofFields fields = .ok schema) :
    schema.fields = fields := by
  unfold ofFields at h
  split at h
  · cases h
  · obtain rfl := Except.ok.inj h
    rfl

end

/-! ## An index of positions -/

/-- Checks the fields from position `i` on and enters the position of each under its name. A name
that has been entered before is a mistake. -/
def indexFrom (index : Std.HashMap String Nat) (i : Nat) :
    List (Field ρ) → Except SchemaError (Std.HashMap String Nat)
  | [] => .ok index
  | f :: fs =>
    if f.name = "" then .error .emptyName
    else if f.kind = .enum [] then .error (.noVariants f.name)
    else if f.name ∈ index then .error (.repeatedName f.name)
    else indexFrom (index.insert f.name i) (i + 1) fs

/-- The index has exactly the names of the fields, each with the position of its field. -/
def Indexes (index : Std.HashMap String Nat) (fields : List (Field ρ)) : Prop :=
  ∀ name i, index[name]? = some i ↔ ∃ f : Field ρ, fields[i]? = some f ∧ f.name = name

section

variable {index : Std.HashMap String Nat} {done fields : List (Field ρ)} {f : Field ρ}
  {names : List String}

theorem indexes_nil : Indexes ∅ ([] : List (Field ρ)) := by
  intro name i
  simp

theorem Indexes.mem_iff (h : Indexes index done) {name : String} :
    name ∈ index ↔ ∃ g ∈ done, g.name = name := by
  rw [Std.HashMap.mem_iff_isSome_getElem?, Option.isSome_iff_exists]
  constructor
  · rintro ⟨i, hi⟩
    obtain ⟨g, hg, hname⟩ := (h name i).1 hi
    exact ⟨g, List.mem_of_getElem? hg, hname⟩
  · rintro ⟨g, hg, hname⟩
    obtain ⟨i, hi⟩ := List.mem_iff_getElem?.1 hg
    exact ⟨i, (h name i).2 ⟨g, hi, hname⟩⟩

/-- Entering one field more keeps the index right, as long as its name is new. -/
theorem Indexes.insert (h : Indexes index done) (hnew : ∀ g ∈ done, g.name ≠ f.name) :
    Indexes (index.insert f.name done.length) (done ++ [f]) := by
  have hlast {i : Nat} {g : Field ρ} :
      (done ++ [f])[i]? = some g ↔ done[i]? = some g ∨ i = done.length ∧ f = g := by
    grind
  intro name i
  simp only [Std.HashMap.getElem?_insert, beq_iff_eq, hlast]
  by_cases hname : f.name = name
  · rw [if_pos hname, Option.some_inj]
    constructor
    · rintro rfl
      exact ⟨f, .inr ⟨rfl, rfl⟩, hname⟩
    · rintro ⟨g, hg | ⟨rfl, -⟩, hname'⟩
      · exact absurd (hname'.trans hname.symm) (hnew g (List.mem_of_getElem? hg))
      · rfl
  · rw [if_neg hname, h name i]
    constructor
    · rintro ⟨g, hg, hname'⟩
      exact ⟨g, .inl hg, hname'⟩
    · rintro ⟨g, hg | ⟨-, rfl⟩, hname'⟩
      · exact ⟨g, hg, hname'⟩
      · exact absurd hname' hname

/-- The check of one field finds the same mistake, whether the names before it are listed or
entered in an index. -/
theorem indexFrom_cons (hnames : ∀ name, name ∈ index ↔ name ∈ names) (i : Nat) :
    indexFrom index i (f :: fields) =
      match fieldError? names f with
      | some e => .error e
      | none => indexFrom (index.insert f.name i) (i + 1) fields := by
  simp only [indexFrom, fieldError?, hnames]
  split
  · rfl
  · split
    · rfl
    · split <;> rfl

/-- With an index of the fields that have been checked, the check goes on to the same mistake,
or to an index of all fields. -/
theorem indexFrom_of_indexes (h : Indexes index done)
    (hnames : ∀ name, name ∈ index ↔ name ∈ names) :
    (∀ e, firstError? names fields = some e → indexFrom index done.length fields = .error e) ∧
    (firstError? names fields = none →
      ∃ whole, indexFrom index done.length fields = .ok whole ∧
        Indexes whole (done ++ fields)) := by
  induction fields generalizing index done names with
  | nil =>
    constructor
    · intro e he
      cases he
    · intro _
      exact ⟨index, rfl, by simpa using h⟩
  | cons f fields ih =>
    rw [indexFrom_cons hnames, firstError?]
    cases hf : fieldError? names f with
    | some e =>
      constructor
      · intro e' he'
        exact congrArg Except.error (Option.some.inj he')
      · intro hnone
        cases hnone
    | none =>
      have hnew : ∀ g ∈ done, g.name ≠ f.name := by
        intro g hg hname
        have hmem := (hnames f.name).1 (h.mem_iff.2 ⟨g, hg, hname⟩)
        exact (fieldError?_eq_none_iff.1 hf).2.2 hmem
      have hnames' (name : String) :
          name ∈ index.insert f.name done.length ↔ name ∈ f.name :: names := by
        rw [Std.HashMap.mem_insert, hnames, List.mem_cons, beq_iff_eq, eq_comm]
      have hrest := ih (h.insert hnew) hnames'
      rw [List.length_append, List.append_assoc] at hrest
      exact hrest

/-- Where an index has its position, a field is found. -/
theorem Indexes.find?_eq {schema : Schema ρ} (h : Indexes index schema.fields) (name : String) :
    schema.find? name = index[name]?.bind fun i => schema.fields[i]? := by
  ext f
  rw [find?_eq_some_iff, Option.bind_eq_some_iff]
  constructor
  · rintro ⟨hf, hname⟩
    obtain ⟨i, hi⟩ := List.mem_iff_getElem?.1 hf
    exact ⟨i, (h name i).2 ⟨f, hi, hname⟩, hi⟩
  · rintro ⟨i, hindex, hi⟩
    obtain ⟨g, hg, hname⟩ := (h name i).1 hindex
    obtain rfl := Option.some.inj (hi.symm.trans hg)
    exact ⟨List.mem_of_getElem? hi, hname⟩

theorem indexFrom_empty (fields : List (Field ρ)) :
    (∀ e, firstError? [] fields = some e → indexFrom ∅ 0 fields = .error e) ∧
    (firstError? [] fields = none →
      ∃ whole, indexFrom ∅ 0 fields = .ok whole ∧ Indexes whole fields) :=
  indexFrom_of_indexes indexes_nil (by simp)

theorem indexFrom_eq_error_iff {e : SchemaError} :
    indexFrom ∅ 0 fields = .error e ↔ FirstMistake fields e := by
  rw [← firstError?_eq_some_iff_firstMistake]
  obtain ⟨herror, hok⟩ := indexFrom_empty fields
  refine ⟨fun h => ?_, herror e⟩
  cases hfirst : firstError? [] fields with
  | some e' => exact congrArg some (Except.error.inj ((herror e' hfirst).symm.trans h))
  | none =>
    obtain ⟨whole, hwhole, -⟩ := hok hfirst
    cases hwhole.symm.trans h

end

/-! ## What a schema answers -/

/-- How a schema answers for the fields that it was built from. -/
structure Gives (schema : Schema ρ) (fields : List (Field ρ)) : Prop where
  fields_eq : schema.fields = fields
  /-- No two fields answer to one name. -/
  position_unique : ∀ (i j : Nat) (f g : Field ρ), fields[i]? = some f → fields[j]? = some g →
    f.name = g.name → i = j
  find?_some : ∀ (name : String) (f : Field ρ),
    schema.find? name = some f ↔ f ∈ fields ∧ f.name = name
  find?_none : ∀ name, schema.find? name = none ↔ ∀ f ∈ fields, f.name ≠ name
  indexed : ∃ index, indexFrom ∅ 0 fields = .ok index ∧
    ∀ name, schema.find? name = index[name]?.bind fun i => fields[i]?
  lookup?_absent : schema.lookup? none = none
  lookup?_empty : schema.lookup? (some "") = none
  lookup?_name : ∀ name, name ≠ "" → schema.lookup? (some name) = schema.find? name
  valueOf_field : ∀ f ∈ fields, ∀ r, schema.valueOf f.name r = f.read r
  valueOf_unknown : ∀ name, (∀ f ∈ fields, f.name ≠ name) → ∀ r, schema.valueOf name r = none

theorem gives_fields (schema : Schema ρ) : schema.Gives schema.fields where
  fields_eq := rfl
  position_unique := by
    intro i j f g hi hj hname
    have hi' : (schema.fields.map (·.name))[i]? = some f.name := by simp [hi]
    have hj' : (schema.fields.map (·.name))[j]? = some g.name := by simp [hj]
    have hlt := (List.getElem?_eq_some_iff.1 hi').1
    exact (List.getElem?_inj hlt schema.nodup_names).1 (by rw [hi', hj', hname])
  find?_some _ _ := find?_eq_some_iff
  find?_none _ := find?_eq_none_iff
  indexed := by
    have hsound : Sound schema.fields :=
      ⟨schema.name_ne_empty, schema.kind_ne_empty, schema.nodup_names⟩
    obtain ⟨whole, hwhole, hindexes⟩ := (indexFrom_empty schema.fields).2 (sound_iff.1 hsound)
    exact ⟨whole, hwhole, hindexes.find?_eq⟩
  lookup?_absent := rfl
  lookup?_empty := rfl
  lookup?_name name _ := schema.lookup?_some name
  valueOf_field _ hf r := schema.valueOf_of_mem hf r
  valueOf_unknown _ h _ := by rw [valueOf, find?_eq_none_iff.2 h]; rfl

/-- **A schema is built exactly from a sound list of fields, and answers for each of them.** A
list that is not sound is refused for the mistake of the first field that has one, and of
several mistakes of this field for the one that is checked first. The check that enters
positions in an index refuses the same lists for the same mistakes, and its index finds the
same fields. -/
theorem ofFields_builds (fields : List (Field ρ)) :
    ((∃ schema, ofFields fields = .ok schema) ↔ Sound fields) ∧
    (∀ schema, ofFields fields = .ok schema → schema.Gives fields) ∧
    ∀ e, (ofFields fields = .error e ↔ FirstMistake fields e) ∧
      (indexFrom ∅ 0 fields = .error e ↔ FirstMistake fields e) := by
  refine ⟨exists_ofFields_eq_ok_iff, fun schema h => ?_,
    fun e => ⟨ofFields_eq_error_iff, indexFrom_eq_error_iff⟩⟩
  have hgives := schema.gives_fields
  rwa [fields_of_ofFields h] at hgives

/-- Two names that differ in case are two names. A field that has every mistake is refused for
its empty name, and one without variants for these before its name. -/
theorem ofFields_builds_ages :
    let fields : List (Field (FieldValue × FieldValue)) :=
      [⟨"age", .uint, Prod.fst⟩, ⟨"Age", .enum ["young", "old"], Prod.snd⟩]
    let more : List (Field (FieldValue × FieldValue)) := [⟨"age", .int, Prod.fst⟩]
    (∃ schema, ofFields fields = .ok schema ∧ schema.Gives fields ∧
      schema.valueOf "Age" (none, some (.variant 1)) = some (.variant 1)) ∧
    ofFields (fields ++ more) = .error (.repeatedName "age") ∧
    ofFields (fields ++ ⟨"age", .enum [], Prod.fst⟩ :: more) = .error (.noVariants "age") ∧
    ofFields (fields ++ ⟨"", .enum [], Prod.fst⟩ :: more) = .error .emptyName := by
  intro fields more
  have hsound : Sound fields :=
    ⟨by simp [fields], by simp [fields], by simp [fields]⟩
  obtain ⟨hbuilt, hgives, -⟩ := ofFields_builds fields
  obtain ⟨schema, hschema⟩ := hbuilt.2 hsound
  have hage := (hgives schema hschema).valueOf_field _ (List.mem_cons_of_mem _ List.mem_cons_self)
    (none, some (.variant 1))
  have hmistake {f : Field (FieldValue × FieldValue)} {rest : List _} {e : SchemaError}
      (h : Mistake fields f e) : ofFields (fields ++ f :: rest) = .error e :=
    ((ofFields_builds (fields ++ f :: rest)).2.2 e).1.2 ⟨fields, f, rest, rfl, hsound, h⟩
  refine ⟨⟨schema, hschema, hgives schema hschema, hage⟩, hmistake ?_, hmistake ?_, hmistake ?_⟩
  · exact .repeatedName (by decide) (by decide) ⟨_, List.mem_cons_self, rfl⟩
  · exact .noVariants (by decide) rfl
  · exact .emptyName rfl

end Schema

end PagedQuery
