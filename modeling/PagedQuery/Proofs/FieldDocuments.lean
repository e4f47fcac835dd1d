import Mathlib.Logic.Relation
import PagedQuery.Proofs.RoundTrips

/-!
# What structures depend on in their documents

A structure is read from its fields alone. The order of the members does not matter, nor do
members that are no field, where these are ignored; a field that is left out is as good as its
default; and an array of the fields in the order of their declaration says the same as the
object. The same holds of a structure inside a field. A field that is repeated is an error
wherever it stands.

## Main definitions

* `FieldLayout`, `Layout`: the fields of a structure, with what may vary in their documents.
* `Layout.Same layout j j'`: the documents differ only in what does not matter.
* `Layout.Repeats layout j`: the document gives a field twice.
* `Layout.Decides layout α`: texts are read as values of `α` by the fields of the layout alone.
-/

namespace PagedQuery

namespace Json

/-! ## Members -/

section

variable {members members' : List (Option String × Json)} {name : String}

theorem uniqueMember?_perm (h : members.Perm members') (name : String) :
    uniqueMember? members name = uniqueMember? members' name := by
  have hfilter := h.filter fun m => m.1 == some name
  unfold uniqueMember?
  generalize members.filter (fun m => m.1 == some name) = found at hfilter ⊢
  generalize members'.filter (fun m => m.1 == some name) = found' at hfilter ⊢
  match found, found', hfilter with
  | [], found', hfilter => rw [hfilter.nil_eq]
  | [m], found', hfilter => rw [List.singleton_perm.1 hfilter]
  | _ :: _ :: _, [], hfilter => cases hfilter.eq_nil
  | _ :: _ :: _, [_], hfilter => cases hfilter.length_eq
  | _ :: _ :: _, _ :: _ :: _, _ => rfl

/-- A member of another name does not count. -/
theorem uniqueMember?_cons_of_ne {m : Option String × Json} (h : m.1 ≠ some name) :
    uniqueMember? (m :: members) name = uniqueMember? members name := by
  rw [uniqueMember?, uniqueMember?, List.filter_cons_of_neg (by simpa using h)]

/-- Whether a member is the only one of its name is not a matter of its document. -/
theorem uniqueMember?_cons (name : String) (members : List (Option String × Json)) :
    (∀ value, uniqueMember? ((some name, value) :: members) name = some (some value)) ∨
    ∀ value, uniqueMember? ((some name, value) :: members) name = none := by
  have hfilter (value : Json) :
      ((some name, value) :: members).filter (fun m => m.1 == some name) =
        (some name, value) :: members.filter fun m => m.1 == some name :=
    List.filter_cons_of_pos (by simp)
  simp only [uniqueMember?, hfilter]
  cases members.filter fun m => m.1 == some name with
  | nil => exact .inl fun _ => rfl
  | cons => exact .inr fun _ => rfl

/-- A member is the only one of its name if the others have other names. -/
theorem uniqueMember?_cons_of_absent (h : ∀ m ∈ members, m.1 ≠ some name) (value : Json) :
    uniqueMember? ((some name, value) :: members) name = some (some value) := by
  rw [uniqueMember?, List.filter_cons_of_pos (by simp), filter_eq_nil_of_absent h]

theorem uniqueMember?_of_repeated (h : 2 ≤ members.countP fun m => m.1 == some name) :
    uniqueMember? members name = none := by
  rw [List.countP_eq_length_filter] at h
  rw [uniqueMember?]
  split
  · next heq =>
    rw [heq] at h
    cases h
  · next heq =>
    rw [heq] at h
    simp at h
  · rfl

/-- A member that is there is found, unless its name is repeated. -/
theorem eq_of_uniqueMember? {value : Json} {field? : Option Json}
    (hmem : (some name, value) ∈ members) (h : uniqueMember? members name = some field?) :
    field? = some value := by
  have hfilter : (some name, value) ∈ members.filter fun m => m.1 == some name :=
    List.mem_filter.2 ⟨hmem, by simp⟩
  rw [uniqueMember?] at h
  split at h
  · next heq =>
    rw [heq] at hfilter
    cases hfilter
  · next heq =>
    rw [heq, List.mem_singleton] at hfilter
    cases hfilter
    exact (Option.some.inj h).symm
  · cases h

end

/-! ## Layouts -/

/-- A field of a structure, and what may vary in its documents. -/
structure FieldLayout where
  name : String
  /-- The documents of its default, if it may be left out. -/
  defaults : List Json
  /-- Holds of documents that say the same. -/
  Alike : Json → Json → Prop
  /-- Holds of documents that give some field twice. -/
  Repeats : Json → Prop

/-- A field that is no structure and holds none. -/
def FieldLayout.plain (name : String) (defaults : List Json) : FieldLayout where
  name := name
  defaults := defaults
  Alike _ _ := False
  Repeats _ := False

/-- The fields of a structure in the order of their declaration. -/
structure Layout where
  fields : List FieldLayout
  /-- What about members that are no field. -/
  unknown : UnknownMembers
  distinct : (fields.map FieldLayout.name).Nodup

namespace Layout

variable (layout : Layout)

/-- The names of the fields. -/
def names : List String := layout.fields.map FieldLayout.name

theorem nodup_names : layout.names.Nodup := layout.distinct

/-- The documents of the fields. -/
def fieldsOf? (j : Json) : Option (List (Option Json)) :=
  Json.fieldsOf? layout.unknown layout.names j

/-- One difference between documents that does not matter. -/
inductive Step : Json → Json → Prop
  /-- The members are in another order. -/
  | reorder {members members' : List (Option String × Json)} (h : members.Perm members') :
    Step (.object members) (.object members')
  /-- There is one more member that is no field. -/
  | more {members : List (Option String × Json)} {name : String} (value : Json)
    (hignored : layout.unknown = .ignored) (hname : name ∉ layout.names) :
    Step (.object members) (.object ((some name, value) :: members))
  /-- A field that was left out is given its default. -/
  | default {members : List (Option String × Json)} {field : FieldLayout} {value : Json}
    (hfield : field ∈ layout.fields) (hvalue : value ∈ field.defaults)
    (habsent : ∀ m ∈ members, m.1 ≠ some field.name) :
    Step (.object members) (.object ((some field.name, value) :: members))
  /-- A field has another document that says the same. -/
  | inside {members : List (Option String × Json)} {field : FieldLayout} {value value' : Json}
    (hfield : field ∈ layout.fields) (h : field.Alike value value') :
    Step (.object ((some field.name, value) :: members))
      (.object ((some field.name, value') :: members))
  /-- The fields have their names, in place of their positions. -/
  | named {elements : List Json} (h : elements.length ≤ layout.names.length) :
    Step (.array elements) (record (layout.names.zip elements))

/-- The documents differ only in what does not matter. -/
def Same : Json → Json → Prop := Relation.EqvGen layout.Step

/-- The document gives a field twice, or does so inside a field. -/
inductive Repeats : Json → Prop
  | here {members : List (Option String × Json)} {field : FieldLayout}
    (hfield : field ∈ layout.fields)
    (h : 2 ≤ members.countP fun m => m.1 == some field.name) : Repeats (.object members)
  | member {members : List (Option String × Json)} {field : FieldLayout} {value : Json}
    (hfield : field ∈ layout.fields) (hmem : (some field.name, value) ∈ members)
    (h : field.Repeats value) : Repeats (.object members)
  | element {elements : List Json} {field : FieldLayout} {value : Json}
    (hmem : (field, value) ∈ layout.fields.zip elements) (h : field.Repeats value) :
    Repeats (.array elements)

/-- Texts are read as values of the type by the fields of the layout alone. -/
structure Decides (α : Type) [Wire α] : Prop where
  /-- What does not matter makes no difference. -/
  same {s s' : String} {j j' : Json} (hs : read? s = some j) (hs' : read? s' = some j')
    (h : layout.Same j j') : (Wire.decode? s : Option α) = Wire.decode? s'
  /-- So a text that says the same as that of a value is read as the value. -/
  written {s : String} {j j' : Json} {a : α} (hs : read? s = some j)
    (ha : read? (Wire.encode a) = some j') (h : layout.Same j j') : Wire.decode? s = some a
  /-- A text that gives a field twice is refused. -/
  repeated {s : String} {j : Json} (hs : read? s = some j) (h : layout.Repeats j) :
    (Wire.decode? s : Option α) = none
  /-- A text that gives what is no field is refused, unless these are ignored. -/
  refused {s : String} {members : List (Option String × Json)} {name : String} {value : Json}
    (hs : read? s = some (.object members)) (hunknown : layout.unknown = .refused)
    (hmem : (some name, value) ∈ members) (hname : name ∉ layout.names) :
    (Wire.decode? s : Option α) = none

/-! ## The documents of the fields -/

/-- The documents of one field say the same. -/
inductive SameField (field : FieldLayout) : Option Json → Option Json → Prop
  | refl (value? : Option Json) : SameField field value? value?
  | default {value : Json} (h : value ∈ field.defaults) : SameField field none (some value)
  | inside {value value' : Json} (h : field.Alike value value') :
    SameField field (some value) (some value')

/-- The documents of the fields say the same. -/
inductive SameFields : List FieldLayout → List (Option Json) → List (Option Json) → Prop
  | nil : SameFields [] [] []
  | cons {field : FieldLayout} {fields : List FieldLayout} {value? value?' : Option Json}
    {values values' : List (Option Json)} (h : SameField field value? value?')
    (hs : SameFields fields values values') :
    SameFields (field :: fields) (value? :: values) (value?' :: values')

theorem SameFields.refl {fields : List FieldLayout} {values : List (Option Json)}
    (h : values.length = fields.length) : SameFields fields values values := by
  induction fields generalizing values with
  | nil =>
    obtain rfl := List.length_eq_zero_iff.1 h
    exact .nil
  | cons field fields ih =>
    cases values with
    | nil => cases h
    | cons value? values => exact .cons (.refl value?) (ih (Nat.succ.inj h))

theorem SameField.rel_refl (field : FieldLayout) (found? : Option (Option Json)) :
    Option.Rel (SameField field) found? found? := by
  cases found? with
  | none => exact .none
  | some value? => exact .some (.refl value?)

/-- What is read of a field with a default. -/
theorem SameField.optional?_eq {α : Type} [Wire α] {field : FieldLayout}
    {value? value?' : Option Json} (h : SameField field value? value?') (default : α)
    (hdefault : ∀ value ∈ field.defaults, Wire.ofJson? value = some default)
    (hinside : ∀ value value', field.Alike value value' →
      (Wire.ofJson? value : Option α) = Wire.ofJson? value') :
    optional? default value? = optional? default value?' := by
  cases h with
  | refl => rfl
  | default h => exact (hdefault _ h).symm
  | inside h => exact hinside _ _ h

variable {layout} {j j' : Json} {members members' : List (Option String × Json)}

theorem rel_mapM {read? read?' : String → Option (Option Json)} {fields : List FieldLayout}
    (h : ∀ field ∈ fields, Option.Rel (SameField field) (read? field.name) (read?' field.name)) :
    Option.Rel (SameFields fields) ((fields.map FieldLayout.name).mapM read?)
      ((fields.map FieldLayout.name).mapM read?') := by
  induction fields with
  | nil => exact .some .nil
  | cons field fields ih =>
    rw [List.forall_mem_cons] at h
    obtain ⟨hfirst, hrest⟩ := h
    have hrest := ih hrest
    rw [List.map_cons, List.mapM_cons, List.mapM_cons]
    generalize read? field.name = value?, read?' field.name = value?' at hfirst ⊢
    generalize (fields.map FieldLayout.name).mapM read? = values,
      (fields.map FieldLayout.name).mapM read?' = values' at hrest ⊢
    cases hfirst with
    | none => exact .none
    | some hfirst =>
      cases hrest with
      | none => exact .none
      | some hrest => exact .some (.cons hfirst hrest)

theorem rel_object
    (hnames : (members.all fun m => admissibleName layout.unknown layout.names m.1) =
      members'.all fun m => admissibleName layout.unknown layout.names m.1)
    (h : ∀ field ∈ layout.fields, Option.Rel (SameField field)
      (uniqueMember? members field.name) (uniqueMember? members' field.name)) :
    Option.Rel (SameFields layout.fields) (layout.fieldsOf? (.object members))
      (layout.fieldsOf? (.object members')) := by
  rw [fieldsOf?, fieldsOf?, Json.fieldsOf?, Json.fieldsOf?, hnames]
  split
  · exact rel_mapM h
  · exact .none

theorem eq_of_name_eq {field field' : FieldLayout} (h : field ∈ layout.fields)
    (h' : field' ∈ layout.fields) (hname : field.name = field'.name) : field = field' :=
  List.inj_on_of_nodup_map layout.nodup_names h h' hname

theorem fieldsOf?_array {elements : List Json} (h : elements.length ≤ layout.names.length) :
    layout.fieldsOf? (.array elements) =
      some (elements.map some ++ List.replicate (layout.names.length - elements.length) none) := by
  rw [fieldsOf?, Json.fieldsOf?, if_pos h]

theorem sameFields_array {elements : List Json} (h : elements.length ≤ layout.names.length) :
    SameFields layout.fields
      (elements.map some ++ List.replicate (layout.names.length - elements.length) none)
      (elements.map some ++ List.replicate (layout.names.length - elements.length) none) := by
  refine .refl ?_
  rw [List.length_append, List.length_map, List.length_replicate, Nat.add_sub_cancel' h, names,
    List.length_map]

theorem length_le_of_fieldsOf?_array {elements : List Json} {values : List (Option Json)}
    (h : layout.fieldsOf? (.array elements) = some values) :
    elements.length ≤ layout.names.length := by
  rw [fieldsOf?, Json.fieldsOf?] at h
  split at h
  · assumption
  · cases h

theorem sameFields_of_fieldsOf? {values : List (Option Json)}
    (h : layout.fieldsOf? j = some values) : SameFields layout.fields values values := by
  cases j with
  | object members =>
    have hrel := @rel_object layout members members rfl fun field _ =>
      SameField.rel_refl field (uniqueMember? members field.name)
    rw [h] at hrel
    cases hrel
    assumption
  | array elements =>
    have hlength := length_le_of_fieldsOf?_array h
    rw [fieldsOf?_array hlength] at h
    cases h
    exact sameFields_array hlength
  | _ => cases h

theorem Step.rel_fieldsOf? (h : layout.Step j j') :
    Option.Rel (SameFields layout.fields) (layout.fieldsOf? j) (layout.fieldsOf? j') := by
  -- A member that comes or changes is seen under its own name only, which is that of one field.
  cases h with
  | reorder h =>
    refine rel_object h.all_eq fun field _ => ?_
    rw [uniqueMember?_perm h]
    exact SameField.rel_refl field _
  | @more members name value hignored hname =>
    refine rel_object ?_ fun field hfield => ?_
    · simp [admissibleName, hignored]
    · have hne : (some name, value).1 ≠ some field.name := by
        intro heq
        cases heq
        exact hname (List.mem_map_of_mem hfield)
      rw [uniqueMember?_cons_of_ne hne]
      exact SameField.rel_refl field _
  | @default members field value hfield hvalue habsent =>
    refine rel_object ?_ fun field' hfield' => ?_
    · have hname : field.name ∈ layout.names := List.mem_map_of_mem hfield
      simp [admissibleName, hname]
    · by_cases heq : field.name = field'.name
      · obtain rfl := eq_of_name_eq hfield hfield' heq
        rw [uniqueMember?_of_absent habsent, uniqueMember?_cons_of_absent habsent]
        exact .some (.default hvalue)
      · rw [uniqueMember?_cons_of_ne (by simpa using heq)]
        exact SameField.rel_refl field' _
  | @inside members field value value' hfield h =>
    refine rel_object (by simp only [List.all_cons]) fun field' hfield' => ?_
    by_cases heq : field.name = field'.name
    · obtain rfl := eq_of_name_eq hfield hfield' heq
      cases uniqueMember?_cons field.name members with
      | inl hfound =>
        rw [hfound, hfound]
        exact .some (.inside h)
      | inr hrepeated =>
        rw [hrepeated, hrepeated]
        exact .none
    · have hne (value : Json) : (some field.name, value).1 ≠ some field'.name := by simpa using heq
      rw [uniqueMember?_cons_of_ne (hne value), uniqueMember?_cons_of_ne (hne value')]
      exact SameField.rel_refl field' _
  | named h =>
    rw [fieldsOf?_array h, fieldsOf?, fieldsOf?_record layout.unknown layout.nodup_names h]
    exact .some (sameFields_array h)

theorem exists_mem_zip_of_mapM {read? : String → Option (Option Json)} {fields : List FieldLayout}
    {values : List (Option Json)} (h : (fields.map FieldLayout.name).mapM read? = some values)
    {field : FieldLayout} (hfield : field ∈ fields) :
    ∃ value?, (field, value?) ∈ fields.zip values ∧ read? field.name = some value? := by
  induction fields generalizing values with
  | nil => cases hfield
  | cons first fields ih =>
    rw [List.map_cons, List.mapM_cons] at h
    simp only [Option.bind_eq_bind, Option.bind_eq_some_iff, Option.pure_def,
      Option.some.injEq] at h
    obtain ⟨value?, hfirst, values', hrest, rfl⟩ := h
    rw [List.zip_cons_cons]
    cases hfield with
    | head => exact ⟨value?, List.mem_cons_self, hfirst⟩
    | tail _ hfield =>
      obtain ⟨found?, hmem, hread⟩ := ih hrest hfield
      exact ⟨found?, List.mem_cons_of_mem _ hmem, hread⟩

theorem mapM_of_fieldsOf?_object {values : List (Option Json)}
    (h : layout.fieldsOf? (.object members) = some values) :
    layout.names.mapM (uniqueMember? members) = some values := by
  rw [fieldsOf?, Json.fieldsOf?] at h
  split at h
  · exact h
  · cases h

/-- If a document that gives a field twice has fields at all, it does so inside a field. -/
theorem Repeats.exists_mem (h : layout.Repeats j) {values : List (Option Json)}
    (hvalues : layout.fieldsOf? j = some values) :
    ∃ field value, (field, some value) ∈ layout.fields.zip values ∧ field.Repeats value := by
  cases h with
  | here hfield h =>
    obtain ⟨value?, -, hread⟩ :=
      exists_mem_zip_of_mapM (mapM_of_fieldsOf?_object hvalues) hfield
    rw [uniqueMember?_of_repeated h] at hread
    cases hread
  | member hfield hmem h =>
    obtain ⟨value?, hzip, hread⟩ :=
      exists_mem_zip_of_mapM (mapM_of_fieldsOf?_object hvalues) hfield
    obtain rfl := eq_of_uniqueMember? hmem hread
    exact ⟨_, _, hzip, h⟩
  | @element elements field value hmem h =>
    refine ⟨field, value, ?_, h⟩
    have hlength := length_le_of_fieldsOf?_array hvalues
    rw [fieldsOf?_array hlength] at hvalues
    cases hvalues
    obtain ⟨i, hi⟩ := List.mem_iff_getElem?.1 hmem
    obtain ⟨hname, helement⟩ := List.getElem?_zip_eq_some.1 hi
    have hlt : i < elements.length := (List.getElem?_eq_some_iff.1 helement).1
    refine List.mem_iff_getElem?.2 ⟨i, List.getElem?_zip_eq_some.2 ⟨hname, ?_⟩⟩
    rw [List.getElem?_append_left (by rwa [List.length_map]), List.getElem?_map, helement]
    rfl

/-! ## Structures -/

/-- Values of the type are made of their fields, and not of fields that give some field
twice. -/
structure Describes (layout : Layout) (α : Type) [Wire α] : Prop where
  congr {j j' : Json} {values values' : List (Option Json)}
    (h : layout.fieldsOf? j = some values) (h' : layout.fieldsOf? j' = some values')
    (hsame : SameFields layout.fields values values') :
    (Wire.ofJson? j : Option α) = Wire.ofJson? j'
  eq_none {j : Json} (h : layout.fieldsOf? j = none) : (Wire.ofJson? j : Option α) = none
  inside {j : Json} {values : List (Option Json)} (h : layout.fieldsOf? j = some values)
    {field : FieldLayout} {value : Json} (hmem : (field, some value) ∈ layout.fields.zip values)
    (hrepeats : field.Repeats value) : (Wire.ofJson? j : Option α) = none

section

variable {α : Type} [Wire α]

theorem Describes.ofJson?_eq_of_step (hα : layout.Describes α) (h : layout.Step j j') :
    (Wire.ofJson? j : Option α) = Wire.ofJson? j' := by
  have hrel := h.rel_fieldsOf?
  generalize hvalues : layout.fieldsOf? j = values?, hvalues' : layout.fieldsOf? j' = values?'
    at hrel
  cases hrel with
  | none => rw [hα.eq_none hvalues, hα.eq_none hvalues']
  | some hsame => exact hα.congr hvalues hvalues' hsame

theorem Describes.ofJson?_eq (hα : layout.Describes α) (h : layout.Same j j') :
    (Wire.ofJson? j : Option α) = Wire.ofJson? j' := by
  induction h with
  | rel _ _ h => exact hα.ofJson?_eq_of_step h
  | refl => rfl
  | symm _ _ _ ih => exact ih.symm
  | trans _ _ _ _ _ ih ih' => exact ih.trans ih'

theorem Describes.ofJson?_of_repeats (hα : layout.Describes α) (h : layout.Repeats j) :
    (Wire.ofJson? j : Option α) = none := by
  cases hvalues : layout.fieldsOf? j with
  | none => exact hα.eq_none hvalues
  | some values =>
    obtain ⟨field, value, hmem, hrepeats⟩ := h.exists_mem hvalues
    exact hα.inside hvalues hmem hrepeats

theorem decode?_of_read? {s : String} (h : read? s = some j) :
    (Wire.decode? s : Option α) = Wire.ofJson? j := by
  rw [Wire.decode?, h, Option.bind_some]

theorem Describes.decides (hα : layout.Describes α)
    (hback : ∀ a : α, Wire.RoundTrips readerLevels a) : layout.Decides α where
  same hs hs' h := by
    rw [decode?_of_read? hs, decode?_of_read? hs', hα.ofJson?_eq h]
  written {_ _ _ a} hs ha h := by
    rw [decode?_of_read? hs, hα.ofJson?_eq h, ← decode?_of_read? ha]
    exact (hback a).decode?_encode
  repeated hs h := by
    rw [decode?_of_read? hs, hα.ofJson?_of_repeats h]
  refused {s members name value} hs hunknown hmem hname := by
    rw [decode?_of_read? hs]
    refine hα.eq_none ?_
    have hall : ¬ (members.all fun m => admissibleName layout.unknown layout.names m.1) = true := by
      intro hall
      have hadmissible := List.all_eq_true.1 hall _ hmem
      simp [admissibleName, hunknown, hname] at hadmissible
    rw [fieldsOf?, Json.fieldsOf?, if_neg hall]

/-! ## Structures inside a field -/

/-- The elements of the arrays say the same, one by one. -/
inductive SameElements (layout : Layout) : Json → Json → Prop
  | array {elements elements' : List Json} (h : List.Forall₂ layout.Same elements elements') :
    layout.SameElements (.array elements) (.array elements')

/-- Some element of the array gives a field twice. -/
inductive RepeatsElement (layout : Layout) : Json → Prop
  | array {elements : List Json} {element : Json} (hmem : element ∈ elements)
    (h : layout.Repeats element) : layout.RepeatsElement (.array elements)

theorem Describes.ofJson?_list_eq (hα : layout.Describes α) (h : layout.SameElements j j') :
    (Wire.ofJson? j : Option (List α)) = Wire.ofJson? j' := by
  obtain ⟨h⟩ := h
  change List.mapM _ _ = List.mapM _ _
  induction h with
  | nil => rfl
  | cons hfirst _ ih => rw [List.mapM_cons, List.mapM_cons, hα.ofJson?_eq hfirst, ih]

theorem Describes.ofJson?_list_of_repeats (hα : layout.Describes α)
    (h : layout.RepeatsElement j) : (Wire.ofJson? j : Option (List α)) = none := by
  obtain ⟨hmem, h⟩ := h
  obtain ⟨before, after, rfl⟩ := List.append_of_mem hmem
  change List.mapM _ _ = none
  simp only [List.mapM_append, List.mapM_cons, hα.ofJson?_of_repeats h, Option.bind_eq_bind,
    Option.bind_none, Option.bind_fun_none]

theorem Step.ne_null (h : layout.Step j j') : j ≠ .null ∧ j' ≠ .null := by
  cases h <;> exact ⟨Json.noConfusion, Json.noConfusion⟩

theorem Same.eq_null_iff (h : layout.Same j j') : j = .null ↔ j' = .null := by
  induction h with
  | rel _ _ h => exact iff_of_false h.ne_null.1 h.ne_null.2
  | refl => rfl
  | symm _ _ _ ih => exact ih.symm
  | trans _ _ _ _ _ ih ih' => exact ih.trans ih'

theorem Repeats.ne_null (h : layout.Repeats j) : j ≠ .null := by
  cases h <;> exact Json.noConfusion

theorem Describes.ofJson?_option_eq (hα : layout.Describes α) (h : layout.Same j j') :
    (Wire.ofJson? j : Option (Option α)) = Wire.ofJson? j' := by
  by_cases hnull : j = .null
  · rw [hnull, h.eq_null_iff.1 hnull]
  · rw [ofJson?_option hnull, ofJson?_option (mt h.eq_null_iff.2 hnull), hα.ofJson?_eq h]

theorem Describes.ofJson?_option_of_repeats (hα : layout.Describes α) (h : layout.Repeats j) :
    (Wire.ofJson? j : Option (Option α)) = none := by
  rw [ofJson?_option h.ne_null, hα.ofJson?_of_repeats h, Option.map_none]

end

end Layout

/-! ## Filters, sortings, requests and settings -/

/-- The documents of a variant without content. -/
def variant (name : String) : List Json := [.text name, .object [(some name, .null)]]

/-- Every part of a filter may be left out. -/
def filterLayout : Layout where
  fields := [.plain "key" [.null], .plain "value" [.null], .plain "comparison" (variant "None"),
    .plain "connector" (variant "None")]
  unknown := .ignored
  distinct := by decide

/-- The direction of a sorting may be left out. -/
def sortLayout : Layout where
  fields := [.plain "field" [], .plain "dir" [.null]]
  unknown := .ignored
  distinct := by decide

/-- The filters of a request are structures of their own. -/
def filtersField : FieldLayout where
  name := "filters"
  defaults := [.array []]
  Alike := filterLayout.SameElements
  Repeats := filterLayout.RepeatsElement

/-- So is the sorting. -/
def orderingField : FieldLayout where
  name := "ordering"
  defaults := [.null]
  Alike := sortLayout.Same
  Repeats := sortLayout.Repeats

/-- The filters and the sorting of a request may be left out. -/
def requestLayout : Layout where
  fields := [.plain "page" [], .plain "pageSize" [], filtersField, orderingField]
  unknown := .ignored
  distinct := by decide

/-- The settings have no other members. -/
def settingsLayout : Layout where
  fields := [.plain "max_page_size" [.null], .plain "none_connector" (variant "and")]
  unknown := .refused
  distinct := by decide

namespace Layout

theorem SameField.eq_of_plain {name : String} {value? value?' : Option Json}
    (h : SameField (.plain name []) value? value?') : value? = value?' := by
  cases h with
  | refl => rfl
  | default h => cases h
  | inside h => exact h.elim

theorem SameField.optional?_plain {α : Type} [Wire α] {name : String} {defaults : List Json}
    {value? value?' : Option Json} (h : SameField (.plain name defaults) value? value?')
    (default : α) (hdefault : ∀ value ∈ defaults, Wire.ofJson? value = some default) :
    optional? default value? = optional? default value?' :=
  h.optional?_eq default hdefault fun _ _ h => h.elim

theorem ofJson?_of_mem_variant {α : Type} [Named α] {name : String} {a : α}
    (h : Wire.ofJson? (.text name) = some a) :
    ∀ value ∈ variant name, Wire.ofJson? value = some a :=
  List.forall_mem_cons.2 ⟨h, List.forall_mem_singleton.2 h⟩

/-- Plain fields hold no structures. -/
theorem not_repeats_of_plain {fields : List FieldLayout} {values : List (Option Json)}
    (hplain : ∀ field ∈ fields, ∃ name defaults, field = .plain name defaults)
    {field : FieldLayout} {value : Json} (hmem : (field, some value) ∈ fields.zip values) :
    ¬ field.Repeats value := by
  obtain ⟨name, defaults, rfl⟩ := hplain field (List.of_mem_zip hmem).1
  exact id

theorem fieldsOf?_filter (j : Json) :
    Json.fieldsOf? .ignored ["key", "value", "comparison", "connector"] j =
      filterLayout.fieldsOf? j := rfl

theorem describes_filter : filterLayout.Describes Filter where
  congr h h' hsame := by
    match hsame with
    | .cons key (.cons value (.cons comparison (.cons connector .nil))) =>
      have key := key.optional?_plain (none : Option String) (List.forall_mem_singleton.2 rfl)
      have value := value.optional?_plain (none : Option String) (List.forall_mem_singleton.2 rfl)
      have comparison := comparison.optional?_plain Comparison.nothing (ofJson?_of_mem_variant rfl)
      have connector := connector.optional?_plain Connector.missing (ofJson?_of_mem_variant rfl)
      unfold Wire.ofJson? instWireFilter
      simp only [fieldsOf?_filter, h, h', key, value, comparison, connector]
  eq_none h := by
    unfold Wire.ofJson? instWireFilter
    simp only [fieldsOf?_filter, h]
  inside _ _ _ hmem hrepeats :=
    absurd hrepeats (not_repeats_of_plain (by simp [filterLayout, FieldLayout.plain]) hmem)

theorem fieldsOf?_sort (j : Json) :
    Json.fieldsOf? .ignored ["field", "dir"] j = sortLayout.fieldsOf? j := rfl

theorem describes_sort : sortLayout.Describes SortRequest where
  congr h h' hsame := by
    match hsame with
    | .cons field (.cons direction .nil) =>
      obtain rfl := field.eq_of_plain
      have direction :=
        direction.optional?_plain (none : Option Direction) (List.forall_mem_singleton.2 rfl)
      unfold Wire.ofJson? instWireSortRequest
      simp only [fieldsOf?_sort, h, h', direction]
  eq_none h := by
    unfold Wire.ofJson? instWireSortRequest
    simp only [fieldsOf?_sort, h]
  inside _ _ _ hmem hrepeats :=
    absurd hrepeats (not_repeats_of_plain (by simp [sortLayout, FieldLayout.plain]) hmem)

theorem fieldsOf?_request (j : Json) :
    Json.fieldsOf? .ignored ["page", "pageSize", "filters", "ordering"] j =
      requestLayout.fieldsOf? j := rfl

theorem describes_request : requestLayout.Describes PageRequest where
  congr h h' hsame := by
    match hsame with
    | .cons page (.cons pageSize (.cons filters (.cons sort .nil))) =>
      obtain rfl := page.eq_of_plain
      obtain rfl := pageSize.eq_of_plain
      have filters := filters.optional?_eq ([] : List Filter) (List.forall_mem_singleton.2 rfl)
        fun _ _ => describes_filter.ofJson?_list_eq
      have sort := sort.optional?_eq (none : Option SortRequest) (List.forall_mem_singleton.2 rfl)
        fun _ _ => describes_sort.ofJson?_option_eq
      unfold Wire.ofJson? instWirePageRequest
      simp only [fieldsOf?_request, h, h', filters, sort]
  eq_none h := by
    unfold Wire.ofJson? instWirePageRequest
    simp only [fieldsOf?_request, h]
  inside {_ values} h {field value} hmem hrepeats := by
    match values, sameFields_of_fieldsOf? h with
    | [page, pageSize, filters, sort], .cons _ (.cons _ (.cons _ (.cons _ .nil))) =>
      simp only [requestLayout, List.zip_cons_cons, List.zip_nil_right, List.mem_cons,
        List.not_mem_nil, or_false, Prod.mk.injEq] at hmem
      unfold Wire.ofJson? instWirePageRequest
      rcases hmem with ⟨rfl, -⟩ | ⟨rfl, -⟩ | ⟨rfl, rfl⟩ | ⟨rfl, rfl⟩
      · exact hrepeats.elim
      · exact hrepeats.elim
      · have hfilters : optional? ([] : List Filter) (some value) = none :=
          describes_filter.ofJson?_list_of_repeats hrepeats
        simp only [fieldsOf?_request, h, hfilters, Option.bind_eq_bind, Option.bind_none,
          Option.bind_fun_none]
      · have hsort : optional? (none : Option SortRequest) (some value) = none :=
          describes_sort.ofJson?_option_of_repeats hrepeats
        simp only [fieldsOf?_request, h, hsort, Option.bind_eq_bind, Option.bind_none,
          Option.bind_fun_none]

theorem fieldsOf?_settings (j : Json) :
    Json.fieldsOf? .refused ["max_page_size", "none_connector"] j = settingsLayout.fieldsOf? j :=
  rfl

theorem describes_settings : settingsLayout.Describes Settings where
  congr h h' hsame := by
    match hsame with
    | .cons maxPageSize (.cons policy .nil) =>
      have maxPageSize :=
        maxPageSize.optional?_plain (none : Option UInt64) (List.forall_mem_singleton.2 rfl)
      have policy := policy.optional?_plain ConnectorPolicy.conjoin (ofJson?_of_mem_variant rfl)
      unfold Wire.ofJson? instWireSettings
      simp only [fieldsOf?_settings, h, h', maxPageSize, policy]
  eq_none h := by
    unfold Wire.ofJson? instWireSettings
    simp only [fieldsOf?_settings, h]
  inside _ _ _ hmem hrepeats :=
    absurd hrepeats (not_repeats_of_plain (by simp [settingsLayout, FieldLayout.plain]) hmem)

end Layout

end Json

open Json Json.Layout

/-- **Filters, sortings, requests and settings are read by their fields alone.** -/
theorem Wire.decode?_by_fields :
    filterLayout.Decides Filter ∧ sortLayout.Decides SortRequest ∧
      requestLayout.Decides PageRequest ∧ settingsLayout.Decides Settings :=
  ⟨describes_filter.decides roundTrips_filter, describes_sort.decides roundTrips_sort,
    describes_request.decides roundTrips_request, describes_settings.decides roundTrips_settings⟩

/-- A request in another order, with a member that is no field and a filter by position;
settings without their bound; a filter that gives a part twice; misspelt settings. -/
theorem Wire.decode?_by_fields_rearranged :
    (decode? "\x7b\"x\":0,\"pageSize\":2,\"page\":1,\"filters\":[\x7b\"key\":\"a\"\x7d]\x7d" :
      Option PageRequest) = decode? "\x7b\"filters\":[[\"a\"]],\"page\":1,\"pageSize\":2\x7d" ∧
    decode? "\x7b\"none_connector\":\"discard\"\x7d" = some (⟨none, .discard⟩ : Settings) ∧
    (decode? "\x7b\"filters\":[\x7b\"key\":\"a\",\"key\":\"a\"\x7d],\"page\":1,\"pageSize\":2\x7d" :
      Option PageRequest) = none ∧
    (decode? "\x7b\"max_pagesize\":5\x7d" : Option Settings) = none := by
  have hfilters : filtersField ∈ requestLayout.fields :=
    List.mem_cons_of_mem _ (List.mem_cons_of_mem _ List.mem_cons_self)
  -- Each text is the one of a document that is read as it is written.
  have hread {s : String} {written j : Json} (hs : s = written.render)
      (h : ReadsAs written.renderChars j) : read? s = some j :=
    hs ▸ read?_render_iff.2 h
  refine ⟨?_, ?_, ?_, ?_⟩
  · let named : Json := .object [(some "key", .text "a")]
    let members : List (Option String × Json) := [(some "pageSize", .integer 2),
      (some "page", .integer 1), (some "filters", .array [named])]
    have hfilter : filterLayout.Same named (.array [.text "a"]) :=
      .symm _ _ (.rel _ _ (.named (by decide)))
    have hmore := @Step.more requestLayout members "x" (.integer 0) rfl (by decide)
    have hturned := @Step.reorder requestLayout _ _ (List.reverse_perm members).symm
    have hinside := @Step.inside requestLayout [(some "page", .integer 1),
      (some "pageSize", .integer 2)] filtersField _ _ hfilters (.array (.cons hfilter .nil))
    have hkey : ReadsAs (renderChars (.record [("key", .text "a")])) named :=
      .record (.cons ⟨rfl, .text "a"⟩ .nil)
    have hfirst : ReadsAs (renderChars (.record [("x", .integer 0), ("pageSize", .integer 2),
        ("page", .integer 1), ("filters", .array [.record [("key", .text "a")]])]))
        (.object ((some "x", .integer 0) :: members)) :=
      .record (.cons ⟨rfl, .integer 0⟩ (.cons ⟨rfl, .integer 2⟩ (.cons ⟨rfl, .integer 1⟩
        (.cons ⟨rfl, .array (.cons hkey .nil)⟩ .nil))))
    have hsecond : ReadsAs (renderChars (.record [("filters", .array [.array [.text "a"]]),
        ("page", .integer 1), ("pageSize", .integer 2)])) _ :=
      .record (.cons ⟨rfl, .array (.cons (.array (.cons (.text "a") .nil)) .nil)⟩
        (.cons ⟨rfl, .integer 1⟩ (.cons ⟨rfl, .integer 2⟩ .nil)))
    exact decode?_by_fields.2.2.1.same (hread (by decide) hfirst) (hread (by decide) hsecond)
      (.trans _ _ _ (.symm _ _ (.rel _ _ hmore)) (.trans _ _ _ (.rel _ _ hturned)
        (.rel _ _ hinside)))
  · have hdefault := @Step.default settingsLayout [(some "none_connector", .text "discard")]
      (.plain "max_page_size" [.null]) .null List.mem_cons_self List.mem_cons_self (by decide)
    have hpolicy : ReadsAs (renderChars (.record [("none_connector", .text "discard")])) _ :=
      .record (.cons ⟨rfl, .text "discard"⟩ .nil)
    have hsettings : ReadsAs (renderChars (.record [("max_page_size", .null),
        ("none_connector", .text "discard")])) _ :=
      .record (.cons ⟨rfl, .null⟩ (.cons ⟨rfl, .text "discard"⟩ .nil))
    exact decode?_by_fields.2.2.2.written (hread (by decide) hpolicy)
      (read?_render_iff.2 hsettings) (.rel _ _ hdefault)
  · have htwice := @Repeats.here filterLayout [(some "key", .text "a"), (some "key", .text "a")]
      (.plain "key" [.null]) List.mem_cons_self (by decide)
    have hinside := @Repeats.member requestLayout [(some "filters", .array [.object
        [(some "key", .text "a"), (some "key", .text "a")]]), (some "page", .integer 1),
      (some "pageSize", .integer 2)] filtersField _ hfilters List.mem_cons_self
      (.array List.mem_cons_self htwice)
    have hkeys : ReadsAs (renderChars (.record [("key", .text "a"), ("key", .text "a")])) _ :=
      .record (.cons ⟨rfl, .text "a"⟩ (.cons ⟨rfl, .text "a"⟩ .nil))
    have hrequest : ReadsAs (renderChars (.record [("filters",
        .array [.record [("key", .text "a"), ("key", .text "a")]]), ("page", .integer 1),
        ("pageSize", .integer 2)])) _ :=
      .record (.cons ⟨rfl, .array (.cons hkeys .nil)⟩
        (.cons ⟨rfl, .integer 1⟩ (.cons ⟨rfl, .integer 2⟩ .nil)))
    exact decode?_by_fields.2.2.1.repeated (hread (by decide) hrequest) hinside
  · have hmisspelt : ReadsAs (renderChars (.record [("max_pagesize", .integer 5)])) _ :=
      .record (.cons ⟨rfl, .integer 5⟩ .nil)
    exact decode?_by_fields.2.2.2.refused (hread (by decide) hmisspelt) rfl List.mem_cons_self
      (by decide)

end PagedQuery
