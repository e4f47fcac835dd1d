import PagedQuery.Record.FieldKind
import PagedQuery.Record.Scalar
import PagedQuery.Text.Quoted

/-!
# Schemas

A schema names the fields of a record type, says what each is declared to hold, and
reads it from a record. Names are case-sensitive, not empty, and taken once; an
enumeration has at least one variant.

## Main definitions

* `Field`: a named, typed access to a record.
* `Schema`: the fields of a record type, in the order of their registration.
* `Schema.ofFields`: the schema of a list of fields, or the first mistake in it.
* `Schema.find?`, `Schema.lookup?`: the field of a name; `Schema.valueOf`: what a record
  holds there.
* `Schema.describe`: a schema as text.
-/

namespace PagedQuery

/-- A field of a record type. -/
structure Field (ρ : Type) where
  /-- The name by which requests refer to the field. -/
  name : String
  /-- What the field is declared to hold. -/
  kind : FieldKind
  /-- Reads the field. The value may be of another kind than declared. -/
  read : ρ → FieldValue

/-- A mistake in the fields of a schema. -/
inductive SchemaError where
  | emptyName
  | noVariants (name : String)
  | repeatedName (name : String)
  deriving DecidableEq

/-- The text of a mistake. -/
def SchemaError.message : SchemaError → String
  | emptyName => "field name must not be empty"
  | noVariants name => "enum field '" ++ name ++ "' declares no variants"
  | repeatedName name => "field '" ++ name ++ "' is registered more than once"

/-- The fields of a record type. -/
structure Schema (ρ : Type) where
  /-- The fields, in the order of their registration. -/
  fields : List (Field ρ)
  name_ne_empty : ∀ f ∈ fields, f.name ≠ ""
  kind_ne_empty : ∀ f ∈ fields, f.kind ≠ .enum []
  nodup_names : (fields.map (·.name)).Nodup

namespace Schema

variable {ρ : Type}

/-! ## Building -/

/-- The mistake of a field among fields with the given names before it, if it has one. -/
def fieldError? (names : List String) (f : Field ρ) : Option SchemaError :=
  if f.name = "" then some .emptyName
  else if f.kind = .enum [] then some (.noVariants f.name)
  else if f.name ∈ names then some (.repeatedName f.name)
  else none

/-- The first mistake of a list of fields after fields with the given names. -/
def firstError? (names : List String) : List (Field ρ) → Option SchemaError
  | [] => none
  | f :: fs => (fieldError? names f).or (firstError? (f.name :: names) fs)

/-- A field without a mistake has a name of its own, and variants if it is an
enumeration. -/
theorem fieldError?_eq_none_iff {names : List String} {f : Field ρ} :
    fieldError? names f = none ↔ f.name ≠ "" ∧ f.kind ≠ .enum [] ∧ f.name ∉ names := by
  unfold fieldError?
  split
  · simp_all
  · split
    · simp_all
    · split <;> simp_all

/-- Fields without a mistake satisfy what a schema asks, and reuse none of the names
before them. -/
theorem firstError?_eq_none_iff {names : List String} {fs : List (Field ρ)} :
    firstError? names fs = none ↔
      (∀ f ∈ fs, f.name ≠ "") ∧ (∀ f ∈ fs, f.kind ≠ .enum []) ∧ (fs.map (·.name)).Nodup
        ∧ ∀ f ∈ fs, f.name ∉ names := by
  induction fs generalizing names with
  | nil => simp [firstError?]
  | cons f fs ih =>
    simp only [firstError?, Option.or_eq_none_iff, fieldError?_eq_none_iff, ih, List.mem_cons,
      forall_eq_or_imp, List.map_cons, List.nodup_cons, List.mem_map, not_or, not_exists, not_and]
    constructor
    · rintro ⟨⟨hn, he, hf⟩, hns, hes, hnd, hout⟩
      exact ⟨⟨hn, hns⟩, ⟨he, hes⟩, ⟨fun g hg h => (hout g hg).1 h, hnd⟩, hf,
        fun g hg => (hout g hg).2⟩
    · rintro ⟨⟨hn, hns⟩, ⟨he, hes⟩, ⟨hne, hnd⟩, hf, hout⟩
      exact ⟨⟨hn, he, hf⟩, hns, hes, hnd, fun g hg => ⟨fun h => hne g hg h, hout g hg⟩⟩

/-- The schema with the given fields. For each field in turn its name, its variants and
the names before it are checked, and the first mistake is reported. -/
def ofFields (fields : List (Field ρ)) : Except SchemaError (Schema ρ) :=
  match h : firstError? [] fields with
  | some e => .error e
  | none =>
    have ok := firstError?_eq_none_iff.1 h
    .ok ⟨fields, ok.1, ok.2.1, ok.2.2.1⟩

/-! ## Access -/

variable (schema : Schema ρ)

/-- The field with exactly the given name. -/
def find? (name : String) : Option (Field ρ) := schema.fields.find? fun f => f.name == name

/-- The field of a name that may be absent or empty, as in a request. -/
def lookup? : Option String → Option (Field ρ)
  | none => none
  | some name => if name = "" then none else schema.find? name

/-- What a record holds in the field of a name; nothing if there is no such field. -/
def valueOf (name : String) (r : ρ) : FieldValue := (schema.find? name).bind fun f => f.read r

end Schema

/-! ## Text -/

/-- A declared kind as text, with the variants of an enumeration. -/
def FieldKind.describe : FieldKind → String
  | int => "Int"
  | uint => "UInt"
  | float => "Float"
  | string => "String"
  | char => "Char"
  | bool => "Bool"
  | dateTime => "DateTime"
  | enum variants => "Enum(" ++ Text.quoteList variants ++ ")"

/-- A field as text. -/
def Field.describe {ρ : Type} (f : Field ρ) : String :=
  "FieldDef \x7b name: " ++ Text.quoteString f.name ++ ", kind: " ++ f.kind.describe ++ ", .. \x7d"

/-- A schema as text: its fields in order. -/
def Schema.describe {ρ : Type} (schema : Schema ρ) : String :=
  "[" ++ ", ".intercalate (schema.fields.map Field.describe) ++ "]"

end PagedQuery
