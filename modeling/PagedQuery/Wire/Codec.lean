import PagedQuery.Json.Printer
import PagedQuery.Json.Reader

/-!
# Values as JSON documents

How values of a type are written as documents and read back. Reading is exact: a
document of another shape is refused, not repaired.

A structure is an object with a member for each field, or an array of its fields in the
order of their declaration. In an object the order of members does not matter, but a
field must not be named twice. A field with a default may be left out; in an array that
holds of the last fields. A variant without content is its name, or an object with null
under its name.

## Main definitions

* `Wire α`: the documents of a type; `Wire.encode` and `Wire.decode?` go all the way to
  text.
* `Json.fieldsOf? unknown names j`: the documents of the named fields of a structure.
* `required?`, `optional?`: the value of a field that must be there, or has a default.
* `Json.variantName? j`: the name of a variant without content.
-/

namespace PagedQuery

-- Powers are those of the core library, whatever others are in scope.
attribute [local instance (high)] instPowNat

/-- The documents of a type. -/
class Wire (α : Type) where
  /-- The document of a value. -/
  toJson : α → Json
  /-- The value of a document, if it is one of the type. -/
  ofJson? : Json → Option α

/-- The text of the document of a value. -/
def Wire.encode {α : Type} [Wire α] (a : α) : String := (Wire.toJson a).render

/-- The value whose document a text writes. -/
def Wire.decode? {α : Type} [Wire α] (s : String) : Option α := (Json.read? s).bind Wire.ofJson?

/-- What to do about members that are no field. -/
inductive UnknownMembers where
  /-- They may hold anything. -/
  | ignored
  /-- The object is refused. -/
  | refused
  deriving DecidableEq

namespace Json

/-- The only document among the members with the given name. It may be absent, but not
repeated. -/
def uniqueMember? (members : List (Option String × Json)) (name : String) :
    Option (Option Json) :=
  match members.filter fun m => m.1 == some name with
  | [] => some none
  | [(_, value)] => some (some value)
  | _ => none

/-- Whether the name of a member of a structure is admissible. Every name has to stand
for a text. -/
def admissibleName (unknown : UnknownMembers) (names : List String) : Option String → Bool
  | none => false
  | some name => unknown == .ignored || names.contains name

/-- The documents of the fields of a structure with the given names, in that order; a
field may be left out. -/
def fieldsOf? (unknown : UnknownMembers) (names : List String) : Json → Option (List (Option Json))
  | object members =>
    if members.all fun m => admissibleName unknown names m.1 then
      names.mapM (uniqueMember? members)
    else none
  | array elements =>
    if elements.length ≤ names.length then
      some (elements.map some ++ List.replicate (names.length - elements.length) none)
    else none
  | _ => none

/-- The name of a variant without content. -/
def variantName? : Json → Option String
  | string name => name
  | object [(name, null)] => name
  | _ => none

end Json

variable {α : Type} [Wire α]

/-- The value of a field that has to be there. -/
def required? (field : Option Json) : Option α := field.bind Wire.ofJson?

/-- The value of a field that may be left out. -/
def optional? (default : α) : Option Json → Option α
  | none => some default
  | some j => Wire.ofJson? j

/-- A text is a string. -/
instance : Wire String where
  toJson := Json.text
  ofJson?
    | .string s => s
    | _ => none

/-- A signed word is an integer in its range. -/
instance : Wire Int64 where
  toJson n := .integer n.toInt
  ofJson?
    | .integer n => if -2 ^ (63 : Nat) ≤ n ∧ n < 2 ^ (63 : Nat) then some (Int64.ofInt n) else none
    | _ => none

/-- An unsigned word is an integer in its range. -/
instance : Wire UInt64 where
  toJson n := .integer n.toNat
  ofJson?
    | .integer n => if 0 ≤ n ∧ n < 2 ^ (64 : Nat) then some (UInt64.ofNat n.toNat) else none
    | _ => none

/-- A missing value is null. -/
instance : Wire (Option α) where
  toJson
    | none => .null
    | some a => Wire.toJson a
  ofJson?
    | .null => some none
    | j => (Wire.ofJson? j).map some

/-- A list is an array. -/
instance : Wire (List α) where
  toJson as := .array (as.map Wire.toJson)
  ofJson?
    | .array js => js.mapM Wire.ofJson?
    | _ => none

end PagedQuery
