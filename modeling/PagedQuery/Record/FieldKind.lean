/-!
# Kinds of fields

What a field is declared to hold. The kind of a field decides how the text of a filter
is read for it and which comparisons apply.

## Main definitions

* `FieldKind`: the kinds; an enumeration lists the names of its variants.
* `BasicKind`: the kinds without that list, one parser each.
-/

namespace PagedQuery

/-- A kind of field, without the variants of an enumeration. -/
inductive BasicKind where
  | int
  | uint
  | float
  | string
  | char
  | bool
  | dateTime
  | enum
  deriving DecidableEq

namespace BasicKind

/-- All basic kinds, in the order of their declaration. -/
def all : List BasicKind := [int, uint, float, string, char, bool, dateTime, enum]

/-- Every basic kind is listed. -/
theorem mem_all (k : BasicKind) : k ∈ all := by cases k <;> decide

/-- The name of a basic kind. -/
def name : BasicKind → String
  | int => "int"
  | uint => "uint"
  | float => "float"
  | string => "string"
  | char => "char"
  | bool => "bool"
  | dateTime => "datetime"
  | enum => "enum"

end BasicKind

/-- A kind of field. -/
inductive FieldKind where
  /-- A signed integer. -/
  | int
  /-- An unsigned integer. -/
  | uint
  /-- A double precision number. -/
  | float
  | string
  /-- A single character. -/
  | char
  | bool
  /-- A date with a time of day. -/
  | dateTime
  /-- One of the named variants. -/
  | enum (variants : List String)
  deriving DecidableEq

namespace FieldKind

/-- The kind without the variants of an enumeration. -/
def basic : FieldKind → BasicKind
  | int => .int
  | uint => .uint
  | float => .float
  | string => .string
  | char => .char
  | bool => .bool
  | dateTime => .dateTime
  | enum _ => .enum

/-- The name of a kind is that of its basic kind. -/
def name (k : FieldKind) : String := k.basic.name

/-- Only strings can be searched. -/
def isSearchable (k : FieldKind) : Bool := k.basic == .string

end FieldKind

end PagedQuery
