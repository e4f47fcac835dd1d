import PagedQuery.Calendar.Printer
import PagedQuery.Text.Quoted
import PagedQuery.Record.Number

/-!
# Scalars and field values

A scalar is a value of one of six kinds. Scalars appear on both sides of a comparison:
as what a field of a record holds, and as the literal that a filter compares it with. A
field may also hold nothing.

Comparison is defined within a kind. Strings and characters compare by code points,
dates by time, enumeration values by their position, and false comes before true.

## Main definitions

* `Scalar`, and `FieldValue` for a scalar that may be missing.
* `Scalar.compare?`, `Scalar.equals?`: a value against a literal, as filters see it.
* `Scalar.sortCompare?`, `FieldValue.compare?`: the same with the order for sorting.
* `Scalar.display`: a scalar as text.
-/

namespace PagedQuery

/-- A value of one of the six kinds. -/
inductive Scalar where
  | string (s : String)
  | number (n : Number)
  | char (c : Char)
  | dateTime (d : DateTime)
  /-- The position of a variant in its enumeration. -/
  | variant (index : Nat)
  | bool (b : Bool)

namespace Scalar

/-- The order of two scalars of one kind. There is none between two kinds, nor next to a
NaN. -/
def compare? : Scalar → Scalar → Option Ordering
  | string a, string b => some (compare a b)
  | number a, number b => a.compare? b
  | char a, char b => some (compare a b)
  | dateTime a, dateTime b => some (a.order b)
  | variant a, variant b => some (compare a b)
  | bool a, bool b => some (compare a b)
  | _, _ => none

/-- Whether two scalars of one kind have the same value. A NaN is a number like any
other here, and equals nothing. -/
def equals? : Scalar → Scalar → Option Bool
  | number a, number b => some (a.compare? b == some .eq)
  | a, b => (a.compare? b).map (· == .eq)

/-- The order of two scalars of one kind for sorting. -/
def sortCompare? : Scalar → Scalar → Option Ordering
  | number a, number b => some (a.sortCompare b)
  | a, b => a.compare? b

/-- The same kind, and the same content in the sense of `Number`'s `==`. -/
instance : BEq Scalar where
  beq
    | string a, string b => a == b
    | number a, number b => a == b
    | char a, char b => a == b
    | dateTime a, dateTime b => a == b
    | variant a, variant b => a == b
    | bool a, bool b => a == b
    | _, _ => false

/-- Holds of a NaN. -/
def isNaN : Scalar → Bool
  | number n => n.isNaN
  | _ => false

/-- The string, if the scalar is one. -/
def string? : Scalar → Option String
  | string s => some s
  | _ => none

/-- A scalar as text: strings and characters quoted, variants by position. -/
def display : Scalar → String
  | string s => Text.quoteString s
  | number n => n.display
  | char c => Text.quoteChar c
  | dateTime d => String.ofList d.text
  | variant index => "#" ++ String.ofList (Decimal.digits index)
  | bool b => if b then "true" else "false"

end Scalar

/-- What a field of a record holds: a scalar, or nothing. -/
abbrev FieldValue := Option Scalar

namespace FieldValue

/-- Holds of the values that sort after all others: the missing one and the NaN. -/
def comesLast : FieldValue → Bool
  | none => true
  | some v => v.isNaN

/-- The string that a field holds, if it holds one. -/
def string? (v : FieldValue) : Option String := v.bind Scalar.string?

/-- The order for sorting, with missing values last. -/
def compare? : FieldValue → FieldValue → Option Ordering
  | some a, some b => a.sortCompare? b
  | none, none => some .eq
  | none, some _ => some .gt
  | some _, none => some .lt

end FieldValue

end PagedQuery
