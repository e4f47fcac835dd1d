import PagedQuery.Calendar.Reader
import PagedQuery.Record.FieldKind
import PagedQuery.Record.Scalar
import PagedQuery.Text.Blank

/-!
# Reading literals

How the text of a filter is read as a scalar. A text that does not fit gives nothing:
the filter then does not apply.

## Main definitions

* `Literal.Parser`: a way to read a text for a field of a given kind.
* `Literal.int?`, `Literal.uint?`, `Literal.float?`, `Literal.string?`, `Literal.char?`,
  `Literal.bool?`, `Literal.dateTime?`, `Literal.enum?`: the parser for each basic kind.
-/

namespace PagedQuery

namespace Literal

open Text

/-- A way to read a text for a field of a given kind. -/
abbrev Parser := String → FieldKind → Option Scalar

/-- A signed integer, with blanks around it. -/
def int? : Parser := fun s _ => (Number.readInt? (trim s.toList)).map .number

/-- An unsigned integer, with blanks around it. -/
def uint? : Parser := fun s _ => (Number.readUInt? (trim s.toList)).map .number

/-- A double precision number, with blanks around it. -/
def float? : Parser := fun s _ => (Number.readFloat? (trim s.toList)).map .number

/-- The text as it is. -/
def string? : Parser := fun s _ => some (.string s)

/-- The only character of a text. -/
def single? : List Char → Option Scalar
  | [c] => some (.char c)
  | _ => none

/-- A character. Blanks around it are dropped, but a text of one character stands for
that character even if it is blank. -/
def char? : Parser := fun s _ =>
  if s.toList.length ≤ 1 then single? s.toList else single? (trim s.toList)

/-- Equality of texts up to the case of ASCII letters. -/
def equalsIgnoringCase (a b : List Char) : Bool := a.map Char.toLower == b.map Char.toLower

/-- A truth value in any case, with blanks around it. -/
def bool? : Parser := fun s _ =>
  let word := trim s.toList
  if equalsIgnoringCase word "true".toList then some (.bool true)
  else if equalsIgnoringCase word "false".toList then some (.bool false)
  else none

/-- A date and time, with blanks around it. -/
def dateTime? : Parser := fun s _ => (readDateTime? (trim s.toList)).map .dateTime

/-- The position of the first variant with the given name, in any case and with blanks
around it. It reads nothing for other kinds than enumerations. -/
def enum? : Parser := fun s kind =>
  match kind with
  | .enum variants =>
    let name := trim s.toList
    (variants.findIdx? fun v => equalsIgnoringCase v.toList name).map .variant
  | _ => none

end Literal

end PagedQuery
