import PagedQuery.Literal.Reader

/-!
# Tables of parsers

A table holds at most one parser for each basic kind. What has no parser cannot be read,
so filters on fields of that kind do not apply.

## Main definitions

* `ParserTable`: a parser for some of the basic kinds; `empty` has none, `standard` one
  for each.
* `ParserTable.set`: a table with one parser added or replaced.
* `ParserTable.parse?`: reads a text for a field of a given kind.
-/

namespace PagedQuery

/-- The parsers in use. -/
structure ParserTable where
  /-- The parser for a basic kind. -/
  find? : BasicKind → Option Literal.Parser

namespace ParserTable

/-- No parsers. -/
def empty : ParserTable := ⟨fun _ => none⟩

/-- The parser that each basic kind usually has. -/
def standardParser : BasicKind → Literal.Parser
  | .int => Literal.int?
  | .uint => Literal.uint?
  | .float => Literal.float?
  | .string => Literal.string?
  | .char => Literal.char?
  | .bool => Literal.bool?
  | .dateTime => Literal.dateTime?
  | .enum => Literal.enum?

/-- The usual parser for every basic kind. -/
def standard : ParserTable := ⟨fun kind => some (standardParser kind)⟩

variable (table : ParserTable)

/-- Uses a parser for a basic kind, in place of the one before if there is one. -/
def set (kind : BasicKind) (parser : Literal.Parser) : ParserTable :=
  ⟨fun k => if k = kind then some parser else table.find? k⟩

/-- The parser set last is found. -/
@[simp] theorem find?_set_self (kind : BasicKind) (parser : Literal.Parser) :
    (table.set kind parser).find? kind = some parser :=
  if_pos rfl

/-- Every other parser stays. -/
theorem find?_set_of_ne {k kind : BasicKind} (h : k ≠ kind) (parser : Literal.Parser) :
    (table.set kind parser).find? k = table.find? k :=
  if_neg h

/-- Holds of the basic kinds that have a parser. -/
def has (kind : BasicKind) : Bool := (table.find? kind).isSome

/-- Reads a text for a field of a given kind. -/
def parse? (text : String) (kind : FieldKind) : Option Scalar :=
  (table.find? kind.basic).bind fun parser => parser text kind

/-- The names of the basic kinds that have a parser, in alphabetical order. -/
def names : List String :=
  ((BasicKind.all.filter table.has).map BasicKind.name).mergeSort fun a b => decide (a ≤ b)

/-- A table as text: the names of its basic kinds. -/
def describe : String :=
  "ParserRegistry \x7b kinds: " ++ Text.quoteList table.names ++ " \x7d"

end ParserTable

end PagedQuery
