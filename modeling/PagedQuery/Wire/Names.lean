import PagedQuery.Request.Filter
import PagedQuery.View.SortKey
import PagedQuery.Wire.Codec

/-!
# Variants as JSON documents

Comparisons, connectors, placements, policies and directions are variants without
content, each written under a name of its own.

## Main definitions

* `Named α`: the variants of a type with their names; each such type has documents.
-/

namespace PagedQuery

/-- A type of variants without content, each with a name of its own. -/
class Named (α : Type) where
  /-- All variants. -/
  all : List α
  /-- The name of a variant in documents. -/
  wireName : α → String

/-- A variant is written by its name. -/
instance {α : Type} [Named α] : Wire α where
  toJson a := .text (Named.wireName a)
  ofJson? j := j.variantName?.bind fun name => Named.all.find? fun a => Named.wireName a == name

instance : Named Placement where
  all := [.anywhere, .atStart, .atEnd]
  wireName
    | .anywhere => "Contains"
    | .atStart => "StartsWith"
    | .atEnd => "EndsWith"

instance : Named Comparison where
  all := Comparison.all
  wireName
    | .nothing => "None"
    | .equals => "Equals"
    | .notEquals => "NotEquals"
    | .order .lt => "LessThan"
    | .order .lte => "LessThanOrEquals"
    | .order .gt => "GreaterThan"
    | .order .gte => "GreaterThanOrEquals"
    | .search place => Named.wireName place

instance : Named Connector where
  all := [.missing, .and, .andAlso, .or, .orElse]
  wireName
    | .missing => "None"
    | .and => "And"
    | .andAlso => "AndAlso"
    | .or => "Or"
    | .orElse => "OrElse"

instance : Named ConnectorPolicy where
  all := [.conjoin, .discard]
  wireName
    | .conjoin => "and"
    | .discard => "discard"

instance : Named Direction where
  all := [.asc, .desc]
  wireName := Direction.name

end PagedQuery
