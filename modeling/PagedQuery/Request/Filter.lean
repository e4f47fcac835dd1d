import PagedQuery.Condition.Basic
import PagedQuery.Request.Connector

/-!
# Filters

A filter as a request carries it: the name of a field, a text to compare with, the
comparison, and the connector to the filters before it. Nothing of it has been checked
against a schema. The key and the text may be absent, but a list of filters is accepted
only if no filter lacks either.

## Main definitions

* `Comparison`: what a filter may ask of a field.
* `Filter`: a filter of a request.
* `Filter.lacks?`: the part that a filter lacks.
* `firstIncomplete?`: the first filter of a list that lacks a part.
-/

namespace PagedQuery

/-- What a filter may ask of a field. -/
inductive Comparison where
  /-- Nothing: the filter has no effect. -/
  | nothing
  | equals
  | notEquals
  /-- The field stands in a relation to the text. -/
  | order (relation : OrderRelation)
  /-- The field contains the text in the given place. -/
  | search (place : Placement)
  deriving DecidableEq

namespace Comparison

/-- All comparisons. -/
def all : List Comparison :=
  [nothing, equals, notEquals, order .lt, order .lte, order .gt, order .gte, search .anywhere,
    search .atStart, search .atEnd]

/-- Every comparison is listed. -/
theorem mem_all (c : Comparison) : c ∈ all := by
  cases c with
  | nothing => decide
  | equals => decide
  | notEquals => decide
  | order relation => cases relation <;> decide
  | search place => cases place <;> decide

/-- The name of a comparison. -/
def name : Comparison → String
  | nothing => "none"
  | equals => "eq"
  | notEquals => "ne"
  | order relation => relation.name
  | search place => place.name

end Comparison

/-- A filter of a request. -/
structure Filter where
  /-- The name of the field to compare. -/
  key : Option String
  /-- The text to compare with. -/
  value : Option String
  comparison : Comparison
  connector : Connector
  deriving DecidableEq

/-- A part that a filter must have. -/
inductive FilterPart where
  | key
  | value
  deriving DecidableEq

/-- The name of a part. -/
def FilterPart.name : FilterPart → String
  | key => "key"
  | value => "value"

namespace Filter

/-- The filter that has all parts but a connector. -/
def of (key : String) (comparison : Comparison) (value : String) : Filter :=
  ⟨some key, some value, comparison, .missing⟩

/-- Holds of a part that is absent or empty. -/
def isBlank (part : Option String) : Bool := part.getD "" == ""

/-- The part that a filter lacks, the key before the value. -/
def lacks? (f : Filter) : Option FilterPart :=
  if isBlank f.key then some .key
  else if isBlank f.value then some .value
  else none

end Filter

/-- The position of the first filter that lacks a part, and the part it lacks. -/
def firstIncomplete? : List Filter → Option (Nat × FilterPart)
  | [] => none
  | f :: fs =>
    match f.lacks? with
    | some part => some (0, part)
    | none => (firstIncomplete? fs).map fun (index, part) => (index + 1, part)

end PagedQuery
