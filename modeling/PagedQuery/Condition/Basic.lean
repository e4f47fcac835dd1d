import PagedQuery.Like.Pattern
import PagedQuery.Record.Schema

/-!
# Conditions

A condition is a tree of comparisons over the fields of one record. A comparison holds
only of a value that is there and is of the kind of the literal: a missing value and a
value of another kind satisfy no comparison, not even an inequality. A NaN equals
nothing, so it satisfies an inequality and nothing else.

## Main definitions

* `OrderRelation`: the relations that two values may be asked to stand in by their
  order.
* `Condition`: the trees.
* `Condition.holds schema c r`: whether `c` holds of the record `r`.
* `Condition.display`: a condition as text.
-/

namespace PagedQuery

/-- A relation between values that their order decides. -/
inductive OrderRelation where
  /-- Less. -/
  | lt
  /-- Less or equal. -/
  | lte
  /-- Greater. -/
  | gt
  /-- Greater or equal. -/
  | gte
  deriving DecidableEq

namespace OrderRelation

/-- Whether values in the given order stand in the relation. -/
def holds : OrderRelation → Ordering → Bool
  | lt, o => o == .lt
  | lte, o => o != .gt
  | gt, o => o == .gt
  | gte, o => o != .lt

/-- The name of a relation. -/
def name : OrderRelation → String
  | lt => "lt"
  | lte => "lte"
  | gt => "gt"
  | gte => "gte"

end OrderRelation

/-- A condition on one record. -/
inductive Condition where
  /-- The field has the value of the literal. -/
  | equals (field : String) (literal : Scalar)
  /-- The field has another value than the literal. -/
  | notEquals (field : String) (literal : Scalar)
  /-- The value of the field stands in a relation to the literal. -/
  | order (field : String) (relation : OrderRelation) (literal : Scalar)
  /-- The field holds a string that the pattern takes. The placement is that of the
  search from which the pattern was made. -/
  | like (field : String) (place : Placement) (pattern : LikePattern)
  /-- Both hold. -/
  | and (left right : Condition)
  /-- At least one holds. -/
  | or (left right : Condition)

namespace Condition

variable {ρ : Type}

/-- Whether a condition holds of a record. -/
def holds (schema : Schema ρ) : Condition → ρ → Bool
  | equals field literal, r =>
    (schema.valueOf field r).bind (·.equals? literal) == some true
  | notEquals field literal, r =>
    (schema.valueOf field r).bind (·.equals? literal) == some false
  | order field relation literal, r =>
    ((schema.valueOf field r).bind (·.compare? literal)).any relation.holds
  | like field _ pattern, r =>
    (schema.valueOf field r).string?.any pattern.accepts
  | and left right, r => left.holds schema r && right.holds schema r
  | or left right, r => left.holds schema r || right.holds schema r

/-- Equality of trees, with the `==` of scalars on literals. -/
def same : Condition → Condition → Bool
  | equals f a, equals g b => f == g && a == b
  | notEquals f a, notEquals g b => f == g && a == b
  | order f q a, order g r b => f == g && q == r && a == b
  | like f o p, like g q r => f == g && o == q && p == r
  | and a b, and c d => a.same c && b.same d
  | or a b, or c d => a.same c && b.same d
  | _, _ => false

instance : BEq Condition := ⟨same⟩

/-- A condition as text, with every conjunction and disjunction in brackets. -/
def display : Condition → String
  | equals field literal => field ++ " eq " ++ literal.display
  | notEquals field literal => field ++ " ne " ++ literal.display
  | order field relation literal => field ++ " " ++ relation.name ++ " " ++ literal.display
  | like field _ pattern => field ++ " like " ++ Text.quoteString pattern.text
  | and left right => "(" ++ left.display ++ " and " ++ right.display ++ ")"
  | or left right => "(" ++ left.display ++ " or " ++ right.display ++ ")"

end Condition

end PagedQuery
