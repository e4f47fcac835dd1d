/-!
# Connectors

How a filter joins the filters before it.

## Main definitions

* `Connector`: the connectors of a request.
* `ConnectorPolicy`: what a missing connector means.
* `Connector.joint`: the effect of a connector under a policy.
-/

namespace PagedQuery

/-- How a filter joins the filters before it. -/
inductive Connector where
  /-- The request does not say. -/
  | missing
  | and
  /-- The conjunction that need not look at its right side; it means the same. -/
  | andAlso
  | or
  /-- The disjunction that need not look at its right side; it means the same. -/
  | orElse
  deriving DecidableEq

/-- What becomes of a filter without a connector. -/
inductive ConnectorPolicy where
  /-- It is a further requirement. -/
  | conjoin
  /-- It is dropped. -/
  | discard
  deriving DecidableEq

/-- The effect of a connector. -/
inductive Joint where
  | conjunction
  | disjunction
  /-- What is joined has no effect. -/
  | dropped
  deriving DecidableEq

namespace Connector

/-- Holds of the two conjunctions. -/
def conjoins : Connector → Bool
  | and => true
  | andAlso => true
  | _ => false

/-- Holds of the two disjunctions. -/
def disjoins : Connector → Bool
  | or => true
  | orElse => true
  | _ => false

/-- The effect of a connector under a policy. -/
def joint (policy : ConnectorPolicy) : Connector → Joint
  | and => .conjunction
  | andAlso => .conjunction
  | or => .disjunction
  | orElse => .disjunction
  | missing =>
    match policy with
    | .conjoin => .conjunction
    | .discard => .dropped

end Connector

end PagedQuery
