import PagedQuery.Condition.Basic
import PagedQuery.Request.Connector

/-!
# Joining conditions

A list of filters means one condition, read from left to right: the first condition
there is starts it, and every further one joins what came before by its own connector.
There is no precedence, and a filter without a condition leaves no trace.

## Main definitions

* `Condition.join joint before c`: `c` joined to what came before it.
* `Condition.joinAll policy cs`: the condition of a whole list.
-/

namespace PagedQuery

namespace Condition

/-- Joins a condition to those before it. -/
def join (joint : Joint) (before c : Condition) : Condition :=
  match joint with
  | .conjunction => before.and c
  | .disjunction => before.or c
  | .dropped => before

/-- Adds the condition of one filter, if it has one, to the condition of the filters
before it. -/
def extend (policy : ConnectorPolicy) :
    Option Condition → Option Condition × Connector → Option Condition
  | before, (none, _) => before
  | none, (some c, _) => some c
  | some before, (some c, connector) => some (join (connector.joint policy) before c)

/-- The condition of a list of filters, each given by its condition, if it has one, and
its connector. -/
def joinAll (policy : ConnectorPolicy) (cs : List (Option Condition × Connector)) :
    Option Condition :=
  cs.foldl (extend policy) none

end Condition

end PagedQuery
