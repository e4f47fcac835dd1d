import PagedQuery.Request.Filter

/-!
# Refusals

Why a request for a page is refused. What a request gets wrong about the fields of the
records is no reason: filters and sortings that do not apply are left out.

## Main definitions

* `Refusal`: the reasons; `Refusal.message`: the text of each.
-/

namespace PagedQuery

/-- A number of a page request. -/
inductive PageArgument where
  | page
  | pageSize
  deriving DecidableEq

/-- The name of an argument. -/
def PageArgument.name : PageArgument → String
  | page => "page"
  | pageSize => "page_size"

/-- What is wrong with an argument. -/
inductive ArgumentFault where
  /-- The value is not positive. -/
  | notPositive (value : Int)
  /-- The value exceeds a bound. -/
  | aboveBound (bound value : Nat)
  deriving DecidableEq

/-- The text of a fault. -/
def ArgumentFault.message : ArgumentFault → String
  | notPositive value => "must be at least 1, got " ++ toString value
  | aboveBound bound value => "must be at most " ++ toString bound ++ ", got " ++ toString value

/-- A reason to refuse a page request. -/
inductive Refusal where
  /-- An argument is out of its range. -/
  | badArgument (argument : PageArgument) (fault : ArgumentFault)
  /-- The filter at a position lacks a part. -/
  | incompleteFilter (index : Nat) (part : FilterPart)
  /-- There are fewer pages than the page asked for. -/
  | noSuchPage (page pageCount : Nat)
  deriving DecidableEq

/-- The text of a refusal. -/
def Refusal.message : Refusal → String
  | badArgument argument fault =>
    "invalid argument `" ++ argument.name ++ "`: " ++ fault.message
  | incompleteFilter index part => "filter #" ++ toString index ++ " has an empty " ++ part.name
  | noSuchPage page pageCount =>
    "page " ++ toString page ++ " is out of range: the result has " ++ toString pageCount
      ++ " page(s)"

end PagedQuery
