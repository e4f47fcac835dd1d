import PagedQuery.Binary64.Basic

/-!
# The shortest decimal of a number

A finite number is written with the fewest digits that read back as the same number;
among the decimals with that many digits, it is the one nearest to the number, the upper
one of two that are equally near.

With `n` digits, only two decimals need a test: the neighbours of the number on the grid
of the decimals with `n` digits. Seventeen digits always suffice.

## Main definitions

* `shortest m`: the shortest decimal of the number with index `m`.
* `Binary64.text x`: `x` in positional form, with a minus sign if the sign bit is set.
-/

namespace PagedQuery

-- Powers are those of the core library, whatever others are in scope.
attribute [local instance (high)] instPowNat

namespace Binary64

/-- The power of ten that lifts every positive number above the grids in use. -/
def lift : Nat := 400

/-- The number with index `m`, times `10 ^ lift`, without what lies after the point. -/
def lifted (m : Nat) : Nat := binary64.units m * 10 ^ lift / 2 ^ binary64.scale

/-- The exact value of the number with index `m`. -/
def exact (m : Nat) : Decimal.Scaled :=
  ⟨binary64.units m * 5 ^ binary64.scale, -(binary64.scale : Int)⟩

/-- Which of the neighbours `lower` and `lower + 1` on the grid with step `10 ^ place`
reads back as the number with index `m`. The nearer one is taken if both do. -/
def onGrid? (m : Nat) (lower place : Nat) : Option Decimal.Scaled :=
  let low : Decimal.Scaled := ⟨lower, (place : Int) - lift⟩
  let high : Decimal.Scaled := ⟨lower + 1, (place : Int) - lift⟩
  let lowNearer := binary64.units m * 10 ^ lift * 2
    < (2 * lower + 1) * 10 ^ place * 2 ^ binary64.scale
  match binary64.ofScaled low == m, binary64.ofScaled high == m with
  | true, true => some (if lowNearer then low else high)
  | true, false => some low
  | false, true => some high
  | false, false => none

/-- The shortest decimal with at most seventeen digits that reads back as the number
with index `m`; the exact value if there were none. -/
def shortest (m : Nat) : Decimal.Scaled :=
  let length := (Decimal.digits (lifted m)).length
  let attempt (n : Nat) :=
    let place := length - (n + 1)
    onGrid? m (lifted m / 10 ^ place) place
  ((List.range 17).findSome? attempt).getD (exact m)

/-- A number as text: positional, without an exponent, and without a point if it is
whole. A NaN has no sign. -/
def text (x : Binary64) : List Char :=
  if x.isNaN then "NaN".toList
  else
    let size :=
      if x.isInfinite then "inf".toList
      else if x.magnitude = 0 then ['0']
      else (shortest x.magnitude).positional
    if x.negative then '-' :: size else size

end Binary64

end PagedQuery
