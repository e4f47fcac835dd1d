import PagedQuery.Binary64.Rounding

/-!
# Double precision numbers

A double precision number is a sign and the index of its size among the sign-free
numbers of the format, so two numbers are equal as terms exactly if their bit patterns
are. The order on numbers is another matter: both zeros are equal in it, and a NaN
compares with nothing.

## Main definitions

* `Binary64`: the numbers; `ofInt` rounds an integer, `widen` takes single precision
  over exactly.
* `Binary64.key x`: the integer by which numbers other than NaN are ordered.
* `Binary64.compare? x y`: the order, absent if either is a NaN.
-/

namespace PagedQuery

-- Powers are those of the core library, whatever others are in scope.
attribute [local instance (high)] instPowNat

/-- A double precision number. -/
structure Binary64 where
  /-- The sign bit. -/
  negative : Bool
  /-- The other bits, read as a natural number. -/
  magnitude : Nat
  /-- The sign aside, there are 63 bits. -/
  magnitude_lt : magnitude < 2 ^ (63 : Nat)
  deriving DecidableEq

namespace Binary64

/-- The index of infinity leaves the sign bit alone. -/
theorem infinity_lt : binary64.infinity < 2 ^ (63 : Nat) := by decide

/-- A rounded size with a sign. -/
def ofMagnitude (negative : Bool) (m : Nat) (h : m ≤ binary64.infinity) : Binary64 :=
  ⟨negative, m, Nat.lt_of_le_of_lt h infinity_lt⟩

/-- Positive or negative infinity. -/
def infinite (negative : Bool) : Binary64 :=
  ofMagnitude negative binary64.infinity (Nat.le_refl _)

/-- A quiet NaN. -/
def quietNaN (negative : Bool) : Binary64 := ⟨negative, binary64.quietNaN, by decide⟩

/-- The number nearest to a decimal with a sign. -/
def ofScaled (negative : Bool) (d : Decimal.Scaled) : Binary64 :=
  ofMagnitude negative (binary64.ofScaled d) <| by
    unfold BinaryFormat.ofScaled; split <;> exact BinaryFormat.nearest_le_infinity ..

/-- The number nearest to an integer. -/
def ofInt (n : Int) : Binary64 :=
  ofMagnitude (n < 0) (binary64.ofNat n.natAbs) (BinaryFormat.nearest_le_infinity ..)

/-- The single precision number with the given sign and index, in double precision.
Every finite one is a double precision number, so rounding leaves it as it is. -/
def widen (negative : Bool) (m : Nat) : Binary64 :=
  if binary32.infinity < m then quietNaN negative
  else if m = binary32.infinity then infinite negative
  else ofMagnitude negative
    (binary64.nearest (binary32.units m * 2 ^ (binary64.scale - binary32.scale)) 1)
    (BinaryFormat.nearest_le_infinity ..)

/-- Holds of the numbers that are none. -/
def isNaN (x : Binary64) : Bool := binary64.infinity < x.magnitude

/-- Holds of the two infinities. -/
def isInfinite (x : Binary64) : Bool := x.magnitude == binary64.infinity

/-- The size, below zero for a negative number. Both zeros have the key zero. -/
def key (x : Binary64) : Int := if x.negative then -x.magnitude else x.magnitude

/-- The order of two numbers, if neither is a NaN. -/
def compare? (x y : Binary64) : Option Ordering :=
  if x.isNaN || y.isNaN then none else some (compare x.key y.key)

/-- A NaN compares with nothing, itself included. -/
theorem compare?_of_isNaN {x : Binary64} (h : x.isNaN = true) (y : Binary64) :
    x.compare? y = none := by
  simp [compare?, h]

end Binary64

end PagedQuery
