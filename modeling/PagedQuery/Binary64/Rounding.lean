import PagedQuery.Decimal.Scaled

/-!
# Rounding to a binary format

The finite numbers of a binary interchange format, counted from zero upwards. The number
with index `m` is the one whose sign-free bit pattern, read as a natural number, is `m`;
the value of the number grows with its index. Values are measured in units of the least
positive one.

A number between two of the format goes to the nearer, and one half way between them to
the one with the even index. Whatever lies half a step or more beyond the largest finite
number is infinite.

## Main definitions

* `BinaryFormat`: the widths of a format; `binary32` and `binary64` are the two in use.
* `BinaryFormat.units m`: the value of the number with index `m`.
* `BinaryFormat.below u`: the index of the greatest number not above `u` units.
* `BinaryFormat.nearest num den`: the index of the number nearest to `num / den` units.
* `BinaryFormat.ofScaled d`: the index of the number nearest to the decimal `d`.
-/

namespace PagedQuery

-- Powers are those of the core library, whatever others are in scope.
attribute [local instance (high)] instPowNat

/-- A binary interchange format, without its sign. -/
structure BinaryFormat where
  /-- The number of bits of the fraction. -/
  fractionBits : Nat
  /-- The least positive value is `2 ^ (-scale)`. -/
  scale : Nat
  /-- The exponent field of infinity. -/
  topExponent : Nat

/-- Single precision. -/
def binary32 : BinaryFormat := ⟨23, 149, 255⟩

/-- Double precision. -/
def binary64 : BinaryFormat := ⟨52, 1074, 2047⟩

namespace BinaryFormat

variable (f : BinaryFormat)

/-- The index of infinity. -/
def infinity : Nat := f.topExponent * 2 ^ f.fractionBits

/-- The index of a quiet NaN. Every index above infinity is one of a NaN. -/
def quietNaN : Nat := f.infinity + 2 ^ (f.fractionBits - 1)

/-- The value of the number with index `m`. The subnormal numbers and the first binade
of normal ones are one unit apart; from there on each binade doubles the distance. -/
def units (m : Nat) : Nat :=
  if m < 2 ^ (f.fractionBits + 1) then m
  else (2 ^ f.fractionBits + m % 2 ^ f.fractionBits) * 2 ^ (m / 2 ^ f.fractionBits - 1)

/-- The index of the greatest number not above `u` units. -/
def below (u : Nat) : Nat :=
  let s := u.log2 - f.fractionBits
  s * 2 ^ f.fractionBits + u / 2 ^ s

/-- The index of the number nearest to `num / den` units; a tie goes to the even index. -/
def nearest (num den : Nat) : Nat :=
  let lower := f.below (num / den)
  let middle := (f.units lower + f.units (lower + 1)) * den
  min f.infinity <|
    if 2 * num < middle then lower
    else if middle < 2 * num then lower + 1
    else lower + lower % 2

/-- Rounding never goes beyond infinity. -/
theorem nearest_le_infinity (num den : Nat) : f.nearest num den ≤ f.infinity :=
  Nat.min_le_left ..

/-- The index of the number nearest to a decimal. -/
def ofScaled (d : Decimal.Scaled) : Nat :=
  if 0 ≤ d.exponent then f.nearest (d.coefficient * 10 ^ d.exponent.toNat * 2 ^ f.scale) 1
  else f.nearest (d.coefficient * 2 ^ f.scale) (10 ^ (-d.exponent).toNat)

/-- The index of the number nearest to a natural number. -/
def ofNat (n : Nat) : Nat := f.nearest (n * 2 ^ f.scale) 1

end BinaryFormat

end PagedQuery
