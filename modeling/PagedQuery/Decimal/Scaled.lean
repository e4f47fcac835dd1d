import PagedQuery.Decimal.Integer

/-!
# Scaled decimals

A natural number scaled by a power of ten: the exact value of a decimal text, and what a
positional text writes.

## Main definitions

* `Scaled`: `coefficient * 10 ^ exponent`.
* `Scaled.positional d`: `d` with a decimal point and no exponent.
* `readScaled? cs`: the number that the whole of `cs` writes, in positional or
  scientific form.
-/

namespace PagedQuery.Decimal

-- Powers are those of the core library, whatever others are in scope.
attribute [local instance (high)] instPowNat

/-- The number `coefficient * 10 ^ exponent`. -/
structure Scaled where
  /-- The digits, read as a whole number. -/
  coefficient : Nat
  /-- The power of ten that scales them. -/
  exponent : Int
  deriving DecidableEq, Repr

/-! ## Writing -/

/-- The digits of a fraction without the zeros at their end. -/
def trimZeros (ds : List Char) : List Char := (ds.reverse.dropWhile (· == '0')).reverse

/-- A whole part and the digits after the point; no point without a digit after it. -/
def pointed (whole : Nat) (fraction : List Char) : List Char :=
  if fraction.isEmpty then digits whole else digits whole ++ '.' :: fraction

/-- The number in positional form: at least one digit before the point, no zeros at the
end of the fraction, no exponent. -/
def Scaled.positional (d : Scaled) : List Char :=
  if 0 ≤ d.exponent then digits (d.coefficient * 10 ^ d.exponent.toNat)
  else
    let places := (-d.exponent).toNat
    pointed (d.coefficient / 10 ^ places) (trimZeros (padded places (d.coefficient % 10 ^ places)))

/-! ## Reading -/

/-- An exponent is absent, or a signed integer after the letter `e` in either case. -/
def readExponent? : List Char → Option Int
  | [] => some 0
  | c :: cs => if c == 'e' || c == 'E' then readSigned? cs else none

/-- Splits the digits after a decimal point, if there is one, from what follows them. -/
def splitFraction : List Char → List Char × List Char
  | '.' :: cs => (cs.takeWhile Char.isDigit, cs.dropWhile Char.isDigit)
  | cs => ([], cs)

/-- The number that the whole of the text writes: digits with at most one point among
them or at either end, then an exponent. At least one digit stands before or after the
point. -/
def readScaled? (cs : List Char) : Option Scaled :=
  let whole := cs.takeWhile Char.isDigit
  let (fraction, rest) := splitFraction (cs.dropWhile Char.isDigit)
  if whole.isEmpty && fraction.isEmpty then none
  else (readExponent? rest).map fun e => ⟨valueOf (whole ++ fraction), e - fraction.length⟩

end PagedQuery.Decimal
