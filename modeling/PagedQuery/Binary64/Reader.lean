import PagedQuery.Binary64.Basic

/-!
# Reading double precision numbers

A number is a decimal, or a word for infinity or NaN in any case, after an optional
sign. A decimal is rounded to the nearest number of the format.

## Main definitions

* `Numeral`: what a text says, before it is rounded to a format.
* `readNumeral? cs`: the sign and the numeral that `cs` writes.
* `Binary64.read? cs`: the double precision number that `cs` writes.
-/

namespace PagedQuery

/-- What a text says about the size of a number. -/
inductive Numeral where
  | infinity
  | nan
  | decimal (d : Decimal.Scaled)

/-- The numeral that the whole of the text writes, signs aside. -/
def readUnsignedNumeral? (cs : List Char) : Option Numeral :=
  let word := cs.map Char.toLower
  if word == "inf".toList || word == "infinity".toList then some .infinity
  else if word == "nan".toList then some .nan
  else (Decimal.readScaled? cs).map .decimal

/-- The sign and the numeral that the whole of the text writes; the sign is set after a
minus. -/
def readNumeral? : List Char → Option (Bool × Numeral)
  | '-' :: cs => (readUnsignedNumeral? cs).map (true, ·)
  | '+' :: cs => (readUnsignedNumeral? cs).map (false, ·)
  | cs => (readUnsignedNumeral? cs).map (false, ·)

/-- The decimal with its exponent cut to a range that is small enough to compute with. A
decimal that is cut is zero, or lies so far outside the formats in use that it rounds to
zero or to infinity before and after. -/
def Decimal.Scaled.clamped (d : Decimal.Scaled) : Decimal.Scaled :=
  let length := (Decimal.digits d.coefficient).length
  ⟨d.coefficient, max (-(2000 + length : Int)) (min 2000 d.exponent)⟩

/-- The index of a numeral in a format. -/
def BinaryFormat.ofNumeral (f : BinaryFormat) : Numeral → Nat
  | .infinity => f.infinity
  | .nan => f.quietNaN
  | .decimal d => f.ofScaled d.clamped

namespace Binary64

/-- A numeral with its sign, rounded to double precision. -/
def ofNumeral (negative : Bool) : Numeral → Binary64
  | .infinity => infinite negative
  | .nan => quietNaN negative
  | .decimal d => ofScaled negative d.clamped

/-- The number that the whole of the text writes. -/
def read? (cs : List Char) : Option Binary64 :=
  (readNumeral? cs).map fun (negative, n) => ofNumeral negative n

/-- The number that the whole of the text writes, rounded to single precision first. -/
def readSingle? (cs : List Char) : Option Binary64 :=
  (readNumeral? cs).map fun (negative, n) => widen negative (binary32.ofNumeral n)

end Binary64

end PagedQuery
