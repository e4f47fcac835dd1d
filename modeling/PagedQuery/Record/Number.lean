import PagedQuery.Binary64.Reader
import PagedQuery.Binary64.Shortest

/-!
# Numbers

A number is a signed or unsigned 64-bit integer or a double precision number. Integers
compare by their value whatever their signedness; next to a double precision number an
integer is rounded to double precision first.

Two relations look alike and are not. `compare?` is the order of values. The `==` of
numbers also asks for the same representation, so the signed and the unsigned 5 differ
in it.

## Main definitions

* `Number`: the numbers.
* `Number.compare?`: the order of values, absent next to a NaN; `compareSigns` for two
  integers of which only one is signed.
* `Number.sortCompare`: the order for sorting, with all NaN equal and above every other
  number.
* `Number.display`: a number as text.
* `Number.readInt?`, `Number.readUInt?`, `Number.readFloat?`: a number from a text
  without blanks around it.
-/

namespace PagedQuery

-- Powers are those of the core library, whatever others are in scope.
attribute [local instance (high)] instPowNat

/-- A number and how it is represented. -/
inductive Number where
  /-- A signed integer. -/
  | int (n : Int64)
  /-- An unsigned integer. -/
  | uint (n : UInt64)
  /-- A double precision number. -/
  | float (x : Binary64)

namespace Number

/-- The value of an integer. -/
def toInt? : Number → Option Int
  | int n => some n.toInt
  | uint n => some n.toNat
  | float _ => none

/-- The number in double precision. -/
def toBinary64 : Number → Binary64
  | int n => .ofInt n.toInt
  | uint n => .ofInt n.toNat
  | float x => x

/-- Holds of a NaN. -/
def isNaN : Number → Bool
  | float x => x.isNaN
  | _ => false

/-! ## Order and equality -/

/-- The order of a signed and an unsigned integer. One below zero is less than every unsigned
one, and any other is an unsigned one itself. -/
def compareSigns (m : Int64) (n : UInt64) : Ordering :=
  if m < 0 then .lt else compare m.toUInt64 n

/-- The order of two values: exact between integers, in double precision otherwise. -/
def compare? : Number → Number → Option Ordering
  | int m, int n => some (compare m n)
  | uint m, uint n => some (compare m n)
  | float x, float y => x.compare? y
  | int m, uint n => some (compareSigns m n)
  | uint m, int n => some (compareSigns n m).swap
  | a, b => a.toBinary64.compare? b.toBinary64

/-- The order for sorting: the order of values, with every NaN last. -/
def sortCompare (a b : Number) : Ordering :=
  if a.isNaN || b.isNaN then compare a.isNaN b.isNaN
  else (a.compare? b).getD .eq

/-- The same representation and the same value. A NaN equals nothing, and the two zeros
are equal. -/
instance : BEq Number where
  beq
    | int m, int n => m == n
    | uint m, uint n => m == n
    | float x, float y => x.compare? y == some .eq
    | _, _ => false

/-! ## Text -/

/-- A number as text. -/
def display : Number → String
  | int n => String.ofList (Decimal.integerText n.toInt)
  | uint n => String.ofList (Decimal.digits n.toNat)
  | float x => String.ofList x.text

/-- The signed word with the given value, if it is in range. -/
def int64? (n : Int) : Option Int64 :=
  if -2 ^ (63 : Nat) ≤ n ∧ n < 2 ^ (63 : Nat) then some (Int64.ofInt n) else none

/-- The unsigned word with the given value, if it is in range. -/
def uint64? (n : Nat) : Option UInt64 :=
  if n < 2 ^ (64 : Nat) then some (UInt64.ofNat n) else none

/-- The signed integer that the whole of the text writes. -/
def readInt? (cs : List Char) : Option Number :=
  ((Decimal.readSigned? cs).bind int64?).map int

/-- The unsigned integer that the whole of the text writes. -/
def readUInt? (cs : List Char) : Option Number :=
  ((Decimal.readUnsigned? cs).bind uint64?).map uint

/-- The double precision number that the whole of the text writes. -/
def readFloat? (cs : List Char) : Option Number :=
  (Binary64.read? cs).map float

end Number

end PagedQuery
