import PagedQuery.Decimal.Natural

/-!
# Decimal integers

Integers written as an optional sign and one or more digits.

## Main definitions

* `integerText n`: the digits of `n`, after a minus sign if it is negative.
* `readUnsigned? cs`, `readSigned? cs`: the number that the whole of `cs` writes. Both
  take a plus sign; a minus sign is for signed numbers, even before zero.
-/

namespace PagedQuery.Decimal

/-- An integer as text: no plus sign, no leading zeros. -/
def integerText : Int → List Char
  | .ofNat n => digits n
  | .negSucc n => '-' :: digits (n + 1)

/-- Reads digits after an optional plus sign. -/
def readUnsigned? : List Char → Option Nat
  | '+' :: cs => readNat? cs
  | cs => readNat? cs

/-- Reads digits after an optional sign. -/
def readSigned? : List Char → Option Int
  | '-' :: cs => (readNat? cs).map fun n => -(n : Int)
  | cs => (readUnsigned? cs).map fun n => (n : Int)

/-- The digits of a number begin with no sign. -/
theorem digits_ne_cons {c : Char} (hc : c.isDigit = false) (n : Nat) (cs : List Char) :
    digits n ≠ c :: cs := fun h => by
  have hmem : c ∈ digits n := h ▸ List.mem_cons_self
  simp [isDigit_of_mem_digits hmem] at hc

/-- A number is read back from its digits. -/
@[simp] theorem readUnsigned?_digits (n : Nat) : readUnsigned? (digits n) = some n := by
  unfold readUnsigned?
  split
  · next cs h => exact absurd h (digits_ne_cons rfl n cs)
  · exact readNat?_digits n

/-- An integer is read back from its text. -/
@[simp] theorem readSigned?_integerText (n : Int) : readSigned? (integerText n) = some n := by
  cases n with
  | ofNat n =>
    unfold readSigned? integerText
    split
    · next cs h => exact absurd h (digits_ne_cons rfl n cs)
    · simp
  | negSucc n => simp [integerText, readSigned?, Int.negSucc_eq]

end PagedQuery.Decimal
