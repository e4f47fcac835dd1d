/-!
# Decimal digits

Natural numbers written with the ten ASCII digits, as lists of characters.

## Main definitions

* `digits n`: the digits of `n`, without leading zeros.
* `padded width n`: the digits of `n` after as many zeros as make `width` characters.
* `valueOf ds`: the number that the digits `ds` write.
* `readNat? cs`: the number that the whole of `cs` writes.
* `readDigits? least most cs`: a number from the front of `cs`, and what follows it.
-/

namespace PagedQuery.Decimal

/-- The digits of a number, without leading zeros. -/
def digits (n : Nat) : List Char := Nat.toDigits 10 n

/-- The number that a list of digits writes. -/
def valueOf (ds : List Char) : Nat := Nat.ofDigitChars 10 ds 0

/-- Reading the digits of a number gives the number. -/
@[simp] theorem valueOf_digits (n : Nat) : valueOf (digits n) = n := Nat.ofDigitChars_ten_toDigits

/-- The digits of a number are digits. -/
theorem isDigit_of_mem_digits {n : Nat} {c : Char} (h : c ∈ digits n) : c.isDigit = true :=
  Nat.isDigit_of_mem_toDigits (by decide) (by decide) h

/-- The digits of a number, with leading zeros up to `width` characters. -/
def padded (width n : Nat) : List Char :=
  List.replicate (width - (digits n).length) '0' ++ digits n

/-- The number written by the whole of the text: one or more digits. -/
def readNat? (cs : List Char) : Option Nat :=
  if cs.isEmpty || !cs.all Char.isDigit then none else some (valueOf cs)

/-- Reads a number of at least `least` and at most `most` digits from the front of the
text. -/
def readDigits? (least most : Nat) (cs : List Char) : Option (Nat × List Char) :=
  let ds := (cs.take most).takeWhile Char.isDigit
  if ds.length < least then none else some (valueOf ds, cs.drop ds.length)

/-- A number is read back from its digits. -/
@[simp] theorem readNat?_digits (n : Nat) : readNat? (digits n) = some n := by
  have hne : digits n ≠ [] := Nat.toDigits_ne_nil
  have hall : (digits n).all Char.isDigit = true :=
    List.all_eq_true.2 fun _ h => isDigit_of_mem_digits h
  simp [readNat?, hne, hall]

end PagedQuery.Decimal
