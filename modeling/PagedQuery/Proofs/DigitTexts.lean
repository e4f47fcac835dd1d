import Mathlib.Data.List.TakeWhile
import PagedQuery.Decimal.Integer

/-!
# Digits in a text

A reader takes digits up to the first character that is none. It stops at the end of a
number if what follows does not go on with a digit, and looks at nothing behind that.

## Main definitions

* `EndsNumber rest`: the text `rest` does not go on with a digit.
-/

namespace PagedQuery.Decimal

-- Powers are those of the core library, whatever others are in scope.
attribute [local instance (high)] instPowNat

/-! ## Digits of a number -/

theorem digits_ne_nil (n : Nat) : digits n ≠ [] := Nat.toDigits_ne_nil

/-- Only zero is written with a leading zero. -/
theorem eq_zero_of_head?_digits {n : Nat} (h : (digits n).head? = some '0') : n = 0 := by
  induction n using Nat.strong_induction_on with
  | _ n ih =>
    by_cases hn : n < 10
    · have hchar : ∀ k < 10, k.digitChar = '0' → k = 0 := by decide
      rw [digits, Nat.toDigits_of_lt_base hn] at h
      exact hchar n hn (Option.some.inj h)
    · have hsplit : digits n = digits (n / 10) ++ [(n % 10).digitChar] :=
        Nat.toDigits_of_base_le (by decide) (Nat.le_of_not_lt hn)
      have hinit : (digits (n / 10)).head? = some '0' := by
        rwa [hsplit, List.head?_append, Option.or_of_isSome] at h
        rw [List.isSome_head?]
        exact digits_ne_nil _
      have hzero : n / 10 = 0 := ih _ (by omega) hinit
      omega

section

variable {width n : Nat}

theorem isDigit_of_mem_padded {c : Char} (h : c ∈ padded width n) : c.isDigit = true := by
  rcases List.mem_append.1 h with hzero | hdigit
  · rw [List.eq_of_mem_replicate hzero]
    rfl
  · exact isDigit_of_mem_digits hdigit

theorem padded_zero (n : Nat) : padded 0 n = digits n := by rw [padded, Nat.zero_sub]; rfl

/-- A number begins with a digit. -/
theorem exists_padded_eq_cons (width n : Nat) :
    ∃ c cs, c.isDigit = true ∧ padded width n = c :: cs := by
  have hne : padded width n ≠ [] := List.append_ne_nil_of_right_ne_nil _ (digits_ne_nil n)
  obtain ⟨c, cs, hcs⟩ := List.exists_cons_of_ne_nil hne
  exact ⟨c, cs, isDigit_of_mem_padded (hcs ▸ List.mem_cons_self), hcs⟩

/-- Leading zeros do not count. -/
theorem valueOf_padded (width n : Nat) : valueOf (padded width n) = n := by
  rw [valueOf, padded, Nat.ofDigitChars_append, Nat.ofDigitChars_replicate_zero, Nat.mul_zero]
  exact valueOf_digits n

theorem le_length_padded (width n : Nat) : width ≤ (padded width n).length := by
  rw [padded, List.length_append, List.length_replicate]
  omega

/-- A number that fits has exactly the width asked for. -/
theorem length_padded (hwidth : 0 < width) (h : n < 10 ^ width) :
    (padded width n).length = width := by
  have hlength : (digits n).length ≤ width :=
    (Nat.length_toDigits_le_iff (by decide) hwidth).2 h
  rw [padded, List.length_append, List.length_replicate]
  omega

end

/-- The digits in front count by as many places more as there are digits behind them. -/
theorem valueOf_append (ds es : List Char) :
    valueOf (ds ++ es) = valueOf ds * 10 ^ es.length + valueOf es := by
  rw [valueOf, Nat.ofDigitChars_append, Nat.ofDigitChars_eq_ofDigitChars_zero, Nat.mul_comm]
  rfl

/-- So many digits write less than the least number with one digit more. -/
theorem valueOf_lt {ds : List Char} (hds : ∀ c ∈ ds, c.isDigit = true) :
    valueOf ds < 10 ^ ds.length := by
  induction ds with
  | nil => decide
  | cons c ds ih =>
    have hrest := ih fun d hd => hds d (List.mem_cons_of_mem c hd)
    have hdigit := Char.isDigit_iff_toNat.1 (hds c List.mem_cons_self)
    have hle : valueOf [c] ≤ 9 := by
      have hspan : '9'.toNat - '0'.toNat = 9 := rfl
      rw [valueOf, Nat.ofDigitChars_cons, Nat.mul_zero, Nat.zero_add, Nat.ofDigitChars_nil]
      omega
    have hmul := Nat.mul_le_mul_right (10 ^ ds.length) hle
    rw [← List.singleton_append, valueOf_append, List.length_append, List.length_singleton,
      Nat.add_comm 1, Nat.pow_succ]
    omega

/-! ## The end of a number -/

/-- Holds of text that does not go on with a digit. -/
def EndsNumber (rest : List Char) : Prop := ∀ c ∈ rest.head?, c.isDigit = false

theorem endsNumber_nil : EndsNumber [] := fun _ h => nomatch h

theorem endsNumber_cons {c : Char} (h : c.isDigit = false) (cs : List Char) :
    EndsNumber (c :: cs) := by
  rintro _ ⟨⟩
  exact h

section

variable {rest : List Char}

theorem EndsNumber.take (h : EndsNumber rest) (k : Nat) : EndsNumber (rest.take k) := by
  intro c hc
  rw [List.head?_take] at hc
  split at hc
  · cases hc
  · exact h c hc

/-- What does not go on with a digit has none in front. -/
theorem EndsNumber.takeWhile_eq_nil (h : EndsNumber rest) : rest.takeWhile Char.isDigit = [] := by
  cases rest with
  | nil => rfl
  | cons c rest => rw [List.takeWhile_cons, h c rfl]; rfl

theorem EndsNumber.dropWhile_eq_self (h : EndsNumber rest) :
    rest.dropWhile Char.isDigit = rest := by
  cases rest with
  | nil => rfl
  | cons c rest => rw [List.dropWhile_cons, h c rfl]; rfl

/-- The digits at the front of a text end where it ends. -/
theorem EndsNumber.takeWhile_append (h : EndsNumber rest) (cs : List Char) :
    (cs ++ rest).takeWhile Char.isDigit = cs.takeWhile Char.isDigit := by
  rw [List.takeWhile_append, h.takeWhile_eq_nil, List.append_nil]
  split
  · next hall =>
    exact ((List.takeWhile_prefix _).eq_of_length hall).symm
  · rfl

theorem EndsNumber.dropWhile_append (h : EndsNumber rest) (cs : List Char) :
    (cs ++ rest).dropWhile Char.isDigit = cs.dropWhile Char.isDigit ++ rest := by
  rw [List.dropWhile_append, h.dropWhile_eq_self]
  split
  · next hall => rw [List.isEmpty_iff.1 hall, List.nil_append]
  · rfl

end

/-- Digits are read to their end: either as many as may be read, or up to what follows. -/
theorem readDigits?_append {least most : Nat} {ds rest : List Char}
    (hds : ∀ c ∈ ds, c.isDigit = true) (hleast : least ≤ ds.length) (hmost : ds.length ≤ most)
    (hend : ds.length = most ∨ EndsNumber rest) :
    readDigits? least most (ds ++ rest) = some (valueOf ds, rest) := by
  have hrest : (rest.take (most - ds.length)).takeWhile Char.isDigit = [] := by
    rcases hend with heq | hend
    · rw [heq, Nat.sub_self, List.take_zero]
      rfl
    · exact (hend.take _).takeWhile_eq_nil
  have htake : ((ds ++ rest).take most).takeWhile Char.isDigit = ds := by
    rw [List.take_append, List.take_of_length_le hmost, List.takeWhile_append_of_pos hds, hrest,
      List.append_nil]
  rw [readDigits?, htake, if_neg (Nat.not_lt.2 hleast), List.drop_left]

end PagedQuery.Decimal
