import Mathlib.Algebra.Order.Field.Power
import Mathlib.Data.Rat.Floor
import Mathlib.Tactic.Linarith
import Mathlib.Tactic.LinearCombination
import Mathlib.Tactic.Ring
import PagedQuery.Binary64.Reader
import PagedQuery.Proofs.DigitTexts
import PagedQuery.Proofs.Rounding

/-!
# Rounding decimals

A decimal is rounded by its value. How the value is split into a coefficient and a power of
ten is of no consequence, and rounding keeps the order of values. The result is the number
nearest to the value, and of two that are equally near the even one.

A decimal far out of the range of a format may be cut to one that is less far out before it is
rounded.

## Main definitions

* `Scaled.value d`: the value of a decimal.
* `BinaryFormat.size m`: the value of the number with index `m`.
* `BinaryFormat.IsNearest v m`: the number with index `m` is the nearest to `v`.
-/

namespace PagedQuery

-- Powers are those of the core library, whatever others are in scope.
attribute [local instance (high)] instPowNat

open Decimal

/-- The value of a decimal. -/
def Decimal.Scaled.value (d : Scaled) : ℚ := d.coefficient * 10 ^ d.exponent

theorem ten_zpow_pos (e : ℤ) : (0 : ℚ) < 10 ^ e := zpow_pos (by norm_num) e

/-- Zeros at the end of the coefficient count as a power of ten. -/
theorem Decimal.Scaled.value_mul_pow (c k : ℕ) (e : ℤ) :
    Scaled.value ⟨c * 10 ^ k, e⟩ = Scaled.value ⟨c, e + k⟩ := by
  simp only [value]
  rw [zpow_add₀ (by norm_num), zpow_natCast]
  push_cast
  ring

namespace BinaryFormat

variable (f : BinaryFormat)

/-- Rounding is a matter of the quotient. -/
theorem nearest_mul {k : ℕ} (hk : 0 < k) (num den : ℕ) :
    f.nearest (k * num) (k * den) = f.nearest num den := by
  have hdiv : k * num / (k * den) = num / den := Nat.mul_div_mul_left num den hk
  have hbelow (u : ℕ) : 2 * (k * num) < u * (k * den) ↔ 2 * num < u * den := by
    rw [Nat.mul_left_comm 2 k, Nat.mul_left_comm u k, Nat.mul_lt_mul_left hk]
  have habove (u : ℕ) : u * (k * den) < 2 * (k * num) ↔ u * den < 2 * num := by
    rw [Nat.mul_left_comm 2 k, Nat.mul_left_comm u k, Nat.mul_lt_mul_left hk]
  simp only [nearest, hdiv, hbelow, habove]

/-- Rounding keeps the order of quotients. -/
theorem nearest_le_nearest {num den num' den' : ℕ} (hden : 0 < den) (hden' : 0 < den')
    (h : num * den' ≤ num' * den) : f.nearest num den ≤ f.nearest num' den' := by
  rw [← f.nearest_mul hden' num den, ← f.nearest_mul hden num' den', Nat.mul_comm den den']
  exact f.nearest_mono (by rwa [Nat.mul_comm den' num, Nat.mul_comm den num']) _

/-- A decimal is rounded as a quotient of its value. -/
theorem exists_ofScaled_eq_nearest (d : Scaled) :
    ∃ num den, 0 < den ∧ f.ofScaled d = f.nearest num den ∧
      (num : ℚ) = d.value * 2 ^ f.scale * den := by
  unfold ofScaled Scaled.value
  split
  · next h =>
    refine ⟨_, 1, Nat.one_pos, rfl, ?_⟩
    obtain ⟨k, hk⟩ := Int.eq_ofNat_of_zero_le h
    rw [hk, Int.toNat_natCast, zpow_natCast]
    push_cast
    ring
  · next h =>
    obtain ⟨k, hk⟩ := Int.eq_ofNat_of_zero_le (a := -d.exponent) (by omega)
    refine ⟨_, _, Nat.pow_pos (by decide), rfl, ?_⟩
    have hten : (10 : ℚ) ^ d.exponent * 10 ^ k = 1 := by
      rw [← zpow_natCast, ← zpow_add₀ (by norm_num), ← hk, Int.add_right_neg, zpow_zero]
    rw [hk, Int.toNat_natCast]
    push_cast
    linear_combination -(d.coefficient * 2 ^ f.scale : ℚ) * hten

/-- Rounding keeps the order of decimals. -/
theorem ofScaled_mono {d e : Scaled} (h : d.value ≤ e.value) : f.ofScaled d ≤ f.ofScaled e := by
  obtain ⟨num, den, hden, hd, hnum⟩ := f.exists_ofScaled_eq_nearest d
  obtain ⟨num', den', hden', he, hnum'⟩ := f.exists_ofScaled_eq_nearest e
  rw [hd, he]
  refine f.nearest_le_nearest hden hden' ?_
  have hscale : (0 : ℚ) ≤ 2 ^ f.scale * den * den' := by positivity
  have hle := mul_le_mul_of_nonneg_right h hscale
  have hcast : (num : ℚ) * den' ≤ num' * den := by
    rw [hnum, hnum']
    linarith
  exact_mod_cast hcast

/-- Decimals of one value are rounded alike. -/
theorem ofScaled_congr {d e : Scaled} (h : d.value = e.value) : f.ofScaled d = f.ofScaled e :=
  Nat.le_antisymm (f.ofScaled_mono h.le) (f.ofScaled_mono h.ge)

theorem ofScaled_le_infinity (d : Scaled) : f.ofScaled d ≤ f.infinity := by
  unfold ofScaled
  split <;> exact f.nearest_le_infinity _ _

/-! ## The step around a decimal -/

/-- The value of the number with index `m`. -/
def size (m : ℕ) : ℚ := f.units m / 2 ^ f.scale

theorem size_mul (m : ℕ) : f.size m * 2 ^ f.scale = f.units m :=
  div_mul_cancel₀ _ (by positivity)

theorem size_strictMono : StrictMono f.size := by
  intro m n h
  have hunits : (f.units m : ℚ) < f.units n := by exact_mod_cast units_strictMono h
  exact div_lt_div_of_pos_right hunits (by positivity)

/-- A decimal with the value of a number is rounded to that number. -/
theorem ofScaled_of_value_eq {d : Scaled} {m : ℕ} (hm : m ≤ f.infinity)
    (h : d.value = f.size m) : f.ofScaled d = m := by
  obtain ⟨num, den, hden, hround, hnum⟩ := f.exists_ofScaled_eq_nearest d
  have hunits : num = den * f.units m := by
    rw [h, size_mul, mul_comm] at hnum
    exact_mod_cast hnum
  calc f.ofScaled d = f.nearest (den * f.units m) (den * 1) := by
        rw [hround, hunits, Nat.mul_one]
    _ = f.nearest (f.units m) 1 := f.nearest_mul hden _ _
    _ = m := f.nearest_units hm

/-- A quotient is rounded to the end of its step that is not beyond the middle. -/
theorem nearest_cases (num den : ℕ) :
    let lower := f.below (num / den)
    let middle := (f.units lower + f.units (lower + 1)) * den
    (f.nearest num den = min f.infinity lower ∧ 2 * num ≤ middle ∧
        (middle ≤ 2 * num → lower % 2 = 0)) ∨
      (f.nearest num den = min f.infinity (lower + 1) ∧ middle ≤ 2 * num ∧
        (2 * num ≤ middle → (lower + 1) % 2 = 0)) := by
  simp only [nearest]
  split_ifs <;> omega

/-- A decimal is rounded to an end of the step in which it lies. -/
theorem ofScaled_cases (d : Scaled) :
    ∃ lower, f.size lower ≤ d.value ∧ d.value < f.size (lower + 1) ∧
      ((f.ofScaled d = min f.infinity lower ∧ 2 * d.value ≤ f.size lower + f.size (lower + 1) ∧
          (f.size lower + f.size (lower + 1) ≤ 2 * d.value → lower % 2 = 0)) ∨
        (f.ofScaled d = min f.infinity (lower + 1) ∧
          f.size lower + f.size (lower + 1) ≤ 2 * d.value ∧
          (2 * d.value ≤ f.size lower + f.size (lower + 1) → (lower + 1) % 2 = 0))) := by
  obtain ⟨num, den, hden, hround, hnum⟩ := f.exists_ofScaled_eq_nearest d
  -- In units of the format, and times the denominator, all of them are natural numbers.
  have hscale : (0 : ℚ) < 2 ^ f.scale * den := by positivity
  have hdecimal : d.value * (2 ^ f.scale * den) = num := by rw [hnum, mul_assoc]
  have hsize (m : ℕ) : f.size m * (2 ^ f.scale * den) = (f.units m * den : ℕ) := by
    rw [← mul_assoc, size_mul, Nat.cast_mul]
  have htwice : 2 * d.value * (2 ^ f.scale * den) = (2 * num : ℕ) := by
    rw [mul_assoc, hdecimal, Nat.cast_mul, Nat.cast_two]
  have hmiddle (m : ℕ) : (f.size m + f.size (m + 1)) * (2 ^ f.scale * den)
      = ((f.units m + f.units (m + 1)) * den : ℕ) := by
    rw [add_mul, hsize, hsize, ← Nat.cast_add, ← Nat.add_mul]
  obtain ⟨hle, hlt⟩ := f.units_below (num / den)
  rw [Nat.le_div_iff_mul_le hden] at hle
  rw [Nat.div_lt_iff_lt_mul hden] at hlt
  refine ⟨f.below (num / den), ?_, ?_, ?_⟩
  · rw [← mul_le_mul_iff_of_pos_right hscale, hsize, hdecimal]
    exact_mod_cast hle
  · rw [← mul_lt_mul_iff_of_pos_right hscale, hsize, hdecimal]
    exact_mod_cast hlt
  · have hhigh : 2 * d.value ≤ f.size (f.below (num / den)) + f.size (f.below (num / den) + 1) ↔
        2 * num ≤ (f.units (f.below (num / den)) + f.units (f.below (num / den) + 1)) * den := by
      rw [← mul_le_mul_iff_of_pos_right hscale, hmiddle, htwice, Nat.cast_le]
    have hlow : f.size (f.below (num / den)) + f.size (f.below (num / den) + 1) ≤ 2 * d.value ↔
        (f.units (f.below (num / den)) + f.units (f.below (num / den) + 1)) * den ≤ 2 * num := by
      rw [← mul_le_mul_iff_of_pos_right hscale, hmiddle, htwice, Nat.cast_le]
    rw [hround, hhigh, hlow]
    exact f.nearest_cases num den

/-! ## The nearest number -/

theorem dist_left_le_iff {v a b : ℚ} (h : a < b) : |v - a| ≤ |v - b| ↔ 2 * v ≤ a + b := by
  rw [← sq_le_sq]
  constructor <;> intro hle <;> nlinarith

theorem dist_right_le_iff {v a b : ℚ} (h : a < b) : |v - b| ≤ |v - a| ↔ a + b ≤ 2 * v := by
  rw [← sq_le_sq]
  constructor <;> intro hle <;> nlinarith

/-- The number with index `m` is the nearest to the value `v`, and the even one of two that are
equally near. Infinity counts as the power of two after the greatest finite number. -/
structure IsNearest (v : ℚ) (m : ℕ) : Prop where
  le_infinity : m ≤ f.infinity
  dist_le : ∀ k ≤ f.infinity, |v - f.size m| ≤ |v - f.size k|
  even_of_dist_le : ∀ k ≤ f.infinity, k ≠ m → |v - f.size k| ≤ |v - f.size m| → m % 2 = 0

/-- A number is the nearest to what lies between the middles of the steps on either side of it.
The middles themselves belong to the even numbers. -/
theorem isNearest_of_middles {v : ℚ} {m : ℕ} (hm : m ≤ f.infinity)
    (hlow : ∀ k, k + 1 = m → f.size k + f.size m ≤ 2 * v ∧
      (2 * v ≤ f.size k + f.size m → m % 2 = 0))
    (hhigh : m < f.infinity → 2 * v ≤ f.size m + f.size (m + 1) ∧
      (f.size m + f.size (m + 1) ≤ 2 * v → m % 2 = 0)) : f.IsNearest v m := by
  have hbelow {k : ℕ} (hk : k < m) : f.size k + f.size m ≤ 2 * v ∧
      (2 * v ≤ f.size k + f.size m → m % 2 = 0) := by
    obtain ⟨j, rfl⟩ := Nat.exists_eq_add_of_le' hk
    have hsize : f.size k ≤ f.size (j + k) := f.size_strictMono.monotone (Nat.le_add_left ..)
    obtain ⟨hle, heven⟩ := hlow (j + k) rfl
    exact ⟨by linarith, fun h => heven (by linarith)⟩
  have habove {k : ℕ} (hk : m < k) (hinf : k ≤ f.infinity) : 2 * v ≤ f.size m + f.size k ∧
      (f.size m + f.size k ≤ 2 * v → m % 2 = 0) := by
    have hsize : f.size (m + 1) ≤ f.size k := f.size_strictMono.monotone hk
    obtain ⟨hle, heven⟩ := hhigh (hk.trans_le hinf)
    exact ⟨by linarith, fun h => heven (by linarith)⟩
  refine ⟨hm, fun k hk => ?_, fun k hk hne h => ?_⟩
  · rcases Nat.lt_trichotomy k m with hlt | rfl | hgt
    · exact (dist_right_le_iff (f.size_strictMono hlt)).2 (hbelow hlt).1
    · exact le_refl _
    · exact (dist_left_le_iff (f.size_strictMono hgt)).2 (habove hgt hk).1
  · rcases Nat.lt_or_gt_of_ne hne with hlt | hgt
    · exact (hbelow hlt).2 ((dist_left_le_iff (f.size_strictMono hlt)).1 h)
    · exact (habove hgt hk).2 ((dist_right_le_iff (f.size_strictMono hgt)).1 h)

/-- Decimals are rounded to the nearest number, a tie to the even one. -/
theorem isNearest_ofScaled (d : Scaled) : f.IsNearest d.value (f.ofScaled d) := by
  obtain ⟨lower, hle, hlt, hcases⟩ := f.ofScaled_cases d
  rcases lt_or_ge lower f.infinity with hfinite | hfinite
  · rw [Nat.min_eq_right hfinite.le, Nat.min_eq_right hfinite] at hcases
    rcases hcases with ⟨hround, hmiddle⟩ | ⟨hround, hmiddle⟩
    · rw [hround]
      refine f.isNearest_of_middles hfinite.le (fun k hk => ?_) fun _ => hmiddle
      have hsize : f.size k < f.size lower := f.size_strictMono (by omega)
      exact ⟨by linarith, fun h => by linarith⟩
    · rw [hround]
      refine f.isNearest_of_middles hfinite (fun k hk => ?_) fun _ => ?_
      · rwa [Nat.add_right_cancel hk]
      · have hsize : f.size (lower + 1) < f.size (lower + 1 + 1) := f.size_strictMono (by omega)
        exact ⟨by linarith, fun h => by linarith⟩
  · have htop : f.ofScaled d = f.infinity := by omega
    rw [htop]
    refine f.isNearest_of_middles (le_refl _) (fun k hk => ?_) fun h => absurd h (lt_irrefl _)
    have hsize : f.size k < f.size f.infinity := f.size_strictMono (by omega)
    have hinfinity : f.size f.infinity ≤ f.size lower := f.size_strictMono.monotone hfinite
    exact ⟨by linarith, fun h => by linarith⟩

/-- Nothing else is the nearest to what lies strictly between the middles of the steps on either
side of a number. -/
theorem ofScaled_of_between {d : Scaled} {k : ℕ} (hk : k + 1 ≤ f.infinity)
    (hlow : f.size k + f.size (k + 1) < 2 * d.value)
    (hhigh : 2 * d.value < f.size (k + 1) + f.size (k + 2)) : f.ofScaled d = k + 1 := by
  have hdist := (f.isNearest_ofScaled d).dist_le (k + 1) hk
  rcases Nat.lt_trichotomy (f.ofScaled d) (k + 1) with hlt | heq | hgt
  · have hle := (dist_left_le_iff (f.size_strictMono hlt)).1 hdist
    have hsize : f.size (f.ofScaled d) ≤ f.size k :=
      f.size_strictMono.monotone (Nat.le_of_lt_succ hlt)
    linarith
  · exact heq
  · have hle := (dist_right_le_iff (f.size_strictMono hgt)).1 hdist
    have hsize : f.size (k + 2) ≤ f.size (f.ofScaled d) := f.size_strictMono.monotone hgt
    linarith

end BinaryFormat

/-! ## Out of range -/

theorem Decimal.Scaled.value_one (e : ℤ) : Scaled.value ⟨1, e⟩ = 10 ^ e := by
  rw [value, Nat.cast_one, one_mul]

/-- A decimal from `10 ^ 2000` on is infinite in double precision. -/
theorem ofScaled_of_huge {d : Scaled} (h : 10 ^ (2000 : ℤ) ≤ d.value) :
    binary64.ofScaled d = binary64.infinity := by
  have htop : binary64.infinity ≤ binary64.ofScaled ⟨1, 2000⟩ := by decide +kernel
  have hmono := binary64.ofScaled_mono ((Scaled.value_one 2000).trans_le h)
  exact Nat.le_antisymm (binary64.ofScaled_le_infinity d) (htop.trans hmono)

/-- A decimal up to `10 ^ (-2000)` is zero in double precision. -/
theorem ofScaled_of_tiny {d : Scaled} (h : d.value ≤ 10 ^ (-2000 : ℤ)) :
    binary64.ofScaled d = 0 := by
  have hbottom : binary64.ofScaled ⟨1, -2000⟩ ≤ 0 := by decide +kernel
  have hmono := binary64.ofScaled_mono (h.trans_eq (Scaled.value_one (-2000)).symm)
  exact Nat.eq_zero_of_le_zero (hmono.trans hbottom)

/-- A number is less than the power of ten that has one digit more. -/
theorem lt_pow_length_digits (n : ℕ) : n < 10 ^ (digits n).length := by
  have hpos : 0 < (digits n).length := List.length_pos_iff.2 (digits_ne_nil n)
  exact (Nat.length_toDigits_le_iff (by decide) hpos).1 (Nat.le_refl _)

/-- A decimal may be cut to the range of exponents before it is rounded. -/
theorem ofScaled_clamped (d : Scaled) : binary64.ofScaled d.clamped = binary64.ofScaled d := by
  obtain ⟨c, e⟩ := d
  have hdef : Scaled.clamped ⟨c, e⟩ =
      ⟨c, max (-(2000 + (digits c).length : ℤ)) (min 2000 e)⟩ := rfl
  rcases Nat.eq_zero_or_pos c with rfl | hc
  · exact binary64.ofScaled_congr (by simp [hdef, Scaled.value])
  have hone : (1 : ℚ) ≤ c := by exact_mod_cast hc
  rcases lt_or_ge 2000 e with hhigh | hhigh
  · have hhuge {k : ℤ} (hk : 2000 ≤ k) : 10 ^ (2000 : ℤ) ≤ Scaled.value ⟨c, k⟩ := by
      have hpow : (10 : ℚ) ^ (2000 : ℤ) ≤ 10 ^ k := zpow_le_zpow_right₀ (by norm_num) hk
      exact hpow.trans (le_mul_of_one_le_left (ten_zpow_pos k).le hone)
    rw [hdef, ofScaled_of_huge (hhuge hhigh.le), ofScaled_of_huge (hhuge (by omega))]
  rcases lt_or_ge e (-(2000 + (digits c).length : ℤ)) with hlow | hlow
  · have htiny {k : ℤ} (hk : k ≤ -(2000 + (digits c).length : ℤ)) :
        Scaled.value ⟨c, k⟩ ≤ 10 ^ (-2000 : ℤ) := by
      have hcoefficient : (c : ℚ) ≤ 10 ^ ((digits c).length : ℤ) := by
        rw [zpow_natCast]
        exact_mod_cast (lt_pow_length_digits c).le
      calc Scaled.value ⟨c, k⟩ ≤ 10 ^ ((digits c).length : ℤ) * 10 ^ k :=
            mul_le_mul_of_nonneg_right hcoefficient (ten_zpow_pos k).le
        _ = 10 ^ ((digits c).length + k) := (zpow_add₀ (by norm_num) _ _).symm
        _ ≤ 10 ^ (-2000 : ℤ) := zpow_le_zpow_right₀ (by norm_num) (by omega)
    rw [hdef, ofScaled_of_tiny (htiny hlow.le), ofScaled_of_tiny (htiny (by omega))]
  · have hexponent : max (-(2000 + (digits c).length : ℤ)) (min 2000 e) = e := by omega
    rw [hdef, hexponent]

end PagedQuery
