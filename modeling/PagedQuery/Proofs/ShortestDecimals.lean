import PagedQuery.Binary64.Shortest
import PagedQuery.Proofs.DecimalRounding

/-!
# The decimal of a number is the shortest

The decimal in which a number is written reads back as that number. It has the fewest digits
that do, never more than seventeen, and of the decimals with as few digits that read back none is
nearer to the number.

The decimals with a given count of digits around a number lie on a grid. The printer looks at the
two neighbours of the number there. That is enough: whatever reads back on the far side of a
neighbour makes that neighbour read back as well, because rounding keeps the order. Seventeen
digits are enough because the grid is then finer than the numbers are apart.

## Main definitions

* `Scaled.Fits n d`: the decimal `d` can be written with `n` digits.
* `Binary64.gridPoint place c`: the decimals on the grid with step `10 ^ place`.
* `Binary64.IsShortest m d`: the specification of the shortest decimal of a number.
-/

namespace PagedQuery

-- Powers are those of the core library, whatever others are in scope.
attribute [local instance (high)] instPowNat

open Decimal

/-! ## Steps between numbers -/

namespace BinaryFormat

variable (f : BinaryFormat)

/-- The steps between numbers are not small next to the numbers. -/
theorem units_succ_le (m : ℕ) :
    f.units (m + 1) ≤ 2 ^ (f.fractionBits + 1) * (f.units (m + 1) - f.units m) := by
  have hpow : 2 ^ (f.fractionBits + 1) = 2 * 2 ^ f.fractionBits := Nat.pow_succ'
  have hpos : 0 < 2 ^ f.fractionBits := Nat.two_pow_pos _
  rcases Nat.lt_or_ge m (2 ^ f.fractionBits) with hlt | hge
  · have hnext : f.units (m + 1) = m + 1 := if_pos (by omega)
    rw [hnext, units_of_lt hlt, Nat.add_sub_cancel_left]
    omega
  · obtain ⟨q, hq⟩ := Nat.exists_eq_add_of_le' (Nat.div_pos hge hpos)
    have hr : m % 2 ^ f.fractionBits < 2 ^ f.fractionBits := Nat.mod_lt _ hpos
    rw [← Nat.div_add_mod m (2 ^ f.fractionBits), hq, units_of_binade q hr,
      units_of_binade_succ q hr, ← Nat.sub_mul, Nat.add_sub_cancel_left, Nat.one_mul]
    exact Nat.mul_le_mul_right _ (by omega)

theorem size_succ_le (m : ℕ) :
    f.size (m + 1) ≤ 2 ^ (f.fractionBits + 1) * (f.size (m + 1) - f.size m) := by
  have hcast : (f.units (m + 1) : ℚ) ≤
      2 ^ (f.fractionBits + 1) * (f.units (m + 1) - f.units m) := by
    have hle := f.units_succ_le m
    rw [← Nat.cast_le (α := ℚ)] at hle
    push_cast [(units_lt_succ (f := f) m).le] at hle
    exact hle
  rw [size, size, ← sub_div, ← mul_div_assoc]
  exact div_le_div_of_nonneg_right hcast (by positivity)

end BinaryFormat

/-! ## Digits -/

/-- Holds of the decimals that `n` digits can write, zeros at either end aside. -/
def Decimal.Scaled.Fits (n : ℕ) (d : Scaled) : Prop :=
  ∃ c e, c < 10 ^ n ∧ d.value = Scaled.value ⟨c, e⟩

theorem Decimal.Scaled.Fits.mono {m n : ℕ} {d : Scaled} (h : d.Fits m) (hle : m ≤ n) :
    d.Fits n := by
  obtain ⟨c, e, hc, hvalue⟩ := h
  exact ⟨c, e, hc.trans_le (Nat.pow_le_pow_right (by decide) hle), hvalue⟩

/-- A number has no more digits than it needs. -/
theorem pow_le_of_length_digits {n k : ℕ} (hn : 0 < n) (h : (digits n).length = k + 1) :
    10 ^ k ≤ n := by
  rcases Nat.eq_zero_or_pos k with rfl | hk
  · exact hn
  · rw [← Nat.not_lt, ← Nat.length_toDigits_le_iff (by decide) hk]
    change ¬ (digits n).length ≤ k
    omega

namespace Binary64

/-! ## The grid -/

/-- The decimal with the coefficient `c` on the grid with step `10 ^ place`. -/
def gridPoint (place c : ℕ) : Scaled := ⟨c, (place : ℤ) - lift⟩

theorem value_gridPoint (place c : ℕ) :
    (gridPoint place c).value * 10 ^ lift = (c * 10 ^ place : ℕ) := by
  rw [gridPoint, Scaled.value, zpow_sub₀ (by norm_num), zpow_natCast, zpow_natCast, mul_assoc,
    div_mul_cancel₀ _ (by positivity)]
  push_cast
  rfl

theorem gridPoint_mono (place : ℕ) {b c : ℕ} (h : b ≤ c) :
    (gridPoint place b).value ≤ (gridPoint place c).value := by
  have hcast : (b : ℚ) ≤ c := by exact_mod_cast h
  exact mul_le_mul_of_nonneg_right hcast (ten_zpow_pos _).le

theorem value_gridPoint_succ (place c : ℕ) :
    (gridPoint place (c + 1)).value = (gridPoint place c).value + 10 ^ ((place : ℤ) - lift) := by
  simp only [gridPoint, Scaled.value]
  push_cast
  ring

/-- The lifted number is the value of the number up to what lies after the point. -/
theorem size_lifted (m : ℕ) :
    (lifted m : ℚ) ≤ binary64.size m * 10 ^ lift ∧
      binary64.size m * 10 ^ lift < (lifted m + 1 : ℕ) := by
  have hscale : (0 : ℚ) < 2 ^ binary64.scale := by positivity
  have hle : lifted m * 2 ^ binary64.scale ≤ binary64.units m * 10 ^ lift := Nat.div_mul_le_self ..
  have hlt : binary64.units m * 10 ^ lift < (lifted m + 1) * 2 ^ binary64.scale :=
    Nat.lt_mul_of_div_lt (Nat.lt_succ_self _) (Nat.two_pow_pos _)
  rw [BinaryFormat.size, div_mul_eq_mul_div, le_div_iff₀ hscale, div_lt_iff₀ hscale]
  exact ⟨by exact_mod_cast hle, by exact_mod_cast hlt⟩

/-- A number lies between its neighbours on every grid. -/
theorem size_between_gridPoints (m place : ℕ) :
    (gridPoint place (lifted m / 10 ^ place)).value ≤ binary64.size m ∧
      binary64.size m < (gridPoint place (lifted m / 10 ^ place + 1)).value := by
  have hlift : (0 : ℚ) < 10 ^ lift := by positivity
  obtain ⟨hle, hlt⟩ := size_lifted m
  have hbelow : lifted m / 10 ^ place * 10 ^ place ≤ lifted m := Nat.div_mul_le_self ..
  have habove : lifted m + 1 ≤ (lifted m / 10 ^ place + 1) * 10 ^ place :=
    Nat.lt_mul_of_div_lt (Nat.lt_succ_self _) (Nat.pow_pos (by decide))
  rw [← mul_le_mul_iff_of_pos_right hlift, ← mul_lt_mul_iff_of_pos_right hlift, value_gridPoint,
    value_gridPoint]
  exact ⟨le_trans (by exact_mod_cast hbelow) hle, lt_of_lt_of_le hlt (by exact_mod_cast habove)⟩

/-- No decimal with as many digits as the grid has lies between the neighbours of a number. -/
theorem not_between_gridPoints {m n place : ℕ} {d : Scaled} (hpos : 0 < lifted m)
    (hplace : (digits (lifted m)).length = place + (n + 1)) (hd : d.Fits (n + 1)) :
    d.value ≤ (gridPoint place (lifted m / 10 ^ place)).value ∨
      (gridPoint place (lifted m / 10 ^ place + 1)).value ≤ d.value := by
  obtain ⟨c, e, hc, hvalue⟩ := hd
  rcases le_or_gt ((place : ℤ) - lift) e with hcoarse | hfine
  · -- The decimal is on the grid itself.
    obtain ⟨k, hk⟩ := Int.eq_ofNat_of_zero_le (sub_nonneg.2 hcoarse)
    have hgrid : d.value = (gridPoint place (c * 10 ^ k)).value := by
      rw [hvalue, gridPoint, Scaled.value_mul_pow]
      congr 2
      omega
    rw [hgrid]
    rcases Nat.lt_or_ge (lifted m / 10 ^ place) (c * 10 ^ k) with hlt | hge
    · exact .inr (gridPoint_mono place hlt)
    · exact .inl (gridPoint_mono place hge)
  · -- The decimal is on a finer grid, where so many digits write less than the number.
    left
    have hlower : 10 ^ n ≤ lifted m / 10 ^ place := by
      rw [Nat.le_div_iff_mul_le (Nat.pow_pos (by decide)), ← Nat.pow_add]
      exact pow_le_of_length_digits hpos (by omega)
    refine le_trans ?_ (gridPoint_mono place hlower)
    have hcoefficient : (c : ℚ) ≤ 10 ^ (n + 1 : ℤ) := by
      rw [← Nat.cast_succ, zpow_natCast]
      exact_mod_cast hc.le
    calc d.value ≤ 10 ^ (n + 1 : ℤ) * 10 ^ e := by
          rw [hvalue]
          exact mul_le_mul_of_nonneg_right hcoefficient (ten_zpow_pos e).le
      _ = 10 ^ (n + 1 + e) := (zpow_add₀ (by norm_num) _ _).symm
      _ ≤ 10 ^ ((place : ℤ) - lift + n) := zpow_le_zpow_right₀ (by norm_num) (by omega)
      _ = (gridPoint place (10 ^ n)).value := by
        rw [← Scaled.value_one, ← Scaled.value_mul_pow, Nat.one_mul]
        rfl

/-! ## The choice between the neighbours -/

section

variable {m lower place : ℕ}

theorem onGrid?_eq_none (h : onGrid? m lower place = none) :
    binary64.ofScaled (gridPoint place lower) ≠ m ∧
      binary64.ofScaled (gridPoint place (lower + 1)) ≠ m := by
  simp only [onGrid?] at h
  split at h
  case h_4 hlow hhigh => exact ⟨ne_of_beq_false hlow, ne_of_beq_false hhigh⟩
  all_goals cases h

/-- The comparison that decides between the neighbours finds the nearer one. -/
theorem nearer_iff :
    binary64.units m * 10 ^ lift * 2 < (2 * lower + 1) * 10 ^ place * 2 ^ binary64.scale ↔
      2 * binary64.size m <
        (gridPoint place lower).value + (gridPoint place (lower + 1)).value := by
  have hscale : (0 : ℚ) < 10 ^ lift * 2 ^ binary64.scale := by positivity
  have hsize : 2 * binary64.size m * (10 ^ lift * 2 ^ binary64.scale)
      = (binary64.units m * 10 ^ lift * 2 : ℕ) := by
    push_cast
    rw [← BinaryFormat.size_mul]
    ring
  have hpoints : ((gridPoint place lower).value + (gridPoint place (lower + 1)).value)
      * (10 ^ lift * 2 ^ binary64.scale)
        = ((2 * lower + 1) * 10 ^ place * 2 ^ binary64.scale : ℕ) := by
    rw [← mul_assoc, add_mul, value_gridPoint, value_gridPoint]
    push_cast
    ring
  rw [← mul_lt_mul_iff_of_pos_right hscale, hsize, hpoints, Nat.cast_lt]

/-- A neighbour that reads back is taken, the nearer one if both do. -/
theorem onGrid?_eq_some {d : Scaled} (h : onGrid? m lower place = some d) :
    binary64.ofScaled d = m ∧
      (d = gridPoint place lower ∧ (binary64.ofScaled (gridPoint place (lower + 1)) = m →
        2 * binary64.size m ≤ (gridPoint place lower).value + (gridPoint place (lower + 1)).value) ∨
      d = gridPoint place (lower + 1) ∧ (binary64.ofScaled (gridPoint place lower) = m →
        (gridPoint place lower).value + (gridPoint place (lower + 1)).value
          ≤ 2 * binary64.size m)) := by
  simp only [onGrid?, nearer_iff] at h
  split at h
  case h_1 hlow hhigh =>
    split at h
    case isTrue hnearer =>
      cases h
      exact ⟨eq_of_beq hlow, .inl ⟨rfl, fun _ => hnearer.le⟩⟩
    case isFalse hnearer =>
      cases h
      exact ⟨eq_of_beq hhigh, .inr ⟨rfl, fun _ => not_lt.1 hnearer⟩⟩
  case h_2 hlow hhigh =>
    cases h
    exact ⟨eq_of_beq hlow, .inl ⟨rfl, fun hread => absurd hread (ne_of_beq_false hhigh)⟩⟩
  case h_3 hlow hhigh =>
    cases h
    exact ⟨eq_of_beq hhigh, .inr ⟨rfl, fun hread => absurd hread (ne_of_beq_false hlow)⟩⟩
  case h_4 => cases h

end

/-! ## The search -/

/-- The decimal with at most `n + 1` digits that is tried for the number with index `m`. -/
def attempt (m n : ℕ) : Option Scaled :=
  let place := (digits (lifted m)).length - (n + 1)
  onGrid? m (lifted m / 10 ^ place) place

theorem shortest_eq (m : ℕ) :
    shortest m = ((List.range 17).findSome? (attempt m)).getD (exact m) := rfl

theorem value_exact (m : ℕ) : (exact m).value = binary64.size m := by
  have hten : (10 : ℚ) ^ binary64.scale = 5 ^ binary64.scale * 2 ^ binary64.scale := by
    rw [← mul_pow]
    norm_num
  rw [exact, Scaled.value, zpow_neg, zpow_natCast, hten, BinaryFormat.size]
  push_cast
  field_simp

theorem ofScaled_exact {m : ℕ} (hm : m ≤ binary64.infinity) : binary64.ofScaled (exact m) = m :=
  binary64.ofScaled_of_value_eq hm (value_exact m)

/-- Between a decimal that reads back and the number itself, every decimal reads back. -/
theorem ofScaled_of_le_size {d e : Scaled} (hde : d.value ≤ e.value)
    (he : e.value ≤ binary64.size (binary64.ofScaled d)) :
    binary64.ofScaled e = binary64.ofScaled d := by
  rw [← value_exact] at he
  have hle := binary64.ofScaled_mono he
  rw [ofScaled_exact (binary64.ofScaled_le_infinity d)] at hle
  exact Nat.le_antisymm hle (binary64.ofScaled_mono hde)

theorem ofScaled_of_size_le {d e : Scaled} (hed : e.value ≤ d.value)
    (he : binary64.size (binary64.ofScaled d) ≤ e.value) :
    binary64.ofScaled e = binary64.ofScaled d := by
  rw [← value_exact] at he
  have hle := binary64.ofScaled_mono he
  rw [ofScaled_exact (binary64.ofScaled_le_infinity d)] at hle
  exact Nat.le_antisymm (binary64.ofScaled_mono hed) hle

theorem le_lifted {m : ℕ} (hpos : 0 < m) : 10 ^ 16 ≤ lifted m := by
  have hleast : 10 ^ 16 ≤ lifted 1 := by decide +kernel
  have hunits : binary64.units 1 ≤ binary64.units m := BinaryFormat.units_strictMono.monotone hpos
  exact hleast.trans (Nat.div_le_div_right (Nat.mul_le_mul_right _ hunits))

theorem lifted_pos {m : ℕ} (hpos : 0 < m) : 0 < lifted m :=
  (Nat.pow_pos (by decide)).trans_le (le_lifted hpos)

theorem seventeen_le_length_digits {m : ℕ} (hpos : 0 < m) : 17 ≤ (digits (lifted m)).length := by
  have hlong : ¬ lifted m < 10 ^ 16 := Nat.not_lt.2 (le_lifted hpos)
  rw [← Nat.length_toDigits_le_iff (by decide) (by decide), Nat.not_le] at hlong
  exact hlong

/-- A power of ten needs one digit only. -/
theorem fits_of_le {c n : ℕ} (hc : c ≤ 10 ^ (n + 1)) (e : ℤ) : Scaled.Fits (n + 1) ⟨c, e⟩ := by
  rcases Nat.lt_or_eq_of_le hc with hlt | rfl
  · exact ⟨c, e, hlt, rfl⟩
  · refine ⟨1, e + (n + 1 : ℕ), Nat.one_lt_pow (by omega) (by decide), ?_⟩
    rw [← Scaled.value_mul_pow, Nat.one_mul]

section

variable {m n : ℕ} {d : Scaled}

/-- Each attempt looks at the neighbours on the grid with as many digits. -/
theorem exists_place (hpos : 0 < m) (hn : n < 17) :
    ∃ place, (digits (lifted m)).length = place + (n + 1) ∧
      attempt m n = onGrid? m (lifted m / 10 ^ place) place := by
  have hlength := seventeen_le_length_digits hpos
  exact ⟨(digits (lifted m)).length - (n + 1), by omega, rfl⟩

/-- Whatever reads back with so many digits lies beyond a neighbour that reads back as well. -/
theorem neighbour_reads_back (hpos : 0 < m) {place : ℕ}
    (hplace : (digits (lifted m)).length = place + (n + 1)) (hd : d.Fits (n + 1))
    (hread : binary64.ofScaled d = m) :
    (d.value ≤ (gridPoint place (lifted m / 10 ^ place)).value ∧
        binary64.ofScaled (gridPoint place (lifted m / 10 ^ place)) = m) ∨
      ((gridPoint place (lifted m / 10 ^ place + 1)).value ≤ d.value ∧
        binary64.ofScaled (gridPoint place (lifted m / 10 ^ place + 1)) = m) := by
  subst hread
  obtain ⟨hbelow, habove⟩ := size_between_gridPoints (binary64.ofScaled d) place
  rcases not_between_gridPoints (lifted_pos hpos) hplace hd with hle | hge
  · exact .inl ⟨hle, ofScaled_of_le_size hle hbelow⟩
  · exact .inr ⟨hge, ofScaled_of_size_le hge habove.le⟩

/-- If an attempt fails, no decimal with so many digits reads back. -/
theorem attempt_eq_none (hpos : 0 < m) (hn : n < 17) (h : attempt m n = none)
    (hd : d.Fits (n + 1)) : binary64.ofScaled d ≠ m := by
  intro hread
  obtain ⟨place, hplace, hattempt⟩ := exists_place hpos hn
  rw [hattempt] at h
  obtain ⟨hlow, hhigh⟩ := onGrid?_eq_none h
  rcases neighbour_reads_back hpos hplace hd hread with ⟨-, hback⟩ | ⟨-, hback⟩
  · exact hlow hback
  · exact hhigh hback

/-- Only zero has no digits. -/
theorem ofScaled_ne_of_fits_zero (hpos : 0 < m) (hd : d.Fits 0) : binary64.ofScaled d ≠ m := by
  obtain ⟨c, e, hc, hvalue⟩ := hd
  have hzero : d.value = binary64.size 0 := by
    rw [hvalue, Scaled.value, Nat.lt_one_iff.1 hc, BinaryFormat.size,
      BinaryFormat.units_eq_zero_iff.2 rfl, Nat.cast_zero, zero_mul, zero_div]
  rw [binary64.ofScaled_of_value_eq (Nat.zero_le _) hzero]
  exact hpos.ne

/-- What an attempt finds has no more digits than were tried. -/
theorem fits_of_attempt (hpos : 0 < m) (hn : n < 17) (h : attempt m n = some d) :
    d.Fits (n + 1) := by
  obtain ⟨place, hplace, hattempt⟩ := exists_place hpos hn
  have hlower : lifted m / 10 ^ place < 10 ^ (n + 1) := by
    rw [Nat.div_lt_iff_lt_mul (Nat.pow_pos (by decide)), ← Nat.pow_add, Nat.add_comm, ← hplace]
    exact lt_pow_length_digits _
  rw [hattempt] at h
  obtain ⟨-, ⟨rfl, -⟩ | ⟨rfl, -⟩⟩ := onGrid?_eq_some h
  · exact fits_of_le hlower.le _
  · exact fits_of_le hlower _

/-- What an attempt finds is at least as near to the number as every other decimal with so many
digits that reads back. -/
theorem dist_le_of_attempt (hpos : 0 < m) (hn : n < 17) (h : attempt m n = some d) {d' : Scaled}
    (hd' : d'.Fits (n + 1)) (hread : binary64.ofScaled d' = m) :
    |d.value - binary64.size m| ≤ |d'.value - binary64.size m| := by
  obtain ⟨place, hplace, hattempt⟩ := exists_place hpos hn
  rw [hattempt] at h
  obtain ⟨hbelow, habove⟩ := size_between_gridPoints m place
  rcases neighbour_reads_back hpos hplace hd' hread with ⟨hle, hlow⟩ | ⟨hge, hhigh⟩
  · rw [abs_of_nonpos (by linarith : d'.value - binary64.size m ≤ 0), abs_le]
    obtain ⟨-, ⟨rfl, -⟩ | ⟨rfl, hnearer⟩⟩ := onGrid?_eq_some h
    · constructor <;> linarith
    · have hmiddle := hnearer hlow
      constructor <;> linarith
  · rw [abs_of_nonneg (by linarith : 0 ≤ d'.value - binary64.size m), abs_le]
    obtain ⟨-, ⟨rfl, hnearer⟩ | ⟨rfl, -⟩⟩ := onGrid?_eq_some h
    · have hmiddle := hnearer hhigh
      constructor <;> linarith
    · constructor <;> linarith

/-- With seventeen digits, the step of the grid is small next to the number. -/
theorem step_le_size (hpos : 0 < m) {place : ℕ}
    (hplace : (digits (lifted m)).length = place + (16 + 1)) :
    10 ^ ((place : ℤ) - lift) * 10 ^ 16 ≤ binary64.size m := by
  have hlength : 10 ^ 16 * 10 ^ place ≤ lifted m := by
    rw [← Nat.pow_add]
    exact pow_le_of_length_digits (lifted_pos hpos) (by omega)
  have hcast : ((10 ^ 16 * 10 ^ place : ℕ) : ℚ) ≤ lifted m := by exact_mod_cast hlength
  have hpoint : 10 ^ ((place : ℤ) - lift) * 10 ^ 16 = (gridPoint place (10 ^ 16)).value := by
    rw [gridPoint, Scaled.value, mul_comm]
    norm_num
  rw [hpoint, ← mul_le_mul_iff_of_pos_right (by positivity : (0 : ℚ) < 10 ^ lift), value_gridPoint]
  exact hcast.trans (size_lifted m).1

/-- With seventeen digits a neighbour reads back: the nearer one is off by less than half of the
step between numbers. -/
theorem attempt_sixteen_ne_none (hpos : 0 < m) (hm : m ≤ binary64.infinity) :
    attempt m 16 ≠ none := by
  obtain ⟨place, hplace, hattempt⟩ := exists_place hpos (by decide : 16 < 17)
  obtain ⟨hbelow, habove⟩ := size_between_gridPoints m place
  have hgrid := step_le_size hpos hplace
  obtain ⟨k, rfl⟩ := Nat.exists_eq_add_of_le' hpos
  have hlower : binary64.size (k + 1) ≤
      2 ^ 53 * (binary64.size (k + 1) - binary64.size k) := binary64.size_succ_le k
  have hupper : binary64.size (k + 2) ≤
      2 ^ 53 * (binary64.size (k + 2) - binary64.size (k + 1)) := binary64.size_succ_le (k + 1)
  have hprevious : binary64.size k < binary64.size (k + 1) := binary64.size_strictMono (by omega)
  have hnext : binary64.size (k + 1) < binary64.size (k + 2) := binary64.size_strictMono (by omega)
  intro hnone
  rw [hattempt] at hnone
  obtain ⟨hlow, hhigh⟩ := onGrid?_eq_none hnone
  have hsucc := value_gridPoint_succ place (lifted (k + 1) / 10 ^ place)
  rcases le_or_gt (2 * binary64.size (k + 1))
    (2 * (gridPoint place (lifted (k + 1) / 10 ^ place)).value + 10 ^ ((place : ℤ) - lift))
    with hnearer | hnearer
  · exact hlow (binary64.ofScaled_of_between hm (by linarith) (by linarith))
  · exact hhigh (binary64.ofScaled_of_between hm (by linarith) (by linarith))

end

/-! ## The shortest decimal -/

/-- The shortest decimal of the number with index `m`: it reads back as that number, none with
fewer digits does, and none of the others with as few digits is nearer to it. -/
structure IsShortest (m : ℕ) (d : Scaled) : Prop where
  reads_back : binary64.ofScaled d = m
  fits_of_fits : ∀ d' n, binary64.ofScaled d' = m → d'.Fits n → d.Fits n
  dist_le : ∀ d', binary64.ofScaled d' = m → (∀ n, d.Fits n → d'.Fits n) →
    |d.value - binary64.size m| ≤ |d'.value - binary64.size m|

/-- A search through the first numbers finds what the least successful one gives. -/
theorem exists_of_findSome?_range {α : Type} {f : ℕ → Option α} {k : ℕ} {a : α}
    (h : (List.range k).findSome? f = some a) :
    ∃ n < k, f n = some a ∧ ∀ j < n, f j = none := by
  obtain ⟨before, n, after, hsplit, hfound, hbefore⟩ := List.findSome?_eq_some_iff.1 h
  have hindex : (List.range k)[before.length]? = some n := by
    rw [hsplit, List.getElem?_append_right (Nat.le_refl _), Nat.sub_self]
    rfl
  obtain ⟨hlt, rfl⟩ := List.getElem?_eq_some_iff.1 hindex
  rw [List.length_range] at hlt
  rw [List.getElem_range] at hfound hsplit
  refine ⟨before.length, hlt, hfound, fun j hj => hbefore j ?_⟩
  have hrange : List.range before.length = before := by
    have htake := congrArg (List.take before.length) hsplit
    rwa [List.take_left, List.take_range, Nat.min_eq_left hlt.le] at htake
  rw [← hrange]
  exact List.mem_range.2 hj

/-- The decimal of a number is what the first successful attempt finds. -/
theorem exists_attempt {m : ℕ} (hpos : 0 < m) (hm : m ≤ binary64.infinity) :
    ∃ n < 17, attempt m n = some (shortest m) ∧ ∀ j < n, attempt m j = none := by
  cases hfound : (List.range 17).findSome? (attempt m) with
  | none =>
    have hnone := List.findSome?_eq_none_iff.1 hfound 16 (List.mem_range.2 (by decide))
    exact absurd hnone (attempt_sixteen_ne_none hpos hm)
  | some d =>
    rw [shortest_eq, hfound, Option.getD_some]
    exact exists_of_findSome?_range hfound

theorem isShortest_shortest {m : ℕ} (hpos : 0 < m) (hm : m ≤ binary64.infinity) :
    IsShortest m (shortest m) := by
  obtain ⟨n, hn, hattempt, hfirst⟩ := exists_attempt hpos hm
  have hfits := fits_of_attempt hpos hn hattempt
  have hread := (onGrid?_eq_some hattempt).1
  refine ⟨hread, ?_, ?_⟩
  · intro d' k hread' hd'
    cases k with
    | zero => exact absurd hread' (ofScaled_ne_of_fits_zero hpos hd')
    | succ k =>
      rcases Nat.lt_or_ge k n with hlt | hge
      · exact absurd hread' (attempt_eq_none hpos (by omega) (hfirst k hlt) hd')
      · exact hfits.mono (by omega)
  · intro d' hread hd'
    exact dist_le_of_attempt hpos hn hattempt (hd' _ hfits) hread

end Binary64

end PagedQuery
