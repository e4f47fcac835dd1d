import PagedQuery.Proofs.Ranks

/-!
# Rounding keeps the order

Every size lies in the step from the number of a format below it to the next one, and is
rounded to one end of that step. So rounding never puts two sizes in the opposite order.
It may make them equal: the steps grow with the numbers, and from `2 ^ 53` on there are
integers between two numbers of double precision. Up to there integers keep their values.
-/

namespace PagedQuery

-- Powers are those of the core library, whatever others are in scope.
attribute [local instance (high)] instPowNat

/-! ## The step around a size -/

namespace BinaryFormat

variable (f : BinaryFormat)

/-- The number below a size, by the binade in which the size lies. -/
theorem below_of_binade {u q : Nat} (hle : 2 ^ (f.fractionBits + q) ≤ u)
    (hlt : u < 2 ^ (f.fractionBits + q + 1)) :
    ∃ r < 2 ^ f.fractionBits, u / 2 ^ q = 2 ^ f.fractionBits + r ∧
      f.below u = 2 ^ f.fractionBits * (q + 1) + r := by
  have hpos : 0 < 2 ^ q := Nat.two_pow_pos q
  have hlow : 2 ^ f.fractionBits ≤ u / 2 ^ q := by
    rw [Nat.le_div_iff_mul_le hpos, ← Nat.pow_add]
    exact hle
  have hhigh : u / 2 ^ q < 2 * 2 ^ f.fractionBits := by
    rw [Nat.div_lt_iff_lt_mul hpos, Nat.mul_assoc, ← Nat.pow_add, ← Nat.pow_succ']
    exact hlt
  have hne : u ≠ 0 := Nat.ne_of_gt (Nat.lt_of_lt_of_le (Nat.two_pow_pos _) hle)
  have hlog : u.log2 = f.fractionBits + q := (Nat.log2_eq_iff hne).2 ⟨hle, hlt⟩
  refine ⟨u / 2 ^ q - 2 ^ f.fractionBits, by omega, by omega, ?_⟩
  rw [below, hlog, Nat.add_sub_cancel_left, Nat.mul_succ, Nat.mul_comm q]
  omega

theorem below_of_lt {u : Nat} (h : u < 2 ^ f.fractionBits) : f.below u = u := by
  have hlog : u.log2 - f.fractionBits = 0 := by
    rcases Nat.eq_zero_or_pos u with rfl | hpos
    · simp
    · have := (Nat.log2_lt hpos.ne').2 h
      omega
  simp [below, hlog]

/-- A size that is not below the first binade lies in some binade. -/
theorem exists_binade {u : Nat} (h : 2 ^ f.fractionBits ≤ u) :
    ∃ q, 2 ^ (f.fractionBits + q) ≤ u ∧ u < 2 ^ (f.fractionBits + q + 1) := by
  have hne : u ≠ 0 := Nat.ne_of_gt (Nat.lt_of_lt_of_le (Nat.two_pow_pos _) h)
  obtain ⟨q, hq⟩ := Nat.exists_eq_add_of_le ((Nat.le_log2 hne).2 h)
  exact ⟨q, hq ▸ Nat.log2_self_le hne, hq ▸ Nat.lt_log2_self⟩

/-- A size lies in the step from the number below it to the next number. -/
theorem units_below (u : Nat) : f.units (f.below u) ≤ u ∧ u < f.units (f.below u + 1) := by
  rcases Nat.lt_or_ge u (2 ^ f.fractionBits) with hlt | hge
  · have hnext : f.units u < f.units (u + 1) := units_lt_succ u
    rw [units_of_lt hlt] at hnext
    rw [f.below_of_lt hlt, units_of_lt hlt]
    exact ⟨Nat.le_refl u, hnext⟩
  · -- The numbers of a binade are `2 ^ q` apart.
    obtain ⟨q, hle, hlt⟩ := f.exists_binade hge
    obtain ⟨r, hr, hdiv, hbelow⟩ := f.below_of_binade hle hlt
    rw [hbelow, units_of_binade q hr, units_of_binade_succ q hr, ← hdiv]
    exact ⟨Nat.div_mul_le_self u _, Nat.lt_mul_of_div_lt (Nat.lt_succ_self _) (Nat.two_pow_pos q)⟩

/-- A size that needs no more bits than the format has is a number of it. -/
theorem units_below_mul {c : Nat} (hc : c ≤ 2 ^ (f.fractionBits + 1)) (q : Nat) :
    f.units (f.below (c * 2 ^ q)) = c * 2 ^ q := by
  rcases Nat.lt_or_ge (c * 2 ^ q) (2 ^ f.fractionBits) with hlt | hge
  · rw [f.below_of_lt hlt, units_of_lt hlt]
  · obtain ⟨p, hle, hlt⟩ := f.exists_binade hge
    obtain ⟨r, hr, hdiv, hbelow⟩ := f.below_of_binade hle hlt
    have hsize : c * 2 ^ q ≤ 2 ^ (f.fractionBits + (q + 1)) := by
      rw [← Nat.add_assoc, Nat.add_right_comm, Nat.pow_add _ _ q]
      exact Nat.mul_le_mul_right _ hc
    have hp : p ≤ q + 1 := by
      have := (Nat.pow_le_pow_iff_right (by decide)).1 (Nat.le_trans hle hsize)
      omega
    have hdvd : 2 ^ p ∣ c * 2 ^ q := by
      rcases Nat.le_or_eq_of_le_succ hp with hstep | rfl
      · exact Nat.dvd_mul_left_of_dvd (Nat.pow_dvd_pow 2 hstep) c
      · -- The size is the power of two with which the binade starts.
        rw [Nat.le_antisymm hsize hle]
        exact Nat.pow_dvd_pow 2 (Nat.le_add_left ..)
    rw [hbelow, units_of_binade p hr, ← hdiv]
    exact Nat.div_mul_cancel hdvd

/-- The number below a size is the greatest that is not above it. -/
theorem le_below_iff {m u : Nat} : m ≤ f.below u ↔ f.units m ≤ u := by
  obtain ⟨hle, hlt⟩ := f.units_below u
  constructor
  · intro h
    exact Nat.le_trans (units_strictMono.monotone h) hle
  · intro h
    exact Nat.le_of_lt_succ (units_strictMono.lt_iff_lt.1 (Nat.lt_of_le_of_lt h hlt))

theorem below_mono {u v : Nat} (h : u ≤ v) : f.below u ≤ f.below v :=
  f.le_below_iff.2 (Nat.le_trans (f.units_below u).1 h)

/-! ## Rounding -/

/-- Rounding goes to the number below or to the next one. -/
theorem nearest_bounds (num den : Nat) :
    min f.infinity (f.below (num / den)) ≤ f.nearest num den ∧
      f.nearest num den ≤ min f.infinity (f.below (num / den) + 1) := by
  simp only [nearest]
  split_ifs <;> omega

/-- Rounding keeps the order of sizes. -/
theorem nearest_mono {num num' : Nat} (h : num ≤ num') (den : Nat) :
    f.nearest num den ≤ f.nearest num' den := by
  have hbelow : f.below (num / den) ≤ f.below (num' / den) :=
    f.below_mono (Nat.div_le_div_right h)
  rcases Nat.lt_or_eq_of_le hbelow with hlt | heq
  · have hlow := (f.nearest_bounds num den).2
    have hhigh := (f.nearest_bounds num' den).1
    omega
  · -- Both sizes are compared with the middle of one step.
    simp only [nearest, heq]
    split_ifs <;> omega

theorem ofNat_mono {m n : Nat} (h : m ≤ n) : f.ofNat m ≤ f.ofNat n :=
  f.nearest_mono (Nat.mul_le_mul_right _ h) 1

/-- The size of a finite number is rounded to that number. -/
theorem nearest_units {m : Nat} (h : m ≤ f.infinity) : f.nearest (f.units m) 1 = m := by
  have hbelow : f.below (f.units m) = m := by
    refine Nat.le_antisymm ?_ (f.le_below_iff.2 (Nat.le_refl _))
    exact units_strictMono.le_iff_le.1 (f.units_below _).1
  have hnext : f.units m < f.units (m + 1) := units_lt_succ m
  simp only [nearest, Nat.div_one, hbelow]
  split_ifs <;> omega

/-- Natural numbers that need no more bits than the format has are not changed by rounding,
if its finite numbers reach that far. -/
theorem units_ofNat {n : Nat} (hn : n ≤ 2 ^ (f.fractionBits + 1))
    (htop : f.scale + 1 < f.topExponent) : f.units (f.ofNat n) = n * 2 ^ f.scale := by
  have hunits : f.units (f.below (n * 2 ^ f.scale)) = n * 2 ^ f.scale := f.units_below_mul hn _
  have hfinite : f.below (n * 2 ^ f.scale) ≤ f.infinity := by
    obtain ⟨q, hq⟩ := Nat.exists_eq_add_of_lt htop
    have hindex : f.infinity = 2 ^ f.fractionBits * (f.scale + 1 + q + 1) + 0 := by
      rw [infinity, hq, Nat.mul_comm]
      rfl
    apply units_strictMono.le_iff_le.1
    rw [hunits, hindex, units_of_binade _ (Nat.two_pow_pos _), Nat.add_zero, ← Nat.pow_add]
    calc n * 2 ^ f.scale ≤ 2 ^ (f.fractionBits + 1) * 2 ^ f.scale := Nat.mul_le_mul_right _ hn
      _ = 2 ^ (f.fractionBits + 1 + f.scale) := (Nat.pow_add ..).symm
      _ ≤ 2 ^ (f.fractionBits + (f.scale + 1 + q)) := Nat.pow_le_pow_right (by decide) (by omega)
  have hnearest : f.ofNat n = f.below (n * 2 ^ f.scale) := by
    conv_lhs => rw [ofNat, ← hunits]
    exact f.nearest_units hfinite
  rw [hnearest, hunits]

end BinaryFormat

namespace Binary64

/-- Rounding an integer gives no NaN. -/
theorem isNaN_ofInt (n : Int) : (ofInt n).isNaN = false :=
  decide_eq_false (Nat.not_lt.2 (BinaryFormat.nearest_le_infinity ..))

/-- Integers of sizes up to `2 ^ 53` keep their values. -/
theorem value_ofInt {n : Int} (h : n.natAbs ≤ 2 ^ (53 : Nat)) :
    (ofInt n).value = n * (2 ^ binary64.scale : Nat) := by
  have hunits : binary64.units (binary64.ofNat n.natAbs) = n.natAbs * 2 ^ binary64.scale :=
    binary64.units_ofNat h (by decide)
  simp only [value, ofInt, ofMagnitude, hunits, decide_eq_true_eq, Int.natCast_mul]
  split_ifs with hneg
  · rw [← Int.neg_mul, Int.ofNat_natAbs_of_nonpos hneg.le, Int.neg_neg]
  · rw [Int.natAbs_of_nonneg (Int.not_lt.1 hneg)]

/-- Integers of sizes up to `2 ^ 53` that are rounded to one number are the same. -/
theorem eq_of_key_ofInt {m n : Int} (hm : m.natAbs ≤ 2 ^ (53 : Nat))
    (hn : n.natAbs ≤ 2 ^ (53 : Nat)) (h : (ofInt m).key = (ofInt n).key) : m = n := by
  have hcompare := compare_key (ofInt m) (ofInt n)
  rw [Std.compare_eq_iff_eq.2 h, value_ofInt hm, value_ofInt hn] at hcompare
  have hvalue := Std.compare_eq_iff_eq.1 hcompare.symm
  have hpos : ((2 ^ binary64.scale : Nat) : Int) ≠ 0 :=
    Int.natCast_ne_zero.2 (Nat.two_pow_pos _).ne'
  exact Int.eq_of_mul_eq_mul_right hpos hvalue

/-- Rounding keeps the order of integers. -/
theorem key_ofInt_mono {m n : Int} (h : m ≤ n) : (ofInt m).key ≤ (ofInt n).key := by
  simp only [ofInt, ofMagnitude, key, decide_eq_true_eq]
  split <;> split
  · -- Of two negative integers the smaller has the greater size.
    have hsize : binary64.ofNat n.natAbs ≤ binary64.ofNat m.natAbs :=
      binary64.ofNat_mono (by omega)
    omega
  · omega
  · omega
  · have hsize : binary64.ofNat m.natAbs ≤ binary64.ofNat n.natAbs :=
      binary64.ofNat_mono (by omega)
    omega

end Binary64

end PagedQuery
