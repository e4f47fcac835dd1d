import PagedQuery.Proofs.Rounding

/-!
# Sorting integers together with double precision numbers

Two integers are sorted by their exact values, and any two other numbers by their places
after rounding. Since rounding keeps the order, the two comparisons agree almost
everywhere. They part where two integers are rounded to the same number: both tie with it,
but not with one another. Those are the only exceptions to a total order. They need an
integer of a size beyond `2 ^ 53`.

## Main definitions

* `Number.place`: where a number stands after rounding, with every NaN last.
* `Number.MergedBy x a c`: the integers `a` and `c` are both rounded to `x`.
-/

namespace PagedQuery

-- Powers are those of the core library, whatever others are in scope.
attribute [local instance (high)] instPowNat

namespace Binary64

/-- Numbers other than NaN tie exactly if they have one key. -/
theorem compare?_eq_some_eq_iff {x y : Binary64} :
    x.compare? y = some .eq ↔ x.isNaN = false ∧ y.isNaN = false ∧ x.key = y.key := by
  cases hx : x.isNaN <;> cases hy : y.isNaN <;> simp [compare?, hx, hy]

/-- No size reaches the place that is kept for NaN. -/
theorem key_lt (x : Binary64) : x.key < 2 ^ (63 : Nat) := by
  have hlt : (x.magnitude : Int) < 2 ^ (63 : Nat) := by exact_mod_cast x.magnitude_lt
  rw [key]
  split <;> omega

end Binary64

namespace Number

/-- Where a number stands after rounding. Every NaN has the place behind all others. -/
def place (a : Number) : Int := if a.isNaN then 2 ^ (63 : Nat) else a.toBinary64.key

/-- Both numbers are integers and are rounded to `x`, but the first is greater. -/
def MergedBy (x : Binary64) (a c : Number) : Prop :=
  ∃ m n, a.toInt? = some m ∧ c.toInt? = some n ∧ n < m ∧
    (Binary64.ofInt m).compare? x = some .eq ∧ (Binary64.ofInt n).compare? x = some .eq

variable {a b : Number} {m n : Int}

/-! ## Places -/

theorem toInt?_eq_none_iff : a.toInt? = none ↔ ∃ x, a = .float x := by
  cases a <;> simp [toInt?]

/-- Two numbers are both integers, or else one of them is none. -/
theorem integers_or_float (a b : Number) :
    (∃ m n, a.toInt? = some m ∧ b.toInt? = some n) ∨ (a.toInt? = none ∨ b.toInt? = none) := by
  cases a.toInt? <;> cases b.toInt? <;> simp

theorem isNaN_toBinary64 (a : Number) : a.toBinary64.isNaN = a.isNaN := by
  cases a with
  | int _ | uint _ => exact Binary64.isNaN_ofInt _
  | float _ => rfl

theorem place_of_isNaN (h : a.isNaN = true) : a.place = 2 ^ (63 : Nat) := if_pos h

theorem place_of_not_isNaN (h : a.isNaN = false) : a.place = a.toBinary64.key := by
  simp [place, h]

theorem isNaN_of_toInt? (h : a.toInt? = some m) : a.isNaN = false := by
  cases a with
  | int _ | uint _ => rfl
  | float _ => cases h

theorem place_of_toInt? (h : a.toInt? = some m) : a.place = (Binary64.ofInt m).key := by
  rw [place_of_not_isNaN (isNaN_of_toInt? h)]
  cases a with
  | int _ | uint _ =>
    obtain rfl := Option.some.inj h
    rfl
  | float _ => cases h

/-- An integer shares its place with the number that it is rounded to. -/
theorem place_eq_place_float_iff {x : Binary64} (h : a.toInt? = some m) :
    a.place = (float x).place ↔ (Binary64.ofInt m).compare? x = some .eq := by
  rw [place_of_toInt? h, Binary64.compare?_eq_some_eq_iff]
  cases hx : x.isNaN with
  | true =>
    have hlt := (Binary64.ofInt m).key_lt
    have hplace : (float x).place = 2 ^ (63 : Nat) := place_of_isNaN hx
    simp only [hplace, Bool.true_eq_false, false_and, and_false, iff_false]
    omega
  | false =>
    have hplace : (float x).place = x.key := place_of_not_isNaN hx
    simp [hplace, Binary64.isNaN_ofInt]

/-! ## Two comparisons -/

/-- Two integers are sorted by their values. -/
theorem sortCompare_of_toInt? (ha : a.toInt? = some m) (hb : b.toInt? = some n) :
    a.sortCompare b = compare m n := by
  simp [sortCompare, isNaN_of_toInt? ha, isNaN_of_toInt? hb, compare?_of_toInt? ha hb]

/-- Two numbers that are not both integers are sorted by their places. -/
theorem sortCompare_of_float (h : a.toInt? = none ∨ b.toInt? = none) :
    a.sortCompare b = compare a.place b.place := by
  cases ha : a.isNaN with
  | true =>
    cases hb : b.isNaN with
    | true => simp [sortCompare, ha, hb, place_of_isNaN]
    | false =>
      have hgt : compare a.place b.place = .gt := by
        rw [place_of_isNaN ha, place_of_not_isNaN hb, Int.compare_eq_gt]
        exact b.toBinary64.key_lt
      rw [hgt, sortCompare, ha, hb]
      rfl
  | false =>
    cases hb : b.isNaN with
    | true =>
      have hlt : compare a.place b.place = .lt := by
        rw [place_of_not_isNaN ha, place_of_isNaN hb, Int.compare_eq_lt]
        exact a.toBinary64.key_lt
      rw [hlt, sortCompare, ha, hb]
      rfl
    | false =>
      rw [place_of_not_isNaN ha, place_of_not_isNaN hb]
      simp [sortCompare, ha, hb, compare?_of_float h, Binary64.compare?, isNaN_toBinary64]

/-- A number that is not sorted after another has no place after it either. -/
theorem place_le_of_sortCompare (h : a.sortCompare b ≠ .gt) : a.place ≤ b.place := by
  rcases integers_or_float a b with ⟨m, n, ha, hb⟩ | hfloat
  · rw [sortCompare_of_toInt? ha hb] at h
    rw [place_of_toInt? ha, place_of_toInt? hb]
    exact Binary64.key_ofInt_mono (Int.not_lt.1 (mt Int.compare_eq_gt.2 h))
  · rw [sortCompare_of_float hfloat] at h
    exact Int.not_lt.1 (mt Int.compare_eq_gt.2 h)

theorem sortCompare_self (a : Number) : a.sortCompare a = .eq := by
  cases h : a.toInt? with
  | none =>
    rw [sortCompare_of_float (.inl h)]
    exact Std.ReflCmp.compare_self
  | some m =>
    rw [sortCompare_of_toInt? h h]
    exact Std.ReflCmp.compare_self

theorem sortCompare_swap (a b : Number) : b.sortCompare a = (a.sortCompare b).swap := by
  rcases integers_or_float a b with ⟨m, n, ha, hb⟩ | hfloat
  · rw [sortCompare_of_toInt? ha hb, sortCompare_of_toInt? hb ha]
    exact Std.OrientedCmp.eq_swap
  · rw [sortCompare_of_float hfloat, sortCompare_of_float hfloat.symm]
    exact Std.OrientedCmp.eq_swap

/-! ## Where the two part -/

variable {c : Number}

/-- An integer ties with the number that it is rounded to. -/
theorem sortCompare_of_rounded {x : Binary64} (ha : a.toInt? = some m)
    (h : (Binary64.ofInt m).compare? x = some .eq) : a.sortCompare (float x) = .eq := by
  rw [sortCompare_of_float (.inr rfl), (place_eq_place_float_iff ha).2 h]
  exact Std.ReflCmp.compare_self

/-- Three numbers of which none is sorted after the next, but the first after the last: the
outer two are integers, and both are rounded to the middle one. -/
theorem mergedBy_of_sortCompare (hab : a.sortCompare b ≠ .gt) (hbc : b.sortCompare c ≠ .gt)
    (hac : a.sortCompare c = .gt) : ∃ x, b = .float x ∧ MergedBy x a c := by
  have hplace : a.place ≤ b.place := place_le_of_sortCompare hab
  have hplace' : b.place ≤ c.place := place_le_of_sortCompare hbc
  rcases integers_or_float a c with ⟨m, n, ha, hc⟩ | hfloat
  · rw [sortCompare_of_toInt? ha hc, Int.compare_eq_gt] at hac
    -- Rounding keeps the order of the outer two, so all three places are one.
    have hround : c.place ≤ a.place := by
      rw [place_of_toInt? ha, place_of_toInt? hc]
      exact Binary64.key_ofInt_mono (Int.le_of_lt hac)
    cases hb : b.toInt? with
    | none =>
      obtain ⟨x, rfl⟩ := toInt?_eq_none_iff.1 hb
      exact ⟨x, rfl, m, n, ha, hc, hac, (place_eq_place_float_iff ha).1 (by omega),
        (place_eq_place_float_iff hc).1 (by omega)⟩
    | some k =>
      rw [sortCompare_of_toInt? ha hb, Ne, Int.compare_eq_gt] at hab
      rw [sortCompare_of_toInt? hb hc, Ne, Int.compare_eq_gt] at hbc
      omega
  · rw [sortCompare_of_float hfloat, Int.compare_eq_gt] at hac
    omega

/-- A number between two integers that are both rounded to it, the greater one first, ties
with both of them. -/
theorem sortCompare_of_mergedBy {x : Binary64} (h : MergedBy x a c) :
    a.sortCompare (float x) = .eq ∧ (float x).sortCompare c = .eq ∧ a.sortCompare c = .gt := by
  obtain ⟨m, n, ha, hc, hlt, hm, hn⟩ := h
  refine ⟨sortCompare_of_rounded ha hm, ?_, ?_⟩
  · rw [sortCompare_swap, sortCompare_of_rounded hc hn]
    rfl
  · rw [sortCompare_of_toInt? ha hc, Int.compare_eq_gt]
    exact hlt

/-- **The sorting order of numbers is total but for integers that rounding merges.** A
number ties with itself, and the opposite comparison has the opposite result. Among three
numbers it is transitive unless the outer two are integers, the first the greater, and both
are rounded to the one in the middle. -/
theorem sortCompare_total_but_merged (a b c : Number) :
    a.sortCompare a = .eq ∧ b.sortCompare a = (a.sortCompare b).swap ∧
      ((a.sortCompare b ≠ .gt → b.sortCompare c ≠ .gt → a.sortCompare c ≠ .gt) ↔
        ∀ x, b = .float x → ¬ MergedBy x a c) := by
  refine ⟨sortCompare_self a, sortCompare_swap a b, ?_, ?_⟩
  · rintro htrans x rfl hmerged
    obtain ⟨hab, hbc, hac⟩ := sortCompare_of_mergedBy hmerged
    rw [hab, hbc, hac] at htrans
    exact htrans (by decide) (by decide) rfl
  · intro hapart hab hbc hac
    obtain ⟨x, hx, hmerged⟩ := mergedBy_of_sortCompare hab hbc hac
    exact hapart x hx hmerged

/-- The order is not transitive. Double precision has no number between `2 ^ 53` and
`2 ^ 53 + 2`, so the integer between them ties with the number `2 ^ 53`. So does the integer
`2 ^ 53`, which is less. -/
theorem sortCompare_not_transitive :
    ¬ ∀ a b c : Number, a.sortCompare b ≠ .gt → b.sortCompare c ≠ .gt → a.sortCompare c ≠ .gt := by
  intro h
  exact h (.int 9007199254740993) (.float (.ofInt 9007199254740992)) (.int 9007199254740992)
    (by decide +kernel) (by decide +kernel) (by decide +kernel)

/-! ## Small integers -/

/-- Rounding merges no two integers of sizes up to `2 ^ 53`. -/
theorem not_mergedBy {x : Binary64} (ha : a.toInt? = some m) (hc : c.toInt? = some n)
    (hm : m.natAbs ≤ 2 ^ (53 : Nat)) (hn : n.natAbs ≤ 2 ^ (53 : Nat)) : ¬ MergedBy x a c := by
  rintro ⟨m', n', ha', hc', hlt, hm', hn'⟩
  obtain rfl : m = m' := Option.some.inj (ha.symm.trans ha')
  obtain rfl : n = n' := Option.some.inj (hc.symm.trans hc')
  have hx := (Binary64.compare?_eq_some_eq_iff.1 hm').2.2
  have hx' := (Binary64.compare?_eq_some_eq_iff.1 hn').2.2
  exact absurd (Binary64.eq_of_key_ofInt hm hn (hx.trans hx'.symm)) hlt.ne'

/-- Numbers are sorted consistently if their integers have sizes up to `2 ^ 53`. -/
theorem sortCompare_trans (ha : ∀ m, a.toInt? = some m → m.natAbs ≤ 2 ^ (53 : Nat))
    (hc : ∀ n, c.toInt? = some n → n.natAbs ≤ 2 ^ (53 : Nat)) (hab : a.sortCompare b ≠ .gt)
    (hbc : b.sortCompare c ≠ .gt) : a.sortCompare c ≠ .gt := by
  intro hac
  obtain ⟨x, -, hmerged⟩ := mergedBy_of_sortCompare hab hbc hac
  obtain ⟨m, n, hm, hn, -⟩ := id hmerged
  exact not_mergedBy hm hn (ha m hm) (hc n hn) hmerged

end Number

end PagedQuery
