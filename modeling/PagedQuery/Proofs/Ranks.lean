import Mathlib.Data.Int.Order.Basic
import Mathlib.Data.List.Lex
import Mathlib.Order.Monotone.Basic
import PagedQuery.Record.Scalar

/-!
# The order of values

Values of one kind are ordered by a rank: a list of integers, compared from the front. A
number has its exact value for its rank, a string its code points, a date and time its
parts from the year down. Comparing two values of one kind comes down to comparing their
ranks, except next to a NaN, which has no place in the order.

## Main definitions

* `Binary64.value`, `Number.value`: the exact value of a number.
* `Scalar.Family`, `Scalar.family`: the values that compare with one another exactly.
* `Scalar.rank`: the place of a value in its family.
-/

namespace PagedQuery

-- Powers are those of the core library, whatever others are in scope.
attribute [local instance (high)] instPowNat

/-! ## Exact values of numbers -/

namespace BinaryFormat

variable {f : BinaryFormat}

theorem units_of_lt {m : Nat} (h : m < 2 ^ f.fractionBits) : f.units m = m := by
  have hpow : 2 ^ (f.fractionBits + 1) = 2 * 2 ^ f.fractionBits := Nat.pow_succ'
  exact if_pos (by omega)

/-- The number `r` after the start of a binade. The first binade of normal numbers has the
distance of the subnormal ones, so one formula fits all binades. -/
theorem units_of_binade (q : Nat) {r : Nat} (hr : r < 2 ^ f.fractionBits) :
    f.units (2 ^ f.fractionBits * (q + 1) + r) = (2 ^ f.fractionBits + r) * 2 ^ q := by
  have hpow : 2 ^ (f.fractionBits + 1) = 2 * 2 ^ f.fractionBits := Nat.pow_succ'
  have hpos : 0 < 2 ^ f.fractionBits := Nat.two_pow_pos _
  cases q with
  | zero =>
    rw [Nat.zero_add, Nat.mul_one, Nat.pow_zero, Nat.mul_one]
    exact if_pos (by omega)
  | succ q =>
    have hge : ¬ 2 ^ f.fractionBits * (q + 1 + 1) + r < 2 ^ (f.fractionBits + 1) := by
      rw [hpow, Nat.mul_succ, Nat.mul_succ]
      omega
    rw [units, if_neg hge, Nat.mul_add_mod, Nat.mod_eq_of_lt hr, Nat.mul_add_div hpos,
      Nat.div_eq_of_lt hr]
    rfl

/-- The next number after one of a binade, be it of the same binade or the first of a binade
of twice the distance. -/
theorem units_of_binade_succ (q : Nat) {r : Nat} (hr : r < 2 ^ f.fractionBits) :
    f.units (2 ^ f.fractionBits * (q + 1) + r + 1) = (2 ^ f.fractionBits + r + 1) * 2 ^ q := by
  rcases Nat.lt_or_ge (r + 1) (2 ^ f.fractionBits) with hnext | hnext
  · rw [Nat.add_assoc, units_of_binade q hnext, Nat.add_assoc]
  · have heq : 2 ^ f.fractionBits * (q + 1) + r + 1
        = 2 ^ f.fractionBits * (q + 1 + 1) + 0 := by
      rw [Nat.mul_succ _ (q + 1)]
      omega
    have htwice : 2 ^ f.fractionBits + r + 1 = 2 ^ f.fractionBits * 2 := by omega
    rw [heq, units_of_binade (q + 1) (Nat.two_pow_pos _), htwice, Nat.add_zero, Nat.pow_succ',
      Nat.mul_assoc]

/-- Each index stands for a greater size than the one before. -/
theorem units_lt_succ (m : Nat) : f.units m < f.units (m + 1) := by
  have hpos : 0 < 2 ^ f.fractionBits := Nat.two_pow_pos _
  rcases Nat.lt_or_ge m (2 ^ f.fractionBits) with hlt | hge
  · rw [units_of_lt hlt]
    rcases Nat.lt_or_ge (m + 1) (2 ^ f.fractionBits) with hnext | hnext
    · rw [units_of_lt hnext]
      omega
    · have heq : m + 1 = 2 ^ f.fractionBits * (0 + 1) + 0 := by omega
      rw [heq, units_of_binade 0 hpos]
      omega
  · obtain ⟨q, hq⟩ := Nat.exists_eq_add_of_le' (Nat.div_pos hge hpos)
    have hr : m % 2 ^ f.fractionBits < 2 ^ f.fractionBits := Nat.mod_lt _ hpos
    rw [← Nat.div_add_mod m (2 ^ f.fractionBits), hq, units_of_binade q hr,
      units_of_binade_succ q hr]
    exact Nat.mul_lt_mul_of_pos_right (by omega) (Nat.two_pow_pos q)

theorem units_strictMono : StrictMono f.units := strictMono_nat_of_lt_succ units_lt_succ

/-- Only the number zero has the size zero. -/
theorem units_eq_zero_iff {m : Nat} : f.units m = 0 ↔ m = 0 := by
  have hzero : f.units 0 = 0 := units_of_lt (Nat.two_pow_pos _)
  constructor
  · intro h
    exact units_strictMono.injective (h.trans hzero.symm)
  · rintro rfl
    exact hzero

end BinaryFormat

/-- The value of a double precision number, in units of the least positive one. An
infinity counts as the power of two after the greatest finite number. -/
def Binary64.value (x : Binary64) : Int :=
  if x.negative then -(binary64.units x.magnitude : Int) else binary64.units x.magnitude

/-- The exact value of an integer, or of a double precision number in its units. -/
def Number.value : Number → Int
  | int n => n.toInt
  | uint n => n.toNat
  | float x => x.value

/-! ## Comparing by another order -/

/-- Two comparisons agree if they agree on what is less, either way round. -/
theorem compare_eq_compare {α β : Type} [Ord α] [Std.OrientedOrd α] [Ord β] [Std.OrientedOrd β]
    {a b : α} {c d : β} (h : compare a b = .lt ↔ compare c d = .lt)
    (h' : compare b a = .lt ↔ compare d c = .lt) : compare a b = compare c d := by
  have hgt : compare a b = .gt ↔ compare c d = .gt := by
    rw [Std.OrientedCmp.gt_iff_lt, h']
    exact Std.OrientedCmp.gt_iff_lt.symm
  cases hab : compare a b <;> cases hcd : compare c d <;> simp_all

theorem compare_natCast (m n : Nat) : compare (m : Int) (n : Int) = compare m n :=
  compare_eq_compare (by rw [Int.compare_eq_lt, Nat.compare_eq_lt, Int.ofNat_lt])
    (by rw [Int.compare_eq_lt, Nat.compare_eq_lt, Int.ofNat_lt])

theorem compare_bool (b c : Bool) : compare b c = compare (b.toNat : Int) (c.toNat : Int) := by
  cases b <;> cases c <;> rfl

theorem compare_char_eq_lt {c d : Char} : compare c d = .lt ↔ c < d := compareOfLessAndEq_eq_lt

theorem compare_string_eq_lt {s t : String} : compare s t = .lt ↔ s < t := compareOfLessAndEq_eq_lt

/-- Characters are ordered by their code points. -/
theorem compare_char (c d : Char) : compare c d = compare (c.toNat : Int) (d.toNat : Int) := by
  have hlt : ∀ c d : Char, compare c d = .lt ↔ compare (c.toNat : Int) (d.toNat : Int) = .lt := by
    intro c d
    rw [Int.compare_eq_lt, Int.ofNat_lt, compare_char_eq_lt]
    rfl
  exact compare_eq_compare (hlt c d) (hlt d c)

/-- Comparing lists from the front decides the order of lists. -/
theorem compare_list_eq_lt {α : Type} [Ord α] [Std.LawfulEqOrd α] [LT α]
    (hlt : ∀ {a b : α}, compare a b = .lt ↔ a < b) {l m : List α} : compare l m = .lt ↔ l < m := by
  induction l generalizing m with
  | nil => cases m <;> simp
  | cons a l ih =>
    cases m with
    | nil => simp
    | cons b m =>
      rw [List.compare_cons_cons, Ordering.then_eq_lt, List.cons_lt_cons_iff, hlt, ih,
        Std.compare_eq_iff_eq]

theorem compare_list_map {α β : Type} [Ord α] [Ord β] {f : α → β}
    (hf : ∀ a b, compare a b = compare (f a) (f b)) (l m : List α) :
    compare l m = compare (l.map f) (m.map f) := by
  induction l generalizing m with
  | nil => cases m <;> rfl
  | cons a l ih =>
    cases m with
    | nil => rfl
    | cons b m => simp only [List.map_cons, List.compare_cons_cons, hf, ih]

theorem compare_singleton (m n : Int) : compare [m] [n] = compare m n := by
  rw [List.compare_cons_cons, List.compare_nil_nil, Ordering.then_eq]

/-- Strings are ordered by the code points of their characters, from the front. -/
theorem compare_string (s t : String) : compare s t
    = compare (s.toList.map fun c => (c.toNat : Int)) (t.toList.map fun c => (c.toNat : Int)) := by
  have hlt : ∀ s t : String, compare s t = .lt ↔ compare s.toList t.toList = .lt := by
    intro s t
    rw [compare_string_eq_lt, compare_list_eq_lt compare_char_eq_lt, String.lt_iff]
  rw [← compare_list_map compare_char]
  exact compare_eq_compare (hlt s t) (hlt t s)

/-- A date and time is ordered by its parts, from the year down. -/
theorem DateTime.order_eq (d e : DateTime) : d.order e
    = compare ([d.date.year, d.date.month, d.date.day, d.hour, d.minute, d.second,
        d.nanosecond] : List Int)
      [e.date.year, e.date.month, e.date.day, e.hour, e.minute, e.second, e.nanosecond] := by
  simp only [order, Date.order, compareLex, compareOn, List.compare_cons_cons, compare_natCast,
    List.compare_nil_nil, Ordering.then_assoc, Ordering.then_eq]

/-- The keys of two numbers are in the same order as their exact values. -/
theorem Binary64.compare_key (x y : Binary64) : compare x.key y.key = compare x.value y.value := by
  have hlt : ∀ x y : Binary64, compare x.key y.key = .lt ↔ compare x.value y.value = .lt := by
    intro x y
    have hunits : binary64.units x.magnitude < binary64.units y.magnitude ↔
        x.magnitude < y.magnitude := BinaryFormat.units_strictMono.lt_iff_lt
    have hunits' : binary64.units y.magnitude < binary64.units x.magnitude ↔
        y.magnitude < x.magnitude := BinaryFormat.units_strictMono.lt_iff_lt
    -- Numbers of different signs differ unless both are zero.
    have hx : binary64.units x.magnitude = 0 ↔ x.magnitude = 0 := BinaryFormat.units_eq_zero_iff
    have hy : binary64.units y.magnitude = 0 ↔ y.magnitude = 0 := BinaryFormat.units_eq_zero_iff
    rw [Int.compare_eq_lt, Int.compare_eq_lt, key, key, value, value]
    cases x.negative <;> cases y.negative <;> simp only [Bool.false_eq_true, if_true, if_false] <;>
      omega
  exact compare_eq_compare (hlt x y) (hlt y x)

/-! ## Integers of two representations -/

theorem compare_int64 (m n : Int64) : compare m n = compare m.toInt n.toInt := by
  have hlt : ∀ m n : Int64, compare m n = .lt ↔ compare m.toInt n.toInt = .lt := by
    intro m n
    rw [Int.compare_eq_lt, ← Int64.lt_iff_toInt_lt]
    exact compareOfLessAndEq_eq_lt
  exact compare_eq_compare (hlt m n) (hlt n m)

theorem compare_uint64 (m n : UInt64) : compare m n = compare (m.toNat : Int) n.toNat := by
  have hlt : ∀ m n : UInt64, compare m n = .lt ↔ compare (m.toNat : Int) n.toNat = .lt := by
    intro m n
    rw [Int.compare_eq_lt, Int.ofNat_lt, ← UInt64.lt_iff_toNat_lt]
    exact compareOfLessAndEq_eq_lt
  exact compare_eq_compare (hlt m n) (hlt n m)

/-- A signed integer that is not below zero keeps its value without its sign. -/
theorem toNat_toUInt64 {m : Int64} (h : ¬ m < 0) : (m.toUInt64.toNat : Int) = m.toInt := by
  have hnonneg : 0 ≤ m.toInt := by
    rw [Int64.lt_iff_toInt_lt] at h
    exact Int.not_lt.1 h
  rw [Int64.toNat_toUInt64_of_le (Int64.not_lt.1 h)]
  exact Int.toNat_of_nonneg hnonneg

namespace Number

/-- Signed and unsigned integers are in the order of their values. -/
theorem compareSigns_eq (m : Int64) (n : UInt64) : compareSigns m n = compare m.toInt n.toNat := by
  unfold compareSigns
  split
  · next hneg =>
    have hlt : m.toInt < n.toNat := by
      have hzero := Int64.lt_iff_toInt_lt.1 hneg
      rw [Int64.toInt_zero] at hzero
      omega
    exact (Int.compare_eq_lt.2 hlt).symm
  · next hneg => rw [compare_uint64, toNat_toUInt64 hneg]

/-- Two integers are in the order of their values, however they are represented. -/
theorem compare?_of_toInt? {a b : Number} {m n : Int} (ha : a.toInt? = some m)
    (hb : b.toInt? = some n) : a.compare? b = some (compare m n) := by
  cases a <;> cases b <;> cases ha <;> cases hb
  case int.int m n => exact congrArg some (compare_int64 m n)
  case uint.uint m n => exact congrArg some (compare_uint64 m n)
  case int.uint m n => exact congrArg some (compareSigns_eq m n)
  case uint.int m n =>
    rw [compare?, compareSigns_eq, ← Std.OrientedCmp.eq_swap]

/-- Any other two numbers are compared in double precision. -/
theorem compare?_of_float {a b : Number} (h : a.toInt? = none ∨ b.toInt? = none) :
    a.compare? b = a.toBinary64.compare? b.toBinary64 := by
  cases a <;> cases b <;> simp [toInt?] at h <;> rfl

end Number

/-! ## Ranks -/

/-- The values that compare with one another by a rank. An integer and a double precision
number also compare, but only after rounding. -/
inductive Scalar.Family where
  | string
  | integer
  | float
  | char
  | dateTime
  | variant
  | bool
  deriving DecidableEq

namespace Scalar

/-- The family of a value. -/
def family : Scalar → Family
  | string _ => .string
  | number (.float _) => .float
  | number _ => .integer
  | char _ => .char
  | dateTime _ => .dateTime
  | variant _ => .variant
  | bool _ => .bool

/-- The place of a value in its family. -/
def rank : Scalar → List Int
  | string s => s.toList.map fun c => c.toNat
  | number n => [n.value]
  | char c => [c.toNat]
  | dateTime d =>
    [d.date.year, d.date.month, d.date.day, d.hour, d.minute, d.second, d.nanosecond]
  | variant index => [index]
  | bool b => [b.toNat]

end Scalar

/-- Two numbers of one family compare by their exact values. -/
theorem Number.compare?_eq_value {a b : Number}
    (hfamily : (Scalar.number a).family = (Scalar.number b).family) (ha : a.isNaN = false)
    (hb : b.isNaN = false) : a.compare? b = some (compare a.value b.value) := by
  cases a <;> cases b <;> simp only [Scalar.family, reduceCtorEq] at hfamily
  case float.float x y =>
    simp only [isNaN] at ha hb
    simp only [compare?, Binary64.compare?, ha, hb, Bool.or_self, Bool.false_eq_true, if_false,
      Binary64.compare_key, value]
  all_goals exact compare?_of_toInt? rfl rfl

namespace Scalar

/-- Two values of one family compare by their ranks, unless one of them is a NaN. -/
theorem compare?_eq_rank {a b : Scalar} (hfamily : a.family = b.family) (ha : a.isNaN = false)
    (hb : b.isNaN = false) : a.compare? b = some (compare a.rank b.rank) := by
  cases a <;> cases b
  case string.string s t => exact congrArg some (compare_string s t)
  case number.number m n =>
    rw [compare?, Number.compare?_eq_value hfamily ha hb, rank, rank, compare_singleton]
  case char.char c d => rw [compare?, rank, rank, compare_singleton, compare_char]
  case dateTime.dateTime d e => exact congrArg some (d.order_eq e)
  case variant.variant i j => rw [compare?, rank, rank, compare_singleton, compare_natCast]
  case bool.bool b c => rw [compare?, rank, rank, compare_singleton, compare_bool]
  -- Values of two kinds belong to two families.
  all_goals grind [family, cases Number]

/-- A NaN compares with no value of its family. -/
theorem compare?_of_isNaN {a b : Scalar} (hfamily : a.family = b.family)
    (h : a.isNaN = true ∨ b.isNaN = true) : a.compare? b = none := by
  cases a <;> cases b
  case number.number m n =>
    cases m <;> cases n <;> simp_all [family, isNaN, Number.isNaN, compare?, Number.compare?,
      Binary64.compare?]
  all_goals simp_all [isNaN, compare?]

/-- Values without a NaN among them are sorted in the order in which they compare. -/
theorem sortCompare?_eq_compare? {a b : Scalar} (ha : a.isNaN = false) (hb : b.isNaN = false)
    {o : Ordering} (h : a.compare? b = some o) : a.sortCompare? b = some o := by
  cases a <;> cases b
  case number.number m n =>
    have hm : m.isNaN = false := ha
    have hn : n.isNaN = false := hb
    simp only [compare?] at h
    simp only [sortCompare?, Number.sortCompare, hm, hn, Bool.or_self, Bool.false_eq_true, if_false,
      h, Option.getD_some]
  all_goals exact h

end Scalar

end PagedQuery
