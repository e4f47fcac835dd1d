import PagedQuery.Proofs.MixedNumbers
import PagedQuery.Proofs.Typing

/-!
# Equal conditions

Two conditions are equal if they are one tree with equal literals. Equal literals need not be
the same, for the two zeros are equal though their signs differ, and a literal need not be
equal to itself, for a NaN equals nothing. So the normal form of a condition, in which no zero
has a sign, decides: equal conditions are those of one normal form without a NaN.

Comparing with a literal never depends on the sign of a zero either. So a condition holds of
the records of which its normal form holds, and equal conditions hold of the same records. The
converse fails. The signed and the unsigned 5 are not equal, for they are numbers of two
representations, but all values compare with them alike.

## Main definitions

* `Binary64.unsignZero`, `Number.unsignZero`, `Scalar.unsignZero`: a value without its sign
  if it is a zero.
* `Condition.unsignZeros`: the normal form of a condition.
* `Condition.literals`, and `Condition.NaNFree` for the conditions without a NaN among them.
-/

namespace PagedQuery

variable {ρ : Type}

/-! ## Zeros without a sign -/

namespace Binary64

/-- The number without its sign if it is a zero. -/
def unsignZero (x : Binary64) : Binary64 :=
  { x with negative := x.negative && x.magnitude != 0 }

@[simp] theorem isNaN_unsignZero (x : Binary64) : x.unsignZero.isNaN = x.isNaN := rfl

@[simp] theorem key_unsignZero (x : Binary64) : x.unsignZero.key = x.key := by
  by_cases h : x.magnitude = 0 <;> simp [unsignZero, key, h]

theorem natAbs_key (x : Binary64) : x.key.natAbs = x.magnitude := by
  cases h : x.negative <;> simp [key, h]

theorem negative_unsignZero (x : Binary64) : x.unsignZero.negative = decide (x.key < 0) := by
  rw [Bool.eq_iff_iff]
  cases h : x.negative <;> simp [unsignZero, key, h]

/-- Two numbers have one key exactly if they differ at most in the sign of a zero. -/
theorem unsignZero_eq_iff {x y : Binary64} : x.unsignZero = y.unsignZero ↔ x.key = y.key := by
  constructor
  · intro h
    rw [← x.key_unsignZero, h, y.key_unsignZero]
  · intro h
    have hnegative : x.unsignZero.negative = y.unsignZero.negative := by
      rw [negative_unsignZero, h, negative_unsignZero]
    have hmagnitude : x.magnitude = y.magnitude := by
      rw [← x.natAbs_key, h, y.natAbs_key]
    simp only [unsignZero, mk.injEq]
    exact ⟨hnegative, hmagnitude⟩

@[simp] theorem compare?_unsignZero (x y : Binary64) : x.compare? y.unsignZero = x.compare? y := by
  rw [compare?, compare?, isNaN_unsignZero, key_unsignZero]

end Binary64

namespace Number

/-- The number without its sign if it is a zero in double precision. -/
def unsignZero : Number → Number
  | int n => int n
  | uint n => uint n
  | float x => float x.unsignZero

@[simp] theorem isNaN_unsignZero (a : Number) : a.unsignZero.isNaN = a.isNaN := by
  cases a <;> rfl

@[simp] theorem compare?_unsignZero (a b : Number) : a.compare? b.unsignZero = a.compare? b := by
  cases b with
  | int _ | uint _ => rfl
  | float y =>
    rw [unsignZero, compare?_of_float (.inr rfl), compare?_of_float (.inr rfl)]
    exact Binary64.compare?_unsignZero _ y

/-- Equal numbers are those of one normal form that are no NaN. -/
theorem beq_iff {a b : Number} :
    (a == b) = true ↔ a.isNaN = false ∧ a.unsignZero = b.unsignZero := by
  cases a <;> cases b
  case float.float x y =>
    have hbeq : (float x == float y) = (x.compare? y == some .eq) := rfl
    rw [hbeq, beq_iff_eq, Binary64.compare?_eq_some_eq_iff, ← Binary64.unsignZero_eq_iff]
    simp only [isNaN, unsignZero, float.injEq]
    constructor
    · rintro ⟨hx, -, heq⟩
      exact ⟨hx, heq⟩
    · rintro ⟨hx, heq⟩
      have hy : y.isNaN = false := by
        rw [← y.isNaN_unsignZero, ← heq, x.isNaN_unsignZero, hx]
      exact ⟨hx, hy, heq⟩
  all_goals simp [BEq.beq, isNaN, unsignZero]

end Number

namespace Scalar

/-- The scalar without its sign if it is a zero in double precision. -/
def unsignZero : Scalar → Scalar
  | number n => number n.unsignZero
  | v => v

@[simp] theorem isNaN_unsignZero (v : Scalar) : v.unsignZero.isNaN = v.isNaN := by
  cases v with
  | number n => exact n.isNaN_unsignZero
  | string | char | dateTime | variant | bool => rfl

@[simp] theorem compare?_unsignZero (v literal : Scalar) :
    v.compare? literal.unsignZero = v.compare? literal := by
  cases literal with
  | number n => cases v <;> simp [unsignZero, compare?]
  | string | char | dateTime | variant | bool => rfl

@[simp] theorem equals?_unsignZero (v literal : Scalar) :
    v.equals? literal.unsignZero = v.equals? literal := by
  cases literal with
  | number n => cases v <;> simp [unsignZero, equals?, compare?]
  | string | char | dateTime | variant | bool => rfl

/-- Equal scalars are those of one normal form that are no NaN. -/
theorem beq_iff {a b : Scalar} :
    (a == b) = true ↔ a.isNaN = false ∧ a.unsignZero = b.unsignZero := by
  cases a <;> cases b
  case number.number m n =>
    have hbeq : (number m == number n) = (m == n) := rfl
    rw [hbeq, Number.beq_iff]
    simp only [isNaN, unsignZero, number.injEq]
  all_goals simp [BEq.beq, isNaN, unsignZero]

end Scalar

/-! ## The normal form of a condition -/

namespace Condition

/-- The condition without the signs of the zeros among its literals. -/
def unsignZeros : Condition → Condition
  | equals field literal => equals field literal.unsignZero
  | notEquals field literal => notEquals field literal.unsignZero
  | order field relation literal => order field relation literal.unsignZero
  | like field place pattern => like field place pattern
  | and left right => and left.unsignZeros right.unsignZeros
  | or left right => or left.unsignZeros right.unsignZeros

/-- The literals in a condition, from left to right. -/
def literals (c : Condition) : List Scalar :=
  c.leaves.filterMap fun leaf => leaf.test?.map Prod.snd

/-- Holds of the conditions without a NaN among their literals. -/
def NaNFree (c : Condition) : Prop := ∀ literal ∈ c.literals, literal.isNaN = false

variable {a b c : Condition} {field : String} {literal : Scalar}

theorem literals_and : (a.and b).literals = a.literals ++ b.literals := List.filterMap_append

theorem literals_or : (a.or b).literals = a.literals ++ b.literals := List.filterMap_append

@[simp] theorem nanFree_equals : (equals field literal).NaNFree ↔ literal.isNaN = false :=
  List.forall_mem_singleton

@[simp] theorem nanFree_notEquals : (notEquals field literal).NaNFree ↔ literal.isNaN = false :=
  List.forall_mem_singleton

@[simp] theorem nanFree_order {relation : OrderRelation} :
    (order field relation literal).NaNFree ↔ literal.isNaN = false :=
  List.forall_mem_singleton

@[simp] theorem nanFree_like {place : Placement} {pattern : LikePattern} :
    (like field place pattern).NaNFree :=
  List.forall_mem_nil _

@[simp] theorem nanFree_and : (a.and b).NaNFree ↔ a.NaNFree ∧ b.NaNFree := by
  rw [NaNFree, literals_and, List.forall_mem_append]
  rfl

@[simp] theorem nanFree_or : (a.or b).NaNFree ↔ a.NaNFree ∧ b.NaNFree := by
  rw [NaNFree, literals_or, List.forall_mem_append]
  rfl

/-- The normal form has the same NaN literals. -/
@[simp] theorem nanFree_unsignZeros (c : Condition) : c.unsignZeros.NaNFree ↔ c.NaNFree := by
  induction c with
  | equals | notEquals | order => simp [unsignZeros]
  | like => rfl
  | and a b iha ihb | or a b iha ihb => simp [unsignZeros, iha, ihb]

/-- A condition holds of the records of which its normal form holds. -/
@[simp] theorem holds_unsignZeros (c : Condition) (schema : Schema ρ) (r : ρ) :
    c.unsignZeros.holds schema r = c.holds schema r := by
  induction c with
  | equals | notEquals => simp only [unsignZeros, holds, Scalar.equals?_unsignZero]
  | order => simp only [unsignZeros, holds, Scalar.compare?_unsignZero]
  | like => rfl
  | and a b iha ihb | or a b iha ihb => rw [unsignZeros, holds, holds, iha, ihb]

/-- Conditions of one normal form have the same NaN literals. -/
theorem nanFree_iff_of_unsignZeros_eq (h : a.unsignZeros = b.unsignZeros) :
    a.NaNFree ↔ b.NaNFree := by
  rw [← nanFree_unsignZeros, h, nanFree_unsignZeros]

/-! ## Equality -/

/-- Equal conditions are those of one normal form without a NaN. The induction goes down
both trees as far as they have one shape. -/
theorem beq_iff : (a == b) = true ↔ a.NaNFree ∧ a.unsignZeros = b.unsignZeros := by
  change a.same b = true ↔ _
  fun_induction same a b with
  | case1 f v g w | case2 f v g w =>
    simp only [Bool.and_eq_true, beq_iff_eq, Scalar.beq_iff, nanFree_equals, nanFree_notEquals,
      unsignZeros, equals.injEq, notEquals.injEq]
    exact and_left_comm
  | case3 f q v g r w =>
    simp only [Bool.and_eq_true, beq_iff_eq, Scalar.beq_iff, nanFree_order, unsignZeros,
      order.injEq]
    rw [and_left_comm, and_assoc]
  | case4 f o p g q r =>
    simp only [Bool.and_eq_true, beq_iff_eq, nanFree_like, unsignZeros, like.injEq, and_assoc,
      true_and]
  | case5 a b c d iha ihb | case6 a b c d iha ihb =>
    simp only [Bool.and_eq_true, iha, ihb, nanFree_and, nanFree_or, unsignZeros, and.injEq,
      or.injEq]
    exact and_and_and_comm
  | case7 a b =>
    -- The trees begin with different constructors, and so do their normal forms.
    have hne : a.unsignZeros ≠ b.unsignZeros := by
      cases a <;> cases b <;> grind [unsignZeros]
    simp [hne]

/-- Searches in one place of one field are told apart by the texts of their patterns. -/
theorem like_beq_like_iff {place : Placement} {p q : LikePattern} :
    (like field place p == like field place q) = true ↔ p.text = q.text := by
  rw [beq_iff, and_iff_right nanFree_like]
  simp only [unsignZeros, like.injEq, true_and, LikePattern.text_injective.eq_iff]

theorem beq_self_iff : (a == a) = true ↔ a.NaNFree := by
  rw [beq_iff, and_iff_left rfl]

instance : PartialEquivBEq Condition where
  symm {a b} h := by
    obtain ⟨ha, heq⟩ := beq_iff.1 h
    exact beq_iff.2 ⟨(nanFree_iff_of_unsignZeros_eq heq).1 ha, heq.symm⟩
  trans {a b c} hab hbc := by
    obtain ⟨ha, heq⟩ := beq_iff.1 hab
    obtain ⟨-, heq'⟩ := beq_iff.1 hbc
    exact beq_iff.2 ⟨ha, heq.trans heq'⟩

theorem holds_eq_of_beq (h : a == b) (schema : Schema ρ) (r : ρ) :
    a.holds schema r = b.holds schema r := by
  rw [← a.holds_unsignZeros, (beq_iff.1 h).2, b.holds_unsignZeros]

/-- **Equal conditions hold of the same records.** Conditions are equal exactly if they differ
at most in the signs of zeros and have no NaN among their literals. Patterns are compared by
their texts alone. Equal conditions hold of the same records, whatever the records are.
Equality is symmetric and transitive, and a condition equals itself exactly if none of its
literals is a NaN. -/
theorem equal_hold_alike (a b c : Condition) :
    (a == b ↔ a.NaNFree ∧ a.unsignZeros = b.unsignZeros) ∧
    (∀ field place (p q : LikePattern),
      like field place p == like field place q ↔ p.text = q.text) ∧
    (a == b → ∀ {ρ : Type} (schema : Schema ρ) (r : ρ), a.holds schema r = b.holds schema r) ∧
    (a == b → b == a) ∧ (a == b → b == c → a == c) ∧
    (a == a ↔ ∀ literal ∈ a.literals, literal.isNaN = false) :=
  ⟨beq_iff, fun _ _ _ _ => like_beq_like_iff, fun h _ schema r => holds_eq_of_beq h schema r,
    BEq.symm, BEq.trans, beq_self_iff⟩

/-- Zeros of two signs are equal wherever they stand in a tree, and no record tells the trees
apart. A tree with a NaN in it does not equal itself. -/
theorem equal_hold_alike_zeros :
    let schema : Schema FieldValue := ⟨[⟨"score", .float, id⟩], by simp, by simp, by simp⟩
    let zero : Bool → Scalar := fun negative =>
      .number (.float (.ofMagnitude negative 0 (by decide)))
    ∃ pattern, LikePattern.build (.byRows fun _ => none) "a%" = .ok pattern ∧
    let tree : Bool → Bool → Condition := fun s t =>
      ((order "score" .gte (zero s)).and (like "name" .atStart pattern)).or
        (notEquals "score" (zero t))
    let marred := (tree false true).and (equals "score" (.number (.float (.quietNaN false))))
    zero false ≠ zero true ∧
    tree false false == tree true false ∧ tree true false == tree true true ∧
    tree false false == tree true true ∧ tree true false == tree false false ∧
    (∀ r, (tree false false).holds schema r = (tree true false).holds schema r) ∧
    tree false false == tree false false ∧ ¬ marred == marred := by
  intro schema zero
  refine ⟨_, rfl, ?_⟩
  intro tree marred
  have hzero : zero false ≠ zero true := by simp [zero, Binary64.ofMagnitude]
  have hfirst : tree false false == tree true false := rfl
  have hsecond : tree true false == tree true true := rfl
  obtain ⟨-, -, hholds, hsymm, htrans, hself⟩ :=
    equal_hold_alike (tree false false) (tree true false) (tree true true)
  obtain ⟨-, -, -, -, -, hmarred⟩ := equal_hold_alike marred marred marred
  have hfree : (tree false false).NaNFree := by
    have hnumber : (zero false).isNaN = false := rfl
    simp [tree, hnumber]
  have hmarred_nan : ¬ marred.NaNFree := by
    have hnan : (Scalar.number (.float (.quietNaN false))).isNaN = true := rfl
    simp [marred, hnan]
  exact ⟨hzero, hfirst, hsecond, htrans hfirst hsecond, hsymm hfirst, hholds hfirst schema,
    hself.2 hfree, mt hmarred.1 hmarred_nan⟩

/-- Equal values do not make equal literals. -/
example : (equals "age" (.number (.int 5)) == equals "age" (.number (.uint 5))) = false := rfl

end Condition

end PagedQuery
