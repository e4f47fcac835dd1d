import Mathlib.Data.List.Induction
import PagedQuery.Proofs.DateTexts
import PagedQuery.Proofs.Padding

/-!
# The texts of integers

Which texts are read as integers, and as which. The notation is the usual one: a run of
digits, of which the last counts ones and those before it tens, with any number of zeros in
front; before it a plus sign or, for signed integers, a minus sign. A text in this notation is
read exactly if its value is in range.

## Main definitions

* `WritesNat ds n`: the digits `ds` write the number `n`.
* `WritesUnsigned cs n`, `WritesSigned cs n`: the same with an optional sign.
-/

namespace PagedQuery

-- Powers are those of the core library, whatever others are in scope.
attribute [local instance (high)] instPowNat

open Decimal Text

/-! ## Decimal notation -/

/-- One or more digits write a number: each digit more makes ten times the number before it,
and the digit. -/
inductive WritesNat : List Char → Nat → Prop
  | digit {d : Nat} (h : d < 10) : WritesNat [d.digitChar] d
  | append {ds : List Char} {n d : Nat} (hds : WritesNat ds n) (h : d < 10) :
      WritesNat (ds ++ [d.digitChar]) (10 * n + d)

/-- Digits after an optional plus sign write a number. -/
inductive WritesUnsigned : List Char → Nat → Prop
  | bare {ds : List Char} {n : Nat} (h : WritesNat ds n) : WritesUnsigned ds n
  | plus {ds : List Char} {n : Nat} (h : WritesNat ds n) : WritesUnsigned ('+' :: ds) n

/-- Digits after an optional sign write an integer. -/
inductive WritesSigned : List Char → Int → Prop
  | unsigned {cs : List Char} {n : Nat} (h : WritesUnsigned cs n) : WritesSigned cs n
  | minus {ds : List Char} {n : Nat} (h : WritesNat ds n) : WritesSigned ('-' :: ds) (-n)

/-! ## Digits -/

/-- A digit is the one that its value has. -/
theorem exists_digitChar_eq {c : Char} (h : c.isDigit = true) : ∃ d < 10, d.digitChar = c := by
  have hbounds := Char.isDigit_iff_toNat.1 h
  have hzero : '0'.toNat = 48 := rfl
  have hnine : '9'.toNat = 57 := rfl
  have hd : c.toNat - 48 < 10 := by omega
  refine ⟨c.toNat - 48, hd, Char.toNat_inj.1 ?_⟩
  rw [Nat.toNat_digitChar_of_lt_ten hd]
  omega

theorem valueOf_append_digitChar (ds : List Char) {d : Nat} (h : d < 10) :
    valueOf (ds ++ [d.digitChar]) = 10 * valueOf ds + d := by
  have hone : valueOf [d.digitChar] = d := by
    rw [valueOf, Nat.ofDigitChars_cons, Nat.toNat_digitChar_of_lt_ten h, Nat.ofDigitChars_nil,
      Nat.mul_zero, Nat.zero_add]
    exact Nat.add_sub_cancel_left 48 d
  rw [valueOf_append, hone, List.length_singleton, Nat.pow_one, Nat.mul_comm]

/-- The texts that write a number are the runs of digits, and each writes its value. -/
theorem writesNat_iff {ds : List Char} {n : Nat} :
    WritesNat ds n ↔ ds ≠ [] ∧ (∀ c ∈ ds, c.isDigit = true) ∧ valueOf ds = n := by
  constructor
  · intro h
    induction h with
    | digit h =>
      have hvalue := valueOf_append_digitChar [] h
      simp_all [Nat.isDigit_digitChar, valueOf]
    | append hds h ih =>
      obtain ⟨-, hall, rfl⟩ := ih
      refine ⟨by simp, fun c hc => ?_, valueOf_append_digitChar _ h⟩
      rcases List.mem_append.1 hc with hmem | hlast
      · exact hall c hmem
      · rw [List.mem_singleton.1 hlast, Nat.isDigit_digitChar]
        exact decide_eq_true h
  · rintro ⟨hne, hall, rfl⟩
    induction ds using List.reverseRecOn with
    | nil => exact absurd rfl hne
    | append_singleton ds c ih =>
      obtain ⟨d, hd, rfl⟩ := exists_digitChar_eq (hall c (by simp))
      rw [valueOf_append_digitChar ds hd]
      have hinit : ∀ b ∈ ds, b.isDigit = true := fun b hb => hall b (List.mem_append_left _ hb)
      cases ds with
      | nil =>
        rw [valueOf, Nat.ofDigitChars_nil, Nat.mul_zero, Nat.zero_add]
        exact .digit hd
      | cons e ds => exact .append (ih (List.cons_ne_nil e ds) hinit) hd

theorem WritesNat.isDigit_of_mem {ds : List Char} {n : Nat} (h : WritesNat ds n) {c : Char}
    (hc : c ∈ ds) : c.isDigit = true :=
  (writesNat_iff.1 h).2.1 c hc

/-- No number begins with a sign. -/
theorem not_writesNat_cons {c : Char} (hc : c.isDigit = false) (cs : List Char) (n : Nat) :
    ¬ WritesNat (c :: cs) n := fun h => by
  simp [h.isDigit_of_mem List.mem_cons_self] at hc

/-! ## Readers -/

theorem readNat?_eq_some_iff {cs : List Char} {n : Nat} :
    readNat? cs = some n ↔ WritesNat cs n := by
  rw [writesNat_iff, readNat?]
  split
  · next h =>
    simp only [Bool.or_eq_true, List.isEmpty_iff, Bool.not_eq_true', List.all_eq_false] at h
    simp only [reduceCtorEq, false_iff]
    rintro ⟨hne, hall, -⟩
    rcases h with rfl | ⟨c, hc, hdigit⟩
    · exact hne rfl
    · exact hdigit (hall c hc)
  · next h =>
    simp_all

theorem readUnsigned?_eq_some_iff {cs : List Char} {n : Nat} :
    readUnsigned? cs = some n ↔ WritesUnsigned cs n := by
  unfold readUnsigned?
  split
  · next cs =>
    rw [readNat?_eq_some_iff]
    constructor
    · exact .plus
    · rintro (h | h)
      · exact absurd h (not_writesNat_cons rfl cs n)
      · exact h
  · next cs hplus =>
    rw [readNat?_eq_some_iff]
    constructor
    · exact .bare
    · intro h
      cases h with
      | bare h => exact h
      | plus h => exact absurd rfl (hplus _)

theorem readSigned?_eq_some_iff {cs : List Char} {n : Int} :
    readSigned? cs = some n ↔ WritesSigned cs n := by
  unfold readSigned?
  split
  · next cs =>
    simp only [Option.bind_eq_bind, Option.pure_def, Option.map_eq_some_iff,
      Option.bind_eq_some_iff, Option.some_inj, readNat?_eq_some_iff]
    constructor
    · rintro ⟨_, ⟨m, hm, rfl⟩, rfl⟩
      exact .minus hm
    · rintro (h | h)
      · cases h with
        | bare h => exact absurd h (not_writesNat_cons rfl cs _)
      · exact ⟨_, ⟨_, h, rfl⟩, rfl⟩
  · next cs hminus =>
    simp only [Option.bind_eq_bind, Option.pure_def, Option.map_eq_some_iff,
      Option.bind_eq_some_iff, Option.some_inj, readUnsigned?_eq_some_iff]
    constructor
    · rintro ⟨_, ⟨m, hm, rfl⟩, rfl⟩
      exact .unsigned hm
    · intro h
      cases h with
      | unsigned h => exact ⟨_, ⟨_, h, rfl⟩, rfl⟩
      | minus h => exact absurd rfl (hminus _)

/-! ## Words -/

namespace Number

theorem int64?_eq_some_iff {n : Int} {w : Int64} :
    int64? n = some w ↔ -2 ^ (63 : Nat) ≤ n ∧ n < 2 ^ (63 : Nat) ∧ w = .ofInt n := by
  rw [int64?]
  split
  · next h =>
    rw [Option.some_inj, eq_comm]
    exact ⟨fun hw => ⟨h.1, h.2, hw⟩, fun hw => hw.2.2⟩
  · next h =>
    simp only [reduceCtorEq, false_iff]
    rintro ⟨hle, hlt, -⟩
    exact h ⟨hle, hlt⟩

theorem uint64?_eq_some_iff {n : Nat} {w : UInt64} :
    uint64? n = some w ↔ n < 2 ^ (64 : Nat) ∧ w = .ofNat n := by
  rw [uint64?]
  split
  · next h =>
    rw [Option.some_inj, eq_comm]
    exact ⟨fun hw => ⟨h, hw⟩, fun hw => hw.2⟩
  · next h =>
    simp only [reduceCtorEq, false_iff]
    rintro ⟨hlt, -⟩
    exact h hlt

end Number

/-! ## Literals -/

theorem WritesUnsigned.isBlank_of_mem {cs : List Char} {n : Nat} (h : WritesUnsigned cs n) :
    ∀ c ∈ cs, isBlank c = false := by
  cases h with
  | bare h => exact fun c hc => isBlank_of_isDigit (h.isDigit_of_mem hc)
  | plus h =>
    exact List.forall_mem_cons.2 ⟨by decide, fun c hc => isBlank_of_isDigit (h.isDigit_of_mem hc)⟩

theorem WritesSigned.isBlank_of_mem {cs : List Char} {n : Int} (h : WritesSigned cs n) :
    ∀ c ∈ cs, isBlank c = false := by
  cases h with
  | unsigned h => exact h.isBlank_of_mem
  | minus h =>
    exact List.forall_mem_cons.2 ⟨by decide, fun c hc => isBlank_of_isDigit (h.isDigit_of_mem hc)⟩

namespace Literal

variable {s : String} {kind : FieldKind} {v : Scalar}

theorem int?_eq_some_iff : int? s kind = some v ↔
    ∃ cs n, Padded cs s.toList ∧ WritesSigned cs n ∧ -2 ^ (63 : Nat) ≤ n ∧ n < 2 ^ (63 : Nat) ∧
      v = .number (.int (.ofInt n)) := by
  simp only [int?, Number.readInt?, Option.map_eq_some_iff, Option.bind_eq_some_iff,
    readSigned?_eq_some_iff, Number.int64?_eq_some_iff]
  constructor
  · rintro ⟨_, ⟨_, ⟨n, hn, hle, hlt, rfl⟩, rfl⟩, rfl⟩
    exact ⟨_, n, padded_trim s.toList, hn, hle, hlt, rfl⟩
  · rintro ⟨cs, n, hpadded, hn, hle, hlt, rfl⟩
    rw [(trim_eq_iff_padded hn.isBlank_of_mem).2 hpadded]
    exact ⟨_, ⟨_, ⟨n, hn, hle, hlt, rfl⟩, rfl⟩, rfl⟩

theorem uint?_eq_some_iff : uint? s kind = some v ↔
    ∃ cs n, Padded cs s.toList ∧ WritesUnsigned cs n ∧ n < 2 ^ (64 : Nat) ∧
      v = .number (.uint (.ofNat n)) := by
  simp only [uint?, Number.readUInt?, Option.map_eq_some_iff, Option.bind_eq_some_iff,
    readUnsigned?_eq_some_iff, Number.uint64?_eq_some_iff]
  constructor
  · rintro ⟨_, ⟨_, ⟨n, hn, hlt, rfl⟩, rfl⟩, rfl⟩
    exact ⟨_, n, padded_trim s.toList, hn, hlt, rfl⟩
  · rintro ⟨cs, n, hpadded, hn, hlt, rfl⟩
    rw [(trim_eq_iff_padded hn.isBlank_of_mem).2 hpadded]
    exact ⟨_, ⟨_, ⟨n, hn, hlt, rfl⟩, rfl⟩, rfl⟩

/-- **Integers are read from exactly the texts that write them.** A text is read as the signed
integer `n` exactly if it is, white space around it aside, an optional sign and digits of value
`n`, and `n` fits into a signed word; and as the unsigned integer `n` exactly if it is an
optional plus sign and digits of value `n`, and `n` fits into an unsigned word. Nothing else is
read as an integer. In particular every integer is read back from its text, with any white
space around it. -/
theorem integers_read_exactly (kind : FieldKind) :
    (∀ (s : String) (v : Scalar), int? s kind = some v ↔
      ∃ cs n, Padded cs s.toList ∧ WritesSigned cs n ∧ -2 ^ (63 : Nat) ≤ n ∧ n < 2 ^ (63 : Nat) ∧
        v = .number (.int (.ofInt n))) ∧
    (∀ (s : String) (v : Scalar), uint? s kind = some v ↔
      ∃ cs n, Padded cs s.toList ∧ WritesUnsigned cs n ∧ n < 2 ^ (64 : Nat) ∧
        v = .number (.uint (.ofNat n))) ∧
    ∀ before after : String, AllBlank before.toList → AllBlank after.toList →
      (∀ n : Int64, int? (before ++ (Number.int n).display ++ after) kind =
        some (.number (.int n))) ∧
      ∀ n : UInt64, uint? (before ++ (Number.uint n).display ++ after) kind =
        some (.number (.uint n)) := by
  refine ⟨fun s v => int?_eq_some_iff, fun s v => uint?_eq_some_iff,
    fun before after hbefore hafter => ?_⟩
  have hpadded (text : String) : Padded text.toList (before ++ text ++ after).toList :=
    ⟨_, _, hbefore, hafter, by rw [String.toList_append, String.toList_append]⟩
  constructor
  · intro n
    have hwrites : WritesSigned (Number.int n).display.toList n.toInt := by
      rw [← readSigned?_eq_some_iff, Number.display, String.toList_ofList, readSigned?_integerText]
    exact int?_eq_some_iff.2 ⟨_, n.toInt, hpadded (Number.int n).display, hwrites, n.le_toInt,
      n.toInt_lt, by rw [Int64.ofInt_toInt]⟩
  · intro n
    have hwrites : WritesUnsigned (Number.uint n).display.toList n.toNat := by
      rw [← readUnsigned?_eq_some_iff, Number.display, String.toList_ofList, readUnsigned?_digits]
    exact uint?_eq_some_iff.2 ⟨_, n.toNat, hpadded (Number.uint n).display, hwrites, n.toNat_lt,
      by rw [UInt64.ofNat_toNat]⟩

/-- The least signed integer has no positive counterpart, and is read with zeros in front of
its digits and white space around them. One less and one more than the range are refused, and
so is zero with a minus sign where there are no signs. -/
theorem integers_read_exactly_least :
    let text := "-0009223372036854775808".toList
    Padded text "\u3000-0009223372036854775808\t".toList ∧ WritesSigned text (-2 ^ (63 : Nat)) ∧
    int? "\u3000-0009223372036854775808\t" .int = some (.number (.int .minValue)) ∧
    int? (" " ++ (Number.int .minValue).display ++ "\n") .int =
      some (.number (.int .minValue)) ∧
    int? "-9223372036854775809" .int = none ∧ int? "9223372036854775808" .int = none ∧
    uint? "-0" .uint = none := by
  intro text
  obtain ⟨hsigned, -, hprinted⟩ := integers_read_exactly .int
  have hpadded : Padded text "\u3000-0009223372036854775808\t".toList :=
    ⟨['\u3000'], ['\t'], by decide, by decide, by simp [text]⟩
  have hwrites : WritesSigned text (-2 ^ (63 : Nat)) := readSigned?_eq_some_iff.1 rfl
  have hleast := hprinted " " "\n" (by decide) (by decide)
  exact ⟨hpadded, hwrites,
    (hsigned _ _).2 ⟨text, _, hpadded, hwrites, Int.le_refl _, by decide, rfl⟩,
    hleast.1 .minValue, rfl, rfl, rfl⟩

end Literal

end PagedQuery
