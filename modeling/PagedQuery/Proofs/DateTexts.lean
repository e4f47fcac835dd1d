import PagedQuery.Literal.Reader
import PagedQuery.Proofs.DigitTexts

/-!
# Dates and times are read back from their text

The written form of a date and time is the second of the four forms that are read, and
never also the first: it names no offset. Each part of it is written in as many digits as
the reader takes for it, or in more than four after a sign, so the reader stops where the
part ends. A leap second at the end of a minute is written as the second 60 and read as one
again. A leap second elsewhere is written like the second after it, so that is what is read.

## Main definitions

* `WritesFraction nanos ds`: the digits `ds` write a fraction of a second exactly.
* `DateTime.clockFace d`: the hour, the minute and the second that a clock shows at `d`.
* `DateTime.asShown d`: the regular date and time at which a clock shows the same.
-/

namespace PagedQuery

-- Powers are those of the core library, whatever others are in scope.
attribute [local instance (high)] instPowNat

open Decimal Text

/-! ## White space -/

/-- No digit is white space. -/
theorem Text.isBlank_of_isDigit {c : Char} (h : c.isDigit = true) : isBlank c = false := by
  have hbounds := Char.isDigit_iff_toNat.1 h
  have hzero : '0'.toNat = 48 := rfl
  have hnine : '9'.toNat = 57 := rfl
  simp only [isBlank, Bool.or_eq_false_iff, Bool.and_eq_false_iff, beq_eq_false_iff_ne,
    decide_eq_false_iff_not]
  omega

theorem Text.trimStart_cons {c : Char} (h : isBlank c = false) (cs : List Char) :
    trimStart (c :: cs) = c :: cs :=
  List.dropWhile_cons_of_neg (by simp [h])

/-- There is no white space in front of a number. -/
theorem Text.trimStart_padded (width n : Nat) (rest : List Char) :
    trimStart (padded width n ++ rest) = padded width n ++ rest := by
  obtain ⟨c, cs, hdigit, hcons⟩ := exists_padded_eq_cons width n
  rw [hcons]
  exact trimStart_cons (isBlank_of_isDigit hdigit) _

/-! ## Parts of a date and time -/

theorem readStrict?_padded {width n : Nat} (hwidth : 0 < width) (h : n < 10 ^ width)
    (rest : List Char) : readStrict? width (padded width n ++ rest) = some (n, rest) := by
  have hlength := length_padded hwidth h
  rw [readStrict?, readDigits?_append (fun _ => isDigit_of_mem_padded)
    (Nat.le_of_eq hlength.symm) (Nat.le_of_eq hlength) (.inl hlength), valueOf_padded]

theorem readStrict?_two {n : Nat} (h : n < 100) (rest : List Char) :
    readStrict? 2 (padded 2 n ++ rest) = some (n, rest) :=
  readStrict?_padded (by decide) h rest

theorem readLenient?_padded {n : Nat} (h : n < 100) (rest : List Char) :
    readLenient? (padded 2 n ++ rest) = some (n, rest) := by
  have hlength : (padded 2 n).length = 2 := length_padded (by decide) h
  rw [readLenient?, trimStart_padded, readDigits?_append (fun _ => isDigit_of_mem_padded)
    (by omega) (Nat.le_of_eq hlength) (.inl hlength), valueOf_padded]

@[simp] theorem expect_self (c : Char) (cs : List Char) : expect c (c :: cs) = some cs := if_pos rfl

/-- A number does not begin with a sign. -/
theorem padded_append_ne_cons {c : Char} (hc : c.isDigit = false) (width n : Nat)
    (rest cs : List Char) : padded width n ++ rest ≠ c :: cs := by
  intro h
  obtain ⟨d, ds, hdigit, hcons⟩ := exists_padded_eq_cons width n
  rw [hcons] at h
  obtain ⟨rfl, -⟩ := List.cons.inj h
  rw [hc] at hdigit
  cases hdigit

/-- A year has as many digits as are read without a sign, and any number of them after
one. -/
theorem readYear?_yearText (year : Int) {rest : List Char} (hrest : EndsNumber rest) :
    readYear? (yearText year ++ rest) = some (year, rest) := by
  have hall {n most : Nat} (hmost : (padded 4 n).length ≤ most)
      (hend : (padded 4 n).length = most ∨ EndsNumber rest) :
      readDigits? 1 most (padded 4 n ++ rest) = some (n, rest) := by
    have hleast := le_length_padded 4 n
    rw [readDigits?_append (fun _ => isDigit_of_mem_padded) (by omega) hmost hend, valueOf_padded]
  unfold yearText
  split
  · next hyear =>
    have hlength : (padded 4 year.toNat).length = 4 := length_padded (by decide) (by omega)
    rw [readYear?, trimStart_padded]
    split
    · next cs h => exact absurd h (padded_append_ne_cons rfl 4 _ rest cs)
    · next cs h => exact absurd h (padded_append_ne_cons rfl 4 _ rest cs)
    · simp only [hall (Nat.le_of_eq hlength) (.inl hlength), Option.map_some,
        Int.toNat_of_nonneg hyear.1]
  · next hyear =>
    have hsigned : readDigits? 1 (padded 4 year.natAbs ++ rest).length
        (padded 4 year.natAbs ++ rest) = some (year.natAbs, rest) :=
      hall (by rw [List.length_append]; omega) (.inr hrest)
    split
    · next hneg =>
      have habs : -(year.natAbs : Int) = year := by omega
      rw [List.cons_append, readYear?, trimStart_cons (by decide)]
      simp only [hsigned, Option.map_some, habs]
    · next hpos =>
      have habs : (year.natAbs : Int) = year := by omega
      rw [List.cons_append, readYear?, trimStart_cons (by decide)]
      simp only [hsigned, Option.map_some, habs]

theorem daysInMonth_le (year : Int) (month : Nat) : daysInMonth year month ≤ 31 := by
  unfold daysInMonth
  split
  · split <;> decide
  all_goals decide

namespace Date

variable (d : Date) (rest : List Char)

theorem month_lt : d.month < 100 := by
  have h := d.month_mem
  omega

theorem day_lt : d.day < 100 := by
  have h := d.day_mem
  have hle := daysInMonth_le d.year d.month
  omega

/-- A date is read back in the lenient form. -/
theorem readLenientDate?_text : readLenientDate? (d.text ++ rest) = some (d, rest) := by
  have hyear (cs : List Char) :
      readYear? (yearText d.year ++ '-' :: cs) = some (d.year, '-' :: cs) :=
    readYear?_yearText d.year (endsNumber_cons rfl cs)
  simp only [text, List.append_assoc, List.cons_append, readLenientDate?, hyear,
    readLenient?_padded d.month_lt, readLenient?_padded d.day_lt, expect_self,
    Option.bind_eq_bind, Option.bind_some, of?_self]
  rfl

/-- In the strict form it is read back if its year has four digits. -/
theorem readStrictDate?_text (h : 0 ≤ d.year ∧ d.year ≤ 9999) :
    readStrictDate? (d.text ++ rest) = some (d, rest) := by
  have hyear : yearText d.year = padded 4 d.year.toNat := if_pos h
  have hcast : (d.year.toNat : Int) = d.year := Int.toNat_of_nonneg h.1
  have hlt : d.year.toNat < 10 ^ 4 := by omega
  simp only [text, hyear, List.append_assoc, List.cons_append, readStrictDate?,
    readStrict?_padded (by decide) hlt, readStrict?_two d.month_lt, readStrict?_two d.day_lt,
    expect_self, Option.bind_eq_bind, Option.bind_some, hcast, of?_self]
  rfl

end Date

/-! ## Fractions of a second -/

/-- The digits write a fraction of a second, given in nanoseconds, exactly. -/
structure WritesFraction (nanos : Nat) (ds : List Char) : Prop where
  isDigit : ∀ c ∈ ds, c.isDigit = true
  exact : valueOf ds * nanosPerSecond = nanos * 10 ^ ds.length

/-- The digits of a fraction after their point, or nothing if there are none. -/
def withPoint (ds : List Char) : List Char := if ds.isEmpty then [] else '.' :: ds

section

variable {nanos : Nat} {ds : List Char}

/-- Of digits that write nanoseconds exactly, those after the ninth are zeros. -/
theorem WritesFraction.nanosOf_eq (h : WritesFraction nanos ds) : nanosOf ds = nanos := by
  have hten (k : Nat) : 0 < 10 ^ k := Nat.pow_pos (by decide)
  have hexact := h.exact
  rw [show nanosPerSecond = 10 ^ 9 from rfl] at hexact
  rcases Nat.le_total ds.length 9 with hle | hge
  · have hpow : 10 ^ (9 - ds.length) * 10 ^ ds.length = 10 ^ 9 := by
      rw [← Nat.pow_add, Nat.sub_add_cancel hle]
    rw [nanosOf, List.take_of_length_le hle]
    refine Nat.eq_of_mul_eq_mul_right (hten ds.length) ?_
    rw [Nat.mul_assoc, hpow, hexact]
  · have hkept : (ds.take 9).length = 9 := by rw [List.length_take]; omega
    have hlength : ds.length = (ds.drop 9).length + 9 := by rw [List.length_drop]; omega
    have hvalue : valueOf ds = nanos * 10 ^ (ds.drop 9).length := by
      rw [hlength, Nat.pow_add, ← Nat.mul_assoc] at hexact
      exact Nat.eq_of_mul_eq_mul_right (by decide) hexact
    have hdropped : valueOf (ds.drop 9) < 10 ^ (ds.drop 9).length :=
      valueOf_lt fun c hc => h.isDigit c (List.mem_of_mem_drop hc)
    have hsplit := valueOf_append (ds.take 9) (ds.drop 9)
    rw [List.take_append_drop, hvalue] at hsplit
    have hquotient : valueOf (ds.take 9) = nanos := by
      rw [← Nat.mul_div_cancel nanos (hten _), hsplit, Nat.add_comm,
        Nat.add_mul_div_right _ _ (hten _), Nat.div_eq_of_lt hdropped, Nat.zero_add]
    simp only [nanosOf, hkept, hquotient, Nat.sub_self, Nat.pow_zero, Nat.mul_one]

/-- A fraction is read to its end, however many digits write it. -/
theorem WritesFraction.readFraction?_withPoint (h : WritesFraction nanos ds) {rest : List Char}
    (hend : EndsNumber rest) (hpoint : rest.head? ≠ some '.') :
    readFraction? (withPoint ds ++ rest) = some (nanos, rest) := by
  unfold withPoint
  split
  · next hnil =>
    have hzero : nanos = 0 := by
      have hnanos := h.nanosOf_eq
      rwa [List.isEmpty_iff.1 hnil, eq_comm] at hnanos
    rw [List.nil_append, hzero]
    cases rest with
    | nil => rfl
    | cons c rest =>
      have hc : c ≠ '.' := fun heq => hpoint (congrArg some heq)
      unfold readFraction?
      split
      · next heq => exact absurd (List.cons.inj heq).1 hc
      · rfl
  · next hne =>
    have hall : ds.takeWhile Char.isDigit = ds := List.takeWhile_eq_self_iff.2 h.isDigit
    have hnone : ds.dropWhile Char.isDigit = [] := List.dropWhile_eq_nil_iff.2 h.isDigit
    simp only [List.cons_append, readFraction?, hend.takeWhile_append, hend.dropWhile_append, hall,
      hnone, hne, Bool.false_eq_true, if_false, h.nanosOf_eq, List.nil_append]

end

/-- A number of digits that shows the nanoseconds exactly writes them. -/
theorem writesFraction_padded {width n : Nat} (hpos : 0 < width) (hwidth : width ≤ 9)
    (h : n < 10 ^ width) : WritesFraction (n * 10 ^ (9 - width)) (padded width n) where
  isDigit _ := isDigit_of_mem_padded
  exact := by
    rw [valueOf_padded, length_padded hpos h, Nat.mul_assoc, ← Nat.pow_add,
      Nat.sub_add_cancel hwidth]
    rfl

/-- A fraction is written by its text, whichever number of digits shows it exactly. -/
theorem exists_fractionText_eq_withPoint {nanos : Nat} (h : nanos < nanosPerSecond) :
    ∃ ds, WritesFraction nanos ds ∧ fractionText nanos = withPoint ds := by
  have hpadded {width n : Nat} (hpos : 0 < width) (hwidth : width ≤ 9) (hn : n < 10 ^ width)
      (hexact : n * 10 ^ (9 - width) = nanos) :
      ∃ ds, WritesFraction nanos ds ∧ '.' :: padded width n = withPoint ds := by
    obtain ⟨c, cs, -, hcons⟩ := exists_padded_eq_cons width n
    refine ⟨padded width n, hexact ▸ writesFraction_padded hpos hwidth hn, ?_⟩
    rw [hcons]
    rfl
  rw [nanosPerSecond] at h
  unfold fractionText
  split
  · next hzero =>
    subst hzero
    exact ⟨[], ⟨fun _ hc => absurd hc List.not_mem_nil, rfl⟩, rfl⟩
  · split
    · exact hpadded (by decide) (by decide) (by omega) (by omega)
    · split
      · exact hpadded (by decide) (by decide) (by omega) (by omega)
      · exact hpadded (by decide) (by decide) h (by omega)

namespace DateTime

variable (d : DateTime)

theorem clockFraction_lt : d.clockFraction < nanosPerSecond := Nat.mod_lt _ (by decide)

theorem clockSecond_lt : d.clockSecond < 100 := by
  have hsecond := d.second_lt
  have hnano := d.nanosecond_lt
  simp only [clockSecond, nanosPerSecond] at *
  omega

/-- A clock shows every regular time of day, a leap second as the second 60. -/
theorem ofClock?_clock (h : d.Regular) :
    ofClock? d.date d.hour d.minute d.clockSecond d.clockFraction = some d := by
  have hself := of?_self h
  have hsecond := d.second_lt
  have hnano := d.nanosecond_lt
  unfold ofClock?
  unfold Regular at h
  split
  · next hshown =>
    have hparts : d.second = 59 ∧ d.clockFraction + nanosPerSecond = d.nanosecond := by
      simp only [clockSecond, clockFraction, nanosPerSecond] at *
      omega
    rw [hparts.2, ← hparts.1, hself]
  · next hshown =>
    have hparts : d.clockSecond = d.second ∧ d.clockFraction = d.nanosecond := by
      simp only [clockSecond, clockFraction, nanosPerSecond] at *
      omega
    rw [hparts.1, hparts.2, hself]

/-- The hour, the minute and the second as a clock shows them. -/
def clockFace (d : DateTime) : List Char :=
  padded 2 d.hour ++ ':' :: padded 2 d.minute ++ ':' :: padded 2 d.clockSecond

/-- The time of day is read, strictly or leniently, if the fraction of its second is. -/
theorem readClock?_clockFace (h : d.Regular) {field : List Char → Option (Nat × List Char)}
    (hfield : ∀ {n : Nat}, n < 100 → ∀ rest, field (padded 2 n ++ rest) = some (n, rest))
    {cs rest : List Char} (hfraction : readFraction? cs = some (d.clockFraction, rest)) :
    readClock? field d.date (d.clockFace ++ cs) = some (d, rest) := by
  have hhour : d.hour < 100 := Nat.lt_of_lt_of_le d.hour_lt (by decide)
  have hminute : d.minute < 100 := Nat.lt_of_lt_of_le d.minute_lt (by decide)
  simp only [clockFace, List.append_assoc, List.cons_append, readClock?, hfield hhour,
    hfield hminute, hfield d.clockSecond_lt, expect_self, Option.bind_eq_bind, Option.bind_some,
    hfraction, ofClock?_clock d h]
  rfl

/-- The time of day is read back to its end. -/
theorem readClock?_clockText (h : d.Regular) {field : List Char → Option (Nat × List Char)}
    (hfield : ∀ {n : Nat}, n < 100 → ∀ rest, field (padded 2 n ++ rest) = some (n, rest)) :
    readClock? field d.date d.clockText = some (d, []) := by
  obtain ⟨ds, hds, htext⟩ := exists_fractionText_eq_withPoint d.clockFraction_lt
  have hread := hds.readFraction?_withPoint endsNumber_nil (by decide)
  rw [List.append_nil] at hread
  rw [clockText, htext]
  exact d.readClock?_clockFace h hfield hread

/-- The text of a date and time is no timestamp: where the year has four digits no offset
follows the time, and other years begin with a sign. -/
theorem readTimestamp?_text (h : d.Regular) : readTimestamp? d.text = none := by
  by_cases hyear : 0 ≤ d.date.year ∧ d.date.year ≤ 9999
  · simp only [text, readTimestamp?, d.date.readStrictDate?_text _ hyear, expectSeparator,
      Option.bind_eq_bind, Option.bind_some, decide_true, Bool.true_or, if_true,
      d.readClock?_clockText h readStrict?_two, readOffset?, Option.bind_none]
  · have hsign : ∃ c cs, c.isDigit = false ∧ d.text = c :: cs := by
      rw [text, Date.text, yearText, if_neg hyear]
      by_cases hneg : d.date.year < 0
      · rw [if_pos hneg]
        exact ⟨'-', _, rfl, rfl⟩
      · rw [if_neg hneg]
        exact ⟨'+', _, rfl, rfl⟩
    obtain ⟨c, cs, hc, htext⟩ := hsign
    have hstrict : readStrict? 4 (c :: cs) = none := by
      rw [readStrict?, readDigits?, List.take_succ_cons, List.takeWhile_cons, hc]
      rfl
    rw [htext, readTimestamp?, readStrictDate?, hstrict]
    rfl

theorem readJoined?_text (h : d.Regular) : readJoined? d.text = some d := by
  simp only [text, readJoined?, d.date.readLenientDate?_text, expect_self, Option.bind_eq_bind,
    Option.bind_some, d.readClock?_clockText h readLenient?_padded]
  rfl

theorem readDateTime?_of_regular (h : d.Regular) : readDateTime? d.text = some d := by
  rw [readDateTime?, readTimestamp?_text d h, readJoined?_text d h]
  rfl

/-! ## Leap seconds within a minute -/

/-- The regular date and time at which a clock shows the same: for a leap second within a minute
it lies in the second after it. -/
def asShown : DateTime :=
  if h : d.Regular then d
  else
    { d with
      second := d.second + 1
      nanosecond := d.nanosecond - nanosPerSecond
      second_lt := by
        have hsecond := d.second_lt
        have hirregular := Classical.not_imp.1 h
        omega
      nanosecond_lt := Nat.lt_of_le_of_lt (Nat.sub_le ..) d.nanosecond_lt }

theorem asShown_of_regular (h : d.Regular) : d.asShown = d := dif_pos h

theorem regular_asShown : d.asShown.Regular := by
  unfold asShown
  split
  · assumption
  · intro hleap
    have hnano := d.nanosecond_lt
    simp only at hleap
    omega

theorem asShown_eq_self_iff : d.asShown = d ↔ d.Regular := by
  constructor
  · intro h
    exact h ▸ d.regular_asShown
  · exact d.asShown_of_regular

/-- A date and time has the text of the one that is shown. -/
theorem text_asShown : d.asShown.text = d.text := by
  unfold asShown
  split
  · rfl
  · next h =>
    have hnano := d.nanosecond_lt
    have hleap := (Classical.not_imp.1 h).1
    have hclock : d.second + 1 + (d.nanosecond - nanosPerSecond) / nanosPerSecond =
          d.second + d.nanosecond / nanosPerSecond ∧
        (d.nanosecond - nanosPerSecond) % nanosPerSecond = d.nanosecond % nanosPerSecond := by
      simp only [nanosPerSecond] at *
      omega
    simp only [text, clockText, clockSecond, clockFraction, hclock]

theorem readDateTime?_text : readDateTime? d.text = some d.asShown := by
  rw [← text_asShown]
  exact d.asShown.readDateTime?_of_regular d.regular_asShown

/-! ## The whole text -/

/-- There is no white space in the text of a date and time. -/
theorem isBlank_of_mem_text : ∀ c ∈ d.text, isBlank c = false := by
  have hpadded (width n : Nat) : ∀ c ∈ padded width n, isBlank c = false := by
    intro c hc
    exact isBlank_of_isDigit (isDigit_of_mem_padded hc)
  have hyear : ∀ c ∈ yearText d.date.year, isBlank c = false := by
    unfold yearText
    split
    · exact hpadded _ _
    · exact List.forall_mem_cons.2 ⟨by split <;> decide, hpadded _ _⟩
  have hfraction : ∀ c ∈ fractionText d.clockFraction, isBlank c = false := by
    have hpoint (width n : Nat) : ∀ c ∈ '.' :: padded width n, isBlank c = false :=
      List.forall_mem_cons.2 ⟨by decide, hpadded width n⟩
    unfold fractionText
    split
    · exact fun c hc => absurd hc List.not_mem_nil
    · split
      · exact hpoint _ _
      · split <;> exact hpoint _ _
  have hdate : ∀ c ∈ d.date.text, isBlank c = false := by
    simp only [Date.text, List.forall_mem_append, List.forall_mem_cons]
    exact ⟨⟨hyear, by decide, hpadded _ _⟩, by decide, hpadded _ _⟩
  have hclock : ∀ c ∈ d.clockText, isBlank c = false := by
    simp only [clockText, List.forall_mem_append, List.forall_mem_cons]
    exact ⟨⟨⟨hpadded _ _, by decide, hpadded _ _⟩, by decide, hpadded _ _⟩, hfraction⟩
  rw [text, List.forall_mem_append, List.forall_mem_cons]
  exact ⟨hdate, by decide, hclock⟩

theorem trim_text : trim d.text = d.text :=
  trim_eq_self (fun c hc => d.isBlank_of_mem_text c (List.mem_of_mem_head? hc))
    fun c hc => d.isBlank_of_mem_text c (List.mem_of_getLast? hc)

end DateTime

/-! ## What is read is regular -/

section

variable {date : Date} {d e : DateTime} {cs rest : List Char}

theorem regular_of_readClock? {field : List Char → Option (Nat × List Char)}
    (h : readClock? field date cs = some (d, rest)) : d.Regular := by
  simp only [readClock?, Option.bind_eq_bind, Option.bind_eq_some_iff, Prod.exists] at h
  obtain ⟨hour, _, -, _, -, minute, _, -, _, -, second, _, -, fraction, _, -, shown, hclock,
    hread⟩ := h
  obtain ⟨rfl, -⟩ := Prod.mk.inj (Option.some.inj hread)
  unfold DateTime.ofClock? at hclock
  split at hclock <;> exact DateTime.regular_of_of? hclock

/-- The second stays what it is, and so does the leap second. -/
theorem DateTime.regular_of_shift? {minutes : Int} (hd : d.Regular)
    (h : d.shift? minutes = some e) : e.Regular := by
  obtain ⟨date, -, rfl⟩ := Option.map_eq_some_iff.1 h
  exact hd

theorem regular_of_readTimestamp? (h : readTimestamp? cs = some d) : d.Regular := by
  simp only [readTimestamp?, Option.bind_eq_bind, Option.bind_eq_some_iff, Prod.exists] at h
  obtain ⟨date, _, -, _, -, shown, _, hclock, offset, -, hshift⟩ := h
  exact DateTime.regular_of_shift? (regular_of_readClock? hclock) hshift

theorem complete_eq_some_iff {α : Type} {read : α × List Char} {a : α} :
    complete read = some a ↔ read = (a, []) := by
  obtain ⟨b, rest⟩ := read
  cases rest with
  | nil => simp [complete]
  | cons c rest => simp [complete]

theorem regular_of_readJoined? (h : readJoined? cs = some d) : d.Regular := by
  simp only [readJoined?, Option.bind_eq_bind, Option.bind_eq_some_iff, complete_eq_some_iff,
    Prod.exists] at h
  obtain ⟨date, _, -, _, -, shown, _, hclock, heq⟩ := h
  obtain ⟨rfl, rfl⟩ := Prod.mk.inj heq
  exact regular_of_readClock? hclock

theorem regular_of_readSpaced? (h : readSpaced? cs = some d) : d.Regular := by
  simp only [readSpaced?, Option.bind_eq_bind, Option.bind_eq_some_iff, complete_eq_some_iff,
    Prod.exists] at h
  obtain ⟨date, _, -, shown, _, hclock, heq⟩ := h
  obtain ⟨rfl, rfl⟩ := Prod.mk.inj heq
  exact regular_of_readClock? hclock

theorem regular_of_readDateOnly? (h : readDateOnly? cs = some d) : d.Regular := by
  simp only [readDateOnly?, Option.bind_eq_bind, Option.bind_eq_some_iff, Prod.exists] at h
  obtain ⟨_, _, -, date, -, hmidnight⟩ := h
  obtain rfl := Option.some.inj hmidnight
  intro hleap
  cases hleap

/-- Only regular dates and times are read. -/
theorem regular_of_readDateTime? (h : readDateTime? cs = some d) : d.Regular := by
  simp only [readDateTime?, Option.or_eq_some_iff] at h
  rcases h with h | ⟨-, h | ⟨-, h | ⟨-, h⟩⟩⟩
  · exact regular_of_readTimestamp? h
  · exact regular_of_readJoined? h
  · exact regular_of_readSpaced? h
  · exact regular_of_readDateOnly? h

end

namespace Literal

theorem dateTime?_text (d : DateTime) (kind : FieldKind) :
    dateTime? (String.ofList d.text) kind = some (.dateTime d.asShown) := by
  rw [dateTime?, String.toList_ofList, d.trim_text, d.readDateTime?_text]
  rfl

/-- **A date and time is read back from its text, unless it is in a leap second within a
minute.** The text of a date and time is always read, as the one that a clock shows. This is the
date and time itself if and only if a leap second, if it is one, is at the end of a minute: after
any other second the text is that of the second after it. Years with a sign are no exception.
Whatever text is read, in any of the four forms, is read as a date and time whose own text is
then read as the same. -/
theorem dateTime?_text_round_trip (kind : FieldKind) :
    (∀ d : DateTime, dateTime? (String.ofList d.text) kind = some (.dateTime d.asShown) ∧
      (dateTime? (String.ofList d.text) kind = some (.dateTime d) ↔
        (nanosPerSecond ≤ d.nanosecond → d.second = 59))) ∧
    ∀ (s : String) (literal : Scalar), dateTime? s kind = some literal →
      ∃ d : DateTime, literal = .dateTime d ∧
        dateTime? (String.ofList d.text) kind = some literal := by
  refine ⟨fun d => ⟨dateTime?_text d kind, ?_⟩, fun s literal h => ?_⟩
  · rw [dateTime?_text, Option.some_inj, Scalar.dateTime.injEq, d.asShown_eq_self_iff]
    rfl
  · obtain ⟨d, hread, rfl⟩ := Option.map_eq_some_iff.1 h
    refine ⟨d, rfl, ?_⟩
    rw [dateTime?_text, d.asShown_of_regular (regular_of_readDateTime? hread)]

/-- A leap second with an offset: the text of the date and time that is read shows it at
universal time, and is read as the same leap second. -/
theorem dateTime?_leap_second :
    let date : Date := ⟨2016, 12, 31, by decide, by decide, by decide⟩
    let leap : DateTime := ⟨date, 23, 59, 59, 1500000000, by decide, by decide, by decide,
      by decide⟩
    dateTime? " 2016-12-31T18:59:60.5-05:00 " .dateTime = some (.dateTime leap) ∧
    ∃ d : DateTime, Scalar.dateTime leap = .dateTime d ∧
      dateTime? (String.ofList d.text) .dateTime = some (.dateTime leap) := by
  intro date leap
  have hread : dateTime? " 2016-12-31T18:59:60.5-05:00 " .dateTime = some (.dateTime leap) := by
    rfl
  exact ⟨hread, (dateTime?_text_round_trip .dateTime).2 _ _ hread⟩

/-- A leap second within a minute, as there are some where the offset has odd seconds. Its text
is that of the next second, and is read as such. -/
theorem dateTime?_text_leap_within_minute :
    let date : Date := ⟨2015, 6, 30, by decide, by decide, by decide⟩
    let leap : DateTime := ⟨date, 23, 56, 4, 1333333333, by decide, by decide, by decide,
      by decide⟩
    let next : DateTime := ⟨date, 23, 56, 5, 333333333, by decide, by decide, by decide,
      by decide⟩
    String.ofList leap.text = "2015-06-30T23:56:05.333333333" ∧
    dateTime? (String.ofList leap.text) .dateTime = some (.dateTime next) ∧
    ¬ ∀ (d : DateTime) (kind : FieldKind),
      dateTime? (String.ofList d.text) kind = some (.dateTime d) := by
  intro date leap next
  have htext : String.ofList leap.text = "2015-06-30T23:56:05.333333333" := by decide
  have hread : dateTime? (String.ofList leap.text) .dateTime = some (.dateTime next) := by
    have hirregular : ¬ leap.Regular := by decide
    have hshown : leap.asShown = next := by
      rw [DateTime.asShown, dif_neg hirregular, DateTime.mk.injEq]
      exact ⟨rfl, rfl, rfl, rfl, by decide⟩
    rw [dateTime?_text, hshown]
  refine ⟨htext, hread, fun h => ?_⟩
  have hsame : next = leap := by
    have hback := h leap .dateTime
    rw [hread] at hback
    exact Scalar.dateTime.inj (Option.some.inj hback)
  exact absurd hsame (by decide)

end Literal

end PagedQuery
