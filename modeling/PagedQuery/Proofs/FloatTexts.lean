import Mathlib.Data.List.DropRight
import PagedQuery.Literal.Reader
import PagedQuery.Proofs.DateTexts
import PagedQuery.Proofs.Padding
import PagedQuery.Proofs.ShortestDecimals

/-!
# The texts of floats

A number is written without an exponent, as its shortest decimal, and every number other than NaN
is read back from that text bit by bit. The point divides the digits of a decimal into a whole part
and a fraction; wherever it stands, and however many zeros were cut from the end, the digits still
write the decimal. So reading finds a decimal of the same value, and rounds it to the number.

## Main results

* `Decimal.exists_readScaled?_positional`: a decimal in positional form is read with its value.
* `Binary64.exists_sizeText_eq_positional`: a finite number is written as its shortest decimal.
* `Binary64.isNearest_ofNumeral`: reading rounds to the nearest number.
* `Binary64.read?_text`: a number is read back from its text.
-/

namespace PagedQuery

-- Powers are those of the core library, whatever others are in scope.
attribute [local instance (high)] instPowNat

/-! ## Decimals in positional form -/

namespace Decimal

/-- The zeros that are cut from a fraction are those at its end. -/
theorem exists_trimZeros_append (ds : List Char) :
    ∃ k, ds = trimZeros ds ++ List.replicate k '0' := by
  have hsplit : trimZeros ds ++ ds.rtakeWhile (· == '0') = ds := List.rdropWhile_append_rtakeWhile
  have hzeros : ∀ c ∈ ds.rtakeWhile (· == '0'), c = '0' := by
    intro c hc
    exact eq_of_beq (List.mem_rtakeWhile_imp (p := (· == '0')) hc)
  rw [List.eq_replicate_of_mem hzeros] at hsplit
  exact ⟨_, hsplit.symm⟩

/-- Digits with nothing but a fraction behind them are read as one number with it. -/
theorem readScaled?_digits_append (whole : ℕ) {fraction rest : List Char} (hend : EndsNumber rest)
    (hsplit : splitFraction rest = (fraction, [])) : readScaled? (digits whole ++ rest) =
      some ⟨whole * 10 ^ fraction.length + valueOf fraction, -(fraction.length : ℤ)⟩ := by
  have hall : ∀ c ∈ digits whole, c.isDigit = true := fun _ => isDigit_of_mem_digits
  have hwhole : ((digits whole ++ rest).takeWhile Char.isDigit) = digits whole := by
    rw [hend.takeWhile_append, List.takeWhile_eq_self_iff.2 hall]
  have hrest : ((digits whole ++ rest).dropWhile Char.isDigit) = rest := by
    rw [hend.dropWhile_append, List.dropWhile_eq_nil_iff.2 hall, List.nil_append]
  have hsome : (digits whole).isEmpty = false := List.isEmpty_eq_false_iff.2 (digits_ne_nil whole)
  simp only [readScaled?, hwhole, hrest, hsplit, hsome, Bool.false_and, Bool.false_eq_true,
    if_false, readExponent?, Option.map_some, valueOf_append, valueOf_digits, Int.zero_sub]

/-- A whole part and a fraction are read as the number that their digits write together. -/
theorem readScaled?_pointed (whole : ℕ) {fraction : List Char}
    (h : ∀ c ∈ fraction, c.isDigit = true) : readScaled? (pointed whole fraction) =
      some ⟨whole * 10 ^ fraction.length + valueOf fraction, -(fraction.length : ℤ)⟩ := by
  unfold pointed
  split
  · next hempty =>
    obtain rfl := List.isEmpty_iff.1 hempty
    rw [← List.append_nil (digits whole)]
    exact readScaled?_digits_append whole endsNumber_nil rfl
  · refine readScaled?_digits_append whole (endsNumber_cons rfl fraction) ?_
    rw [splitFraction, List.takeWhile_eq_self_iff.2 h, List.dropWhile_eq_nil_iff.2 h]

theorem valueOf_append_zeros (ds : List Char) (k : ℕ) :
    valueOf (ds ++ List.replicate k '0') = valueOf ds * 10 ^ k := by
  have hzeros : valueOf (List.replicate k '0') = 0 := by
    rw [valueOf, Nat.ofDigitChars_replicate_zero, Nat.mul_zero]
  rw [valueOf_append, List.length_replicate, hzeros, Nat.add_zero]

/-- The fraction without the zeros at its end, together with the whole part, still writes the
decimal. -/
theorem value_trimZeros {k : ℕ} (hk : 0 < k) (c : ℕ) :
    let fraction := trimZeros (padded k (c % 10 ^ k))
    (∀ d ∈ fraction, d.isDigit = true) ∧
      Scaled.value ⟨c / 10 ^ k * 10 ^ fraction.length + valueOf fraction,
        -(fraction.length : ℤ)⟩ = Scaled.value ⟨c, -(k : ℤ)⟩ := by
  intro fraction
  obtain ⟨zeros, hzeros⟩ := exists_trimZeros_append (padded k (c % 10 ^ k))
  have hlength : fraction.length + zeros = k := by
    have hpadded := length_padded hk (Nat.mod_lt c (Nat.pow_pos (by decide)))
    rw [hzeros, List.length_append, List.length_replicate] at hpadded
    exact hpadded
  have hvalue : valueOf fraction * 10 ^ zeros = c % 10 ^ k := by
    rw [← valueOf_append_zeros, ← hzeros, valueOf_padded]
  have hcoefficient : (c / 10 ^ k * 10 ^ fraction.length + valueOf fraction) * 10 ^ zeros = c := by
    rw [Nat.add_mul, hvalue, Nat.mul_assoc, ← Nat.pow_add, hlength]
    exact Nat.div_add_mod' c (10 ^ k)
  refine ⟨fun d hd => ?_, ?_⟩
  · have hmem : d ∈ padded k (c % 10 ^ k) := by
      rw [hzeros]
      exact List.mem_append_left _ hd
    exact isDigit_of_mem_padded hmem
  · have hexponent : -(fraction.length : ℤ) = -(k : ℤ) + zeros := by omega
    rw [hexponent, ← Scaled.value_mul_pow, hcoefficient]

/-- A decimal in positional form has a whole part, and perhaps a fraction, which together write
it. -/
theorem exists_positional_eq_pointed (d : Scaled) :
    ∃ whole fraction, d.positional = pointed whole fraction ∧
      (∀ c ∈ fraction, c.isDigit = true) ∧
      Scaled.value ⟨whole * 10 ^ fraction.length + valueOf fraction, -(fraction.length : ℤ)⟩
        = d.value := by
  obtain ⟨c, e⟩ := d
  unfold Scaled.positional
  split
  · next hexponent =>
    obtain ⟨k, rfl⟩ := Int.eq_ofNat_of_zero_le hexponent
    refine ⟨c * 10 ^ k, [], rfl, List.forall_mem_nil _, ?_⟩
    simpa [valueOf] using Scaled.value_mul_pow c k 0
  · next hexponent =>
    obtain ⟨k, hk⟩ := Int.eq_ofNat_of_zero_le (a := -e) (by dsimp only at hexponent; omega)
    obtain rfl : e = -(k : ℤ) := by omega
    obtain ⟨hdigits, hvalue⟩ := value_trimZeros (by dsimp only at hexponent; omega : 0 < k) c
    dsimp only
    rw [Int.neg_neg, Int.toNat_natCast]
    exact ⟨_, _, rfl, hdigits, hvalue⟩

/-- A decimal in positional form is read as one of the same value. -/
theorem exists_readScaled?_positional (d : Scaled) :
    ∃ e, readScaled? d.positional = some e ∧ e.value = d.value := by
  obtain ⟨whole, fraction, hpointed, hdigits, hvalue⟩ := exists_positional_eq_pointed d
  exact ⟨_, hpointed ▸ readScaled?_pointed whole hdigits, hvalue⟩

/-- There is no exponent in positional form. -/
theorem mem_positional {d : Scaled} {c : Char} (hc : c ∈ d.positional) :
    c.isDigit = true ∨ c = '.' := by
  obtain ⟨whole, fraction, hpointed, hdigits, -⟩ := exists_positional_eq_pointed d
  rw [hpointed, pointed] at hc
  split at hc
  · exact .inl (isDigit_of_mem_digits hc)
  · rcases List.mem_append.1 hc with hmem | hmem
    · exact .inl (isDigit_of_mem_digits hmem)
    · exact (List.mem_cons.1 hmem).symm.imp_left (hdigits c)

/-- A digit comes first. -/
theorem exists_positional_eq_cons (d : Scaled) :
    ∃ c cs, c.isDigit = true ∧ d.positional = c :: cs := by
  obtain ⟨whole, fraction, hpointed, -⟩ := exists_positional_eq_pointed d
  obtain ⟨c, cs, hc, hwhole⟩ := exists_padded_eq_cons 0 whole
  rw [padded_zero] at hwhole
  rw [hpointed, pointed, hwhole]
  split
  · exact ⟨c, cs, hc, rfl⟩
  · exact ⟨c, cs ++ '.' :: fraction, hc, rfl⟩

end Decimal

/-! ## Numerals -/

/-- Text that begins with a digit is no word. -/
theorem readUnsignedNumeral?_of_isDigit {c : Char} (hc : c.isDigit = true) (cs : List Char) :
    readUnsignedNumeral? (c :: cs) = (Decimal.readScaled? (c :: cs)).map .decimal := by
  have hword {d : Char} (hd : 57 < d.toNat) (ds : List Char) :
      ((c :: cs).map Char.toLower == d :: ds) = false := by
    have hbounds := Char.isDigit_iff_toNat.1 hc
    have hnine : '9'.toNat = 57 := rfl
    have hlower : c.toLower.toNat = c.toNat := by rw [toNat_toLower, if_neg (by omega)]
    rw [beq_eq_false_iff_ne, List.map_cons]
    rintro heq
    rw [(List.cons_eq_cons.1 heq).1] at hlower
    omega
  have hinf : ((c :: cs).map Char.toLower == "inf".toList) = false := hword (by decide) _
  have hinfinity : ((c :: cs).map Char.toLower == "infinity".toList) = false :=
    hword (by decide) _
  have hnan : ((c :: cs).map Char.toLower == "nan".toList) = false := hword (by decide) _
  simp only [readUnsignedNumeral?, hinf, hinfinity, hnan, Bool.or_self, Bool.false_eq_true,
    if_false]

/-- A minus sign in front sets the sign, and nothing else. -/
theorem readNumeral?_signed (negative : Bool) {cs : List Char}
    (hcs : ∀ c ∈ cs.head?, c ≠ '-' ∧ c ≠ '+') :
    readNumeral? (if negative then '-' :: cs else cs) =
      (readUnsignedNumeral? cs).map (negative, ·) := by
  cases negative with
  | true => rfl
  | false =>
    simp only [Bool.false_eq_true, if_false]
    unfold readNumeral?
    split
    · exact absurd rfl (hcs '-' rfl).1
    · exact absurd rfl (hcs '+' rfl).2
    · rfl

namespace Binary64

/-! ## The size of a number -/

theorem ofMagnitude_eq {x : Binary64} {m : ℕ} (hm : m ≤ binary64.infinity)
    (h : m = x.magnitude) : ofMagnitude x.negative m hm = x := by
  subst h
  rfl

theorem magnitude_le_infinity {x : Binary64} (h : x.isNaN = false) :
    x.magnitude ≤ binary64.infinity :=
  Nat.not_lt.1 (of_decide_eq_false h)

/-- The text of a number without its sign. -/
def sizeText (x : Binary64) : List Char :=
  if x.isInfinite then "inf".toList
  else if x.magnitude = 0 then ['0']
  else (shortest x.magnitude).positional

theorem text_of_isNaN {x : Binary64} (h : x.isNaN = true) : x.text = "NaN".toList := if_pos h

theorem text_of_not_isNaN {x : Binary64} (h : x.isNaN = false) :
    x.text = if x.negative then '-' :: x.sizeText else x.sizeText :=
  if_neg (ne_true_of_eq_false h)

/-- A finite number is written as a decimal that is rounded to it: as its shortest decimal, unless
it is zero. -/
theorem exists_sizeText_eq_positional {x : Binary64} (h : x.magnitude < binary64.infinity) :
    ∃ d : Decimal.Scaled, x.sizeText = d.positional ∧ binary64.ofScaled d = x.magnitude ∧
      (x.magnitude ≠ 0 → IsShortest x.magnitude d) := by
  have hfinite : x.isInfinite = false := beq_eq_false_iff_ne.2 h.ne
  simp only [sizeText, hfinite, Bool.false_eq_true, if_false]
  split
  · next hzero =>
    exact ⟨⟨0, 0⟩, rfl, by rw [hzero]; decide +kernel, fun hne => absurd hzero hne⟩
  · next hne =>
    have hshortest := isShortest_shortest (Nat.pos_of_ne_zero hne) h.le
    exact ⟨_, rfl, hshortest.reads_back, fun _ => hshortest⟩

/-- The size of a number is read back from its text, and is no sign. -/
theorem exists_readUnsignedNumeral?_sizeText {x : Binary64} (h : x.isNaN = false) :
    (∀ c ∈ x.sizeText.head?, c ≠ '-' ∧ c ≠ '+') ∧
      ∃ n, readUnsignedNumeral? x.sizeText = some n ∧ ofNumeral x.negative n = x := by
  rcases Nat.lt_or_eq_of_le (magnitude_le_infinity h) with hfinite | hinfinite
  · obtain ⟨d, htext, hround, -⟩ := exists_sizeText_eq_positional hfinite
    obtain ⟨c, cs, hc, hcons⟩ := Decimal.exists_positional_eq_cons d
    obtain ⟨e, hread, hvalue⟩ := Decimal.exists_readScaled?_positional d
    rw [htext]
    constructor
    · rw [hcons]
      rintro _ ⟨⟩
      constructor <;> rintro rfl <;> cases hc
    · refine ⟨.decimal e, ?_, ?_⟩
      · rw [hcons, readUnsignedNumeral?_of_isDigit hc, ← hcons, hread, Option.map_some]
      · refine ofMagnitude_eq (binary64.ofScaled_le_infinity e.clamped) ?_
        rw [ofScaled_clamped, binary64.ofScaled_congr hvalue, hround]
  · have htext : x.sizeText = "inf".toList := if_pos (beq_iff_eq.2 hinfinite)
    rw [htext]
    exact ⟨by rintro _ ⟨⟩; decide, .infinity, rfl, ofMagnitude_eq (Nat.le_refl _) hinfinite.symm⟩

/-! ## Numbers -/

/-- Reading rounds to the nearest number. -/
theorem isNearest_ofNumeral (negative : Bool) (d : Decimal.Scaled) :
    binary64.IsNearest d.value (ofNumeral negative (.decimal d)).magnitude := by
  have hmagnitude : (ofNumeral negative (.decimal d)).magnitude = binary64.ofScaled d :=
    ofScaled_clamped d
  rw [hmagnitude]
  exact binary64.isNearest_ofScaled d

/-- Every number other than NaN is read back from its text, bit by bit. -/
theorem read?_text {x : Binary64} (h : x.isNaN = false) : read? x.text = some x := by
  obtain ⟨hhead, n, hread, hnumeral⟩ := exists_readUnsignedNumeral?_sizeText h
  rw [text_of_not_isNaN h, read?, readNumeral?_signed _ hhead, hread]
  exact congrArg some hnumeral

/-- A NaN is read back as a NaN without a sign. -/
theorem read?_text_of_isNaN {x : Binary64} (h : x.isNaN = true) :
    read? x.text = some (quietNaN false) := by
  rw [text_of_isNaN h]
  rfl

theorem isBlank_of_mem_sizeText {x : Binary64} (h : x.isNaN = false) {c : Char}
    (hc : c ∈ x.sizeText) : Text.isBlank c = false := by
  rcases Nat.lt_or_eq_of_le (magnitude_le_infinity h) with hfinite | hinfinite
  · obtain ⟨d, htext, -⟩ := exists_sizeText_eq_positional hfinite
    rw [htext] at hc
    rcases Decimal.mem_positional hc with hdigit | rfl
    · exact Text.isBlank_of_isDigit hdigit
    · rfl
  · have htext : x.sizeText = "inf".toList := if_pos (beq_iff_eq.2 hinfinite)
    have hword : ∀ c ∈ ['i', 'n', 'f'], Text.isBlank c = false := by simp [Text.isBlank]
    rw [htext] at hc
    exact hword c hc

/-- There are no blanks in the text of a number. -/
theorem isBlank_of_mem_text {x : Binary64} : ∀ c ∈ x.text, Text.isBlank c = false := by
  cases h : x.isNaN with
  | true =>
    have hword : ∀ c ∈ ['N', 'a', 'N'], Text.isBlank c = false := by simp [Text.isBlank]
    rw [text_of_isNaN h]
    exact hword
  | false =>
    rw [text_of_not_isNaN h]
    split
    · exact List.forall_mem_cons.2 ⟨rfl, fun c => isBlank_of_mem_sizeText h⟩
    · exact fun c => isBlank_of_mem_sizeText h

theorem trim_text (x : Binary64) : Text.trim x.text = x.text :=
  Text.trim_eq_self (fun c hc => isBlank_of_mem_text c (List.mem_of_head? hc))
    fun c hc => isBlank_of_mem_text c (List.mem_of_getLast? hc)

end Binary64

/-! ## Literals -/

namespace Literal

variable {x : Binary64} (kind : FieldKind)

theorem float?_display (h : x.isNaN = false) :
    float? (Number.float x).display kind = some (.number (.float x)) := by
  rw [float?, Number.display, String.toList_ofList, Binary64.trim_text, Number.readFloat?,
    Binary64.read?_text h, Option.map_some, Option.map_some]

theorem float?_display_of_isNaN (h : x.isNaN = true) :
    float? (Number.float x).display kind = some (.number (.float (.quietNaN false))) := by
  rw [float?, Number.display, String.toList_ofList, Binary64.trim_text, Number.readFloat?,
    Binary64.read?_text_of_isNaN h, Option.map_some, Option.map_some]

/-- Every NaN is written alike. -/
theorem display_of_isNaN (h : x.isNaN = true) : (Number.float x).display = "NaN" := by
  rw [Number.display, Binary64.text_of_isNaN h]
  rfl

/-- **Float literals survive being written and read.** A number other than NaN is read back from
its text bit by bit, and from the text of a NaN a NaN is read. So a text that is read as a float
gets a normal form by being read, written and read again: to do it once more changes nothing, and
only the bits of a NaN may have changed on the way. -/
theorem float?_round_trip :
    (∀ x : Binary64, x.isNaN = false →
      float? (Number.float x).display kind = some (.number (.float x))) ∧
    (∀ x : Binary64, x.isNaN = true → ∃ y : Binary64, y.isNaN = true ∧
      float? (Number.float x).display kind = some (.number (.float y))) ∧
    ∀ (s : String) (v : Scalar), float? s kind = some v →
      ∃ w, float? v.display kind = some w ∧ float? w.display kind = some w ∧
        w.display = v.display ∧ w.isNaN = v.isNaN ∧ (v.isNaN = false → w = v) := by
  refine ⟨fun x => float?_display kind,
    fun x h => ⟨.quietNaN false, rfl, float?_display_of_isNaN kind h⟩, fun s v hread => ?_⟩
  obtain ⟨n, hn, rfl⟩ := Option.map_eq_some_iff.1 hread
  obtain ⟨x, -, rfl⟩ := Option.map_eq_some_iff.1 hn
  cases h : x.isNaN with
  | false =>
    have hback := float?_display kind h
    exact ⟨_, hback, hback, rfl, rfl, fun _ => rfl⟩
  | true =>
    have hnan : (Binary64.quietNaN false).isNaN = true := rfl
    refine ⟨_, float?_display_of_isNaN kind h, float?_display_of_isNaN kind hnan, ?_, h.symm, ?_⟩
    · exact (display_of_isNaN hnan).trans (display_of_isNaN h).symm
    · intro hfalse
      exact absurd (h.symm.trans hfalse) (by decide)

/-- Negative zero, the least positive number, a number that needs all of seventeen digits, the
greatest finite number and infinity are read back. The sign of a NaN is lost. -/
theorem float?_round_trip_extremes :
    let zero : Binary64 := ⟨true, 0, by decide⟩
    let least : Binary64 := ⟨false, 1, by decide⟩
    let long : Binary64 := ⟨false, 0x3FD3333333333334, by decide⟩
    let greatest : Binary64 := ⟨true, binary64.infinity - 1, by decide⟩
    (zero.text = "-0".toList ∧ long.text = "0.30000000000000004".toList) ∧
    (∀ x ∈ [zero, least, long, greatest, .infinite true],
      float? (Number.float x).display .float = some (.number (.float x))) ∧
    (∃ y : Binary64, y.isNaN = true ∧
      float? (Number.float (.quietNaN true)).display .float = some (.number (.float y))) ∧
    float? "\t-nAn " .float = some (.number (.float (.quietNaN true))) ∧
    ∃ w, float? (Scalar.number (.float (.quietNaN true))).display .float = some w ∧
      float? w.display .float = some w ∧ w.display = "NaN" := by
  intro zero least long greatest
  obtain ⟨hnumbers, hnan, hnormal⟩ := float?_round_trip .float
  have hread : float? "\t-nAn " .float = some (.number (.float (.quietNaN true))) := rfl
  obtain ⟨w, hw, hback, hdisplay, -⟩ := hnormal _ _ hread
  refine ⟨⟨rfl, by decide +kernel⟩, ?_, hnan _ rfl, hread, w, hw, hback, hdisplay⟩
  have hall : ∀ x ∈ [zero, least, long, greatest, .infinite true], x.isNaN = false := by decide
  exact fun x hx => hnumbers x (hall x hx)

end Literal

end PagedQuery
