import PagedQuery.Json.Printer
import PagedQuery.Proofs.JsonReading

/-!
# Written JSON documents are read back

Each kind of document is read from its text as the document that was written. An array is
read back if its elements are, an object with texts for names if its members are: nothing
else is asked of the parts, not even that they be read as what they were written for.
-/

namespace PagedQuery.Json

open Decimal

/-! ## Strings -/

section

variable (c : Char) (read : List Nat) (cs : List Char)

/-- The two digits of a control character write its code point. -/
theorem hexUnit?_hexChar :
    ∀ n < 0x20, hexUnit? '0' '0' (hexChar (n / 16)) (hexChar n) = some n := by
  decide

/-- The letter that is written for a character is read as the character. -/
theorem letterEscape?_of_escapeLetter? {e : Char} (h : escapeLetter? c = some e) :
    letterEscape? e = some c.toNat := by
  unfold escapeLetter? at h
  split at h
  all_goals cases h
  all_goals rfl

/-- A character is read back as one code unit, escaped or not. -/
theorem readUnits?_escapeChar :
    readUnits? read (escapeChar c ++ cs) = readUnits? (c.toNat :: read) cs := by
  unfold escapeChar
  split
  · next e hletter =>
    exact readUnits?_letterEscape (letterEscape?_of_escapeLetter? c hletter) read cs
  · next hletter =>
    have hplain : c ≠ '"' ∧ c ≠ '\\' := by
      constructor
      all_goals
        rintro rfl
        cases hletter
    split
    · next hcontrol => exact readUnits?_hexEscape (hexUnit?_hexChar _ hcontrol) read cs
    · next hcontrol => exact readUnits?_plain hplain.1 hplain.2 hcontrol read cs

theorem readUnits?_escaped (text : List Char) :
    readUnits? read (text.flatMap escapeChar ++ '"' :: cs) =
      some (read.reverse ++ text.map Char.toNat, cs) := by
  induction text generalizing read with
  | nil => rw [List.map_nil, List.append_nil]; rfl
  | cons c text ih =>
    rw [List.flatMap_cons, List.append_assoc, readUnits?_escapeChar, ih, List.reverse_cons,
      List.append_assoc]
    rfl

/-- No character is half of a surrogate pair. -/
theorem isHalf_toNat : isHighHalf c.toNat = false ∧ isLowHalf c.toNat = false := by
  have hvalid : c.toNat < 0xD800 ∨ 0xDFFF < c.toNat := by
    rcases c.valid with h | h
    · exact .inl h
    · exact .inr h.1
  simp only [isHighHalf, isLowHalf, Bool.and_eq_false_iff, decide_eq_false_iff_not]
  omega

theorem textOfUnits?_cons (units : List Nat) :
    textOfUnits? (c.toNat :: units) = (textOfUnits? units).map (c :: ·) := by
  obtain ⟨hhigh, hlow⟩ := isHalf_toNat c
  cases units with
  | nil =>
    simp only [textOfUnits?, hhigh, hlow, Char.ofNat_toNat, Bool.or_self, Bool.false_eq_true,
      if_false, Option.map_some]
  | cons next units =>
    simp only [textOfUnits?, hhigh, hlow, Char.ofNat_toNat, Bool.false_eq_true, if_false]

theorem textOfUnits?_toNat (text : List Char) :
    textOfUnits? (text.map Char.toNat) = some text := by
  induction text with
  | nil => rfl
  | cons c text ih => rw [List.map_cons, textOfUnits?_cons, ih]; rfl

/-- A text is read back from its string. -/
theorem readString?_escaped (s : String) :
    readString? (s.toList.flatMap escapeChar ++ '"' :: cs) = some (some s, cs) := by
  rw [readString?, readUnits?_escaped, Option.map_some, List.reverse_nil, List.nil_append]
  simp only [textOfUnits?_toNat, Option.map_some, String.ofList_toList]

end

/-! ## Numbers -/

/-- The digits of a number have no leading zero. -/
theorem isWhole_digits (n : Nat) : isWhole (digits n) = true := by
  have hne : (digits n).isEmpty = false := List.isEmpty_eq_false_iff.2 (digits_ne_nil n)
  by_cases hzero : n = 0
  · rw [hzero]
    rfl
  · have hhead : (digits n).head? ≠ some '0' := fun h => hzero (eq_zero_of_head?_digits h)
    simp [isWhole, hne, hhead]

theorem digits_ne_zero {n : Nat} (h : n ≠ 0) : (digits n == ['0']) = false := by
  rw [beq_eq_false_iff_ne]
  intro hzero
  exact h (eq_zero_of_head?_digits (by rw [hzero]; rfl))

section

variable {tail : List Char}

/-- A number is read back from its digits; only zero takes no minus sign. -/
theorem readUnsigned?_digits {negative : Bool} {n : Nat} (h : negative = true → n ≠ 0)
    (htail : EndsDocument tail) :
    readUnsigned? negative (digits n ++ tail) =
      some (integer (if negative then -(n : Int) else n), tail) := by
  have hdigits : ∀ c ∈ digits n, c.isDigit = true := fun _ => isDigit_of_mem_digits
  have hwhole : (digits n ++ tail).takeWhile Char.isDigit = digits n := by
    rw [htail.endsNumber.takeWhile_append, List.takeWhile_eq_self_iff.2 hdigits]
  have hrest : (digits n ++ tail).dropWhile Char.isDigit = tail := by
    rw [htail.endsNumber.dropWhile_append, List.dropWhile_eq_nil_iff.2 hdigits, List.nil_append]
  have hzero : (negative && digits n == ['0']) = false := by
    cases negative with
    | false => rfl
    | true => rw [digits_ne_zero (h rfl)]; rfl
  simp only [readUnsigned?, hwhole, hrest, splitPoint?_of_endsDocument htail,
    splitExponent?_of_endsDocument htail, isWhole_digits, hzero, valueOf_digits,
    Option.bind_eq_bind, Option.bind_some, Bool.not_true, Bool.false_eq_true, if_false,
    List.isEmpty_nil, Bool.not_false, Bool.and_self, if_true]
  rfl

theorem exists_digits_eq_cons (n : Nat) :
    ∃ c cs, c.isDigit = true ∧ digits n = c :: cs := by
  rw [← padded_zero]
  exact exists_padded_eq_cons 0 n

theorem readNumber?_integerText (n : Int) (htail : EndsDocument tail) :
    readNumber? (integerText n ++ tail) = some (integer n, tail) := by
  cases n with
  | ofNat n =>
    obtain ⟨c, cs, hdigit, hcons⟩ := exists_digits_eq_cons n
    have hsign : c ≠ '-' := by
      rintro rfl
      cases hdigit
    have hread : readUnsigned? false (digits n ++ tail) = some (integer n, tail) :=
      readUnsigned?_digits nofun htail
    rw [integerText, hcons, List.cons_append, readNumber?_cons hsign]
    rwa [hcons] at hread
  | negSucc n =>
    have hread : readUnsigned? true (digits (n + 1) ++ tail) = some (integer (.negSucc n), tail) :=
      readUnsigned?_digits (fun _ => Nat.succ_ne_zero n) htail
    exact hread

/-- The text of an integer begins with a digit or a minus sign. -/
theorem exists_integerText_eq_cons (n : Int) :
    ∃ c cs, (c = '-' ∨ c.isDigit = true) ∧ integerText n = c :: cs := by
  cases n with
  | ofNat n =>
    obtain ⟨c, cs, hdigit, hcons⟩ := exists_digits_eq_cons n
    exact ⟨c, cs, .inr hdigit, hcons⟩
  | negSucc n => exact ⟨'-', _, .inl rfl, rfl⟩

end

/-! ## Documents -/

/-- A text is read as a document if one step under every bound does it. -/
theorem ReadsAs.of_step {cs : List Char} {j : Json}
    (h : ∀ (n : Nat) (tail : List Char), cs.length ≤ n → EndsDocument tail →
      ValueStep n (cs ++ tail) j tail) : ReadsAs cs j := by
  refine ⟨[], rfl, fun n tail hn htail => ?_⟩
  cases n with
  | zero => exact absurd hn (Nat.not_lt_zero _)
  | succ n => exact readValue?_succ_eq_some_iff.2 (h n tail (Nat.le_of_lt_succ hn) htail)

theorem ReadsAs.null : ReadsAs (renderChars null) null :=
  .of_step fun _ _ _ _ => .atom rfl

theorem ReadsAs.text (s : String) : ReadsAs (renderChars (.text s)) (.text s) := by
  refine .of_step fun _ tail _ _ => .string ?_ (readString?_escaped tail s)
  simp only [Json.text, renderChars, renderString, quote, List.append_assoc, List.cons_append,
    List.nil_append]
  exact skipSpace_cons rfl _

theorem isSpace_eq_false {c : Char} (h : c = '-' ∨ c.isDigit = true) : isSpace c = false := by
  rw [Bool.eq_false_iff]
  intro hspace
  simp only [isSpace, Bool.or_eq_true, beq_iff_eq] at hspace
  rcases hspace with ((rfl | rfl) | rfl) | rfl
  all_goals
    revert h
    decide

theorem ReadsAs.integer (n : Int) : ReadsAs (renderChars (.integer n)) (.integer n) := by
  refine .of_step fun _ tail _ htail => .atom ?_
  obtain ⟨c, cs, hfirst, hcons⟩ := exists_integerText_eq_cons n
  have hread := readNumber?_integerText n htail
  rw [hcons] at hread
  rw [renderChars, hcons, List.cons_append, skipSpace_cons (isSpace_eq_false hfirst),
    readAtom?_cons hfirst]
  exact hread

/-! ### Arrays -/

/-- The elements of an array are read one after another, up to the closing bracket. -/
theorem readElements?_render {as bs : List Json}
    (h : List.Forall₂ (fun a b => ReadsAs a.renderChars b) as bs) {a b : Json}
    (hab : ReadsAs a.renderChars b) (read : List Json) {n : Nat} (tail : List Char)
    (hn : (a.renderChars ++ renderElements as).length < n) :
    readElements? n read (a.renderChars ++ (renderElements as ++ tail)) =
      some (.array (read.reverse ++ b :: bs), tail) := by
  induction h generalizing a b read n with
  | nil =>
    obtain ⟨n, rfl⟩ := Nat.exists_eq_add_one_of_ne_zero (Nat.ne_zero_of_lt hn)
    simp only [renderElements, List.length_append, List.length_cons, List.length_nil] at hn
    obtain ⟨after, hvalue, hclose⟩ := hab.readValue? (n := n) (by omega) (c := ']') (by decide) tail
    have hstep : ElementStep n read _ (.array (b :: read).reverse) tail := .last hvalue hclose
    rw [List.reverse_cons] at hstep
    exact readElements?_succ_eq_some_iff.2 hstep
  | @cons a' b' as bs hab' _ ih =>
    obtain ⟨n, rfl⟩ := Nat.exists_eq_add_one_of_ne_zero (Nat.ne_zero_of_lt hn)
    simp only [renderElements, List.length_append, List.length_cons, List.cons_append] at hn
    obtain ⟨after, hvalue, hcomma⟩ := hab.readValue? (n := n) (by omega) (c := ',') (by decide)
      (a'.renderChars ++ (renderElements as ++ tail))
    have hmore := ih hab' (b :: read) (n := n) (by rw [List.length_append]; omega)
    have hread := readElements?_succ_eq_some_iff.2 (.next hvalue hcomma hmore)
    simpa only [renderElements, List.cons_append, List.append_assoc, List.reverse_cons,
      List.nil_append] using hread

/-- An array is read back if each of its elements is. -/
theorem ReadsAs.array {as bs : List Json}
    (h : List.Forall₂ (fun a b => ReadsAs a.renderChars b) as bs) :
    ReadsAs (renderChars (.array as)) (.array bs) := by
  refine .of_step fun n tail hn htail => ?_
  cases h with
  | nil => exact .noElements rfl rfl
  | @cons a b as bs hab h =>
    have hlength : (a.renderChars ++ renderElements as).length < n := by
      simp only [renderChars, List.length_append, List.length_cons] at hn ⊢
      omega
    have hbody := readElements?_render h hab [] tail hlength
    refine .elements ?_ hbody
    simp only [renderChars, List.cons_append, List.append_assoc]
    exact skipSpace_cons rfl _

/-! ### Objects -/

/-- A member whose name is a text. -/
def member (m : String × Json) : Option String × Json := (some m.1, m.2)

theorem record_eq (ms : List (String × Json)) : record ms = object (ms.map member) := rfl

theorem skipSpace_quote (name : String) (cs : List Char) :
    skipSpace (quote name ++ cs) = '"' :: (name.toList.flatMap escapeChar ++ '"' :: cs) := by
  rw [quote, List.append_assoc]
  exact skipSpace_cons rfl _

/-- The members of an object are read one after another, up to the closing bracket. -/
theorem readMembers?_render {ms ms' : List (String × Json)}
    (h : List.Forall₂ (fun m m' => m.1 = m'.1 ∧ ReadsAs m.2.renderChars m'.2) ms ms')
    (name : String) {v v' : Json} (hv : ReadsAs v.renderChars v')
    (read : List (Option String × Json)) {n : Nat} (tail : List Char)
    (hn : (v.renderChars ++ renderMembers (ms.map member)).length < n) :
    readMembers? n read (quote name ++ ':' :: (v.renderChars ++
      (renderMembers (ms.map member) ++ tail))) =
      some (.object (read.reverse ++ (some name, v') :: ms'.map member), tail) := by
  have hcolon (cs : List Char) : skipSpace (':' :: cs) = ':' :: cs := skipSpace_cons rfl cs
  induction h generalizing name v v' read n with
  | nil =>
    obtain ⟨n, rfl⟩ := Nat.exists_eq_add_one_of_ne_zero (Nat.ne_zero_of_lt hn)
    simp only [List.map_nil, renderMembers, List.length_append, List.length_cons,
      List.length_nil] at hn
    obtain ⟨after, hvalue, hclose⟩ := hv.readValue? (n := n) (by omega) (c := '\x7d') (by decide)
      tail
    have hstep : MemberStep n read _ (.object ((some name, v') :: read).reverse) tail :=
      .last (skipSpace_quote name _) (readString?_escaped _ name) (hcolon _) hvalue hclose
    rw [List.reverse_cons] at hstep
    exact readMembers?_succ_eq_some_iff.2 hstep
  | @cons m m' ms ms' hm _ ih =>
    obtain ⟨n, rfl⟩ := Nat.exists_eq_add_one_of_ne_zero (Nat.ne_zero_of_lt hn)
    obtain ⟨hname, hm⟩ := hm
    simp only [List.map_cons, member, renderMembers, renderString, List.length_append,
      List.length_cons, List.cons_append] at hn
    obtain ⟨after, hvalue, hcomma⟩ := hv.readValue? (n := n) (by omega) (c := ',') (by decide)
      (quote m.1 ++ ':' :: (m.2.renderChars ++ (renderMembers (ms.map member) ++ tail)))
    have hmore := ih m.1 hm ((some name, v') :: read) (n := n)
      (by rw [List.length_append]; omega)
    have hread := readMembers?_succ_eq_some_iff.2 (MemberStep.next (skipSpace_quote name _)
      (readString?_escaped _ name) (hcolon _) hvalue hcomma hmore)
    simpa only [List.map_cons, member, renderMembers, renderString, List.cons_append,
      List.append_assoc, List.reverse_cons, List.nil_append, hname] using hread

/-- An object with texts for names is read back if the document of each member is. -/
theorem ReadsAs.record {ms ms' : List (String × Json)}
    (h : List.Forall₂ (fun m m' => m.1 = m'.1 ∧ ReadsAs m.2.renderChars m'.2) ms ms') :
    ReadsAs (renderChars (.record ms)) (.record ms') := by
  rw [record_eq, record_eq]
  refine .of_step fun n tail hn htail => ?_
  cases h with
  | nil => exact .noMembers rfl rfl
  | @cons m m' ms ms' hm h =>
    obtain ⟨hname, hm⟩ := hm
    simp only [List.map_cons, member, renderChars, renderString, List.length_append,
      List.length_cons, List.cons_append] at hn
    have hbody := readMembers?_render h m.1 hm [] (n := n) tail
      (by rw [List.length_append]; omega)
    rw [List.map_cons, List.map_cons, member, member, ← hname]
    refine .members ?_ hbody
    simp only [renderChars, renderString, List.cons_append,
      List.append_assoc]
    exact skipSpace_cons rfl _

/-! ### Whole texts -/

theorem read?_render_iff {written j : Json} :
    read? written.render = some j ↔ ReadsAs written.renderChars j := by
  rw [← readsAs_toList_iff, render, String.toList_ofList]

end PagedQuery.Json
