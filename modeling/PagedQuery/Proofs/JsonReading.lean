import Mathlib.Data.List.DropRight
import PagedQuery.Json.Reader
import PagedQuery.Proofs.DigitTexts

/-!
# Reading a JSON document looks at nothing behind it

Once a document is read from the front of a text, more text behind it changes nothing:
the same document is read, and the added text stays unread. Only a number has to know
what follows, since its digits could go on.

The bound on the recursion is no part of the meaning either. Where a document is read
under one bound it is read under every larger one.

## Main definitions

* `EndsDocument tail`: the text `tail` does not go on with a number.
* `ReadsAs cs j`: the whole of `cs` writes the document `j`, in front of any such text.
-/

namespace PagedQuery.Json

open Decimal

/-- Holds of text that does not go on with a number. -/
def EndsDocument (tail : List Char) : Prop :=
  ∀ c ∈ tail.head?, c.isDigit = false ∧ c ≠ '.' ∧ c ≠ 'e' ∧ c ≠ 'E'

theorem endsDocument_nil : EndsDocument [] := by
  intro c hc
  cases hc

theorem endsDocument_cons {c : Char} (h : c ∈ [',', ']', '\x7d']) (cs : List Char) :
    EndsDocument (c :: cs) := by
  rintro _ ⟨⟩
  simp only [List.mem_cons, List.not_mem_nil, or_false] at h
  rcases h with rfl | rfl | rfl
  all_goals decide

section

variable {cs rest tail : List Char}

theorem EndsDocument.endsNumber (h : EndsDocument tail) : EndsNumber tail :=
  fun c hc => (h c hc).1

/-! ## White space -/

theorem skipSpace_append {c : Char} (h : skipSpace cs = c :: rest) (tail : List Char) :
    skipSpace (cs ++ tail) = c :: (rest ++ tail) := by
  unfold skipSpace at h ⊢
  rw [List.dropWhile_append, h]
  rfl

theorem skipSpace_cons {c : Char} (h : isSpace c = false) (cs : List Char) :
    skipSpace (c :: cs) = c :: cs := by
  rw [skipSpace, List.dropWhile_cons, h]
  rfl

theorem skipSpace_blank_cons {blank : List Char} {c : Char} (h : blank.all isSpace = true)
    (hc : isSpace c = false) (cs : List Char) : skipSpace (blank ++ c :: cs) = c :: cs :=
  (List.dropWhile_append_of_pos (List.all_eq_true.1 h)).trans (skipSpace_cons hc cs)

theorem skipSpace_idem (cs : List Char) : skipSpace (skipSpace cs) = skipSpace cs :=
  List.dropWhile_idempotent _ _

/-! ## Strings -/

theorem readUnits?_hexEscape {a b c d : Char} {unit : Nat} (h : hexUnit? a b c d = some unit)
    (read : List Nat) (cs : List Char) :
    readUnits? read ('\\' :: 'u' :: a :: b :: c :: d :: cs) = readUnits? (unit :: read) cs := by
  simp only [readUnits?, h]

theorem readUnits?_letterEscape {e : Char} {unit : Nat} (h : letterEscape? e = some unit)
    (read : List Nat) (cs : List Char) :
    readUnits? read ('\\' :: e :: cs) = readUnits? (unit :: read) cs := by
  -- The letter of a hexadecimal escape is no escape of one letter.
  have hletter : e ≠ 'u' := by
    rintro rfl
    cases h
  rw [readUnits?, h]
  intro _ _ _ _ _ hu
  exact absurd hu hletter

theorem readUnits?_plain {c : Char} (hquote : c ≠ '"') (hescape : c ≠ '\\')
    (hcontrol : ¬ c.toNat < 0x20) (read : List Nat) (cs : List Char) :
    readUnits? read (c :: cs) = readUnits? (c.toNat :: read) cs := by
  rw [readUnits?, if_neg hcontrol]
  · exact hquote
  · intro _ _ _ _ _ heq
    exact absurd heq hescape
  · intro _ _ heq
    exact absurd heq hescape

/-- A string ends with its closing quote. -/
theorem readUnits?_append {read units : List Nat} (h : readUnits? read cs = some (units, rest))
    (tail : List Char) : readUnits? read (cs ++ tail) = some (units, rest ++ tail) := by
  fun_induction readUnits? read cs with
  | case1 | case4 | case6 | case7 => cases h
  | case2 =>
    obtain ⟨rfl, rfl⟩ := Prod.mk.inj (Option.some.inj h)
    rfl
  | case3 read a b c d cs unit hunit ih =>
    exact (readUnits?_hexEscape hunit read (cs ++ tail)).trans (ih h)
  | case5 read e cs _ unit hunit ih =>
    exact (readUnits?_letterEscape hunit read (cs ++ tail)).trans (ih h)
  | case8 read c cs hquote _ hescape hcontrol ih =>
    have hne : c ≠ '\\' := by
      rintro rfl
      cases cs with
      | nil => cases h
      | cons e cs => exact hescape e cs rfl rfl
    exact (readUnits?_plain hquote hne hcontrol read (cs ++ tail)).trans (ih h)

theorem readString?_append {s? : Option String} (h : readString? cs = some (s?, rest))
    (tail : List Char) : readString? (cs ++ tail) = some (s?, rest ++ tail) := by
  obtain ⟨⟨units, rest'⟩, hunits, heq⟩ := Option.map_eq_some_iff.1 h
  obtain ⟨rfl, rfl⟩ := Prod.mk.inj heq
  rw [readString?, readUnits?_append hunits]
  rfl

/-! ## Numbers and words -/

theorem splitPoint?_of_endsDocument (h : EndsDocument tail) :
    splitPoint? tail = some ([], tail) := by
  unfold splitPoint?
  split
  · exact absurd rfl (h '.' rfl).2.1
  · rfl

theorem splitExponent?_of_endsDocument (h : EndsDocument tail) :
    splitExponent? tail = some ([], tail) := by
  cases tail with
  | nil => rfl
  | cons c cs =>
    obtain ⟨-, -, he⟩ := h c rfl
    rw [splitExponent?, if_neg (not_or.2 he)]

theorem splitPoint?_append {fraction : List Char} (h : splitPoint? cs = some (fraction, rest))
    (htail : EndsDocument tail) : splitPoint? (cs ++ tail) = some (fraction, rest ++ tail) := by
  unfold splitPoint? at h
  split at h
  · next ds =>
    simp only [List.cons_append, splitPoint?, htail.endsNumber.takeWhile_append,
      htail.endsNumber.dropWhile_append]
    dsimp only at h
    split at h
    · cases h
    · next hdigits =>
      obtain ⟨rfl, rfl⟩ := Prod.mk.inj (Option.some.inj h)
      rw [if_neg hdigits]
  · next hpoint =>
    obtain ⟨rfl, rfl⟩ := Prod.mk.inj (Option.some.inj h)
    cases cs with
    | nil => exact splitPoint?_of_endsDocument htail
    | cons c cs =>
      unfold splitPoint?
      split
      · next heq =>
        obtain ⟨rfl, -⟩ := List.cons.inj heq
        exact absurd rfl (hpoint cs)
      · rfl

/-- The sign of an exponent is found where a digit follows it. -/
theorem splitSign_append {sign : List Char} (h : splitSign cs = (sign, rest)) (hrest : rest ≠ [])
    (tail : List Char) : splitSign (cs ++ tail) = (sign, rest ++ tail) := by
  unfold splitSign at h
  split at h
  all_goals obtain ⟨rfl, rfl⟩ := Prod.mk.inj h
  · rfl
  · rfl
  · next hplus hminus =>
    obtain ⟨c, cs, rfl⟩ := List.exists_cons_of_ne_nil hrest
    unfold splitSign
    split
    · next heq =>
      obtain ⟨rfl, -⟩ := List.cons.inj heq
      exact absurd rfl (hplus cs)
    · next heq =>
      obtain ⟨rfl, -⟩ := List.cons.inj heq
      exact absurd rfl (hminus cs)
    · rfl

theorem splitExponent?_append {exponent : List Char}
    (h : splitExponent? cs = some (exponent, rest)) (htail : EndsDocument tail) :
    splitExponent? (cs ++ tail) = some (exponent, rest ++ tail) := by
  cases cs with
  | nil =>
    obtain ⟨rfl, rfl⟩ := Prod.mk.inj (Option.some.inj h)
    exact splitExponent?_of_endsDocument htail
  | cons c cs =>
    rw [splitExponent?] at h
    rw [List.cons_append, splitExponent?]
    split at h
    · next hletter =>
      rw [if_pos hletter]
      obtain ⟨sign, ds, hsign⟩ : ∃ sign ds, splitSign cs = (sign, ds) := ⟨_, _, rfl⟩
      simp only [hsign] at h
      split at h
      · cases h
      · next hdigits =>
        obtain ⟨rfl, rfl⟩ := Prod.mk.inj (Option.some.inj h)
        have hne : ds ≠ [] := by
          rintro rfl
          exact hdigits rfl
        simp only [splitSign_append hsign hne, htail.endsNumber.takeWhile_append,
          htail.endsNumber.dropWhile_append, if_neg hdigits]
    · next hletter =>
      obtain ⟨rfl, rfl⟩ := Prod.mk.inj (Option.some.inj h)
      rw [if_neg hletter]
      rfl

/-- A number is read the same in front of text that does not go on with it. -/
theorem readUnsigned?_append {negative : Bool} {j : Json}
    (h : readUnsigned? negative cs = some (j, rest)) (htail : EndsDocument tail) :
    readUnsigned? negative (cs ++ tail) = some (j, rest ++ tail) := by
  simp only [readUnsigned?, Option.bind_eq_bind, Option.bind_eq_some_iff] at h
  obtain ⟨⟨fraction, rest₁⟩, hpoint, ⟨exponent, rest₂⟩, hexponent, h⟩ := h
  simp only [readUnsigned?, htail.endsNumber.takeWhile_append, htail.endsNumber.dropWhile_append,
    splitPoint?_append hpoint htail, splitExponent?_append hexponent htail, Option.bind_eq_bind,
    Option.bind_some]
  split at h
  · cases h
  · next hwhole =>
    rw [if_neg hwhole]
    split at h
    · next hinteger =>
      obtain ⟨rfl, rfl⟩ := Prod.mk.inj (Option.some.inj h)
      rw [if_pos hinteger]
      rfl
    · next hinteger =>
      obtain ⟨rfl, rfl⟩ := Prod.mk.inj (Option.some.inj h)
      rw [if_neg hinteger]
      rfl

/-- A number after its sign begins with a digit. -/
theorem exists_digit_of_readUnsigned? {negative : Bool} {result : Json × List Char}
    (h : readUnsigned? negative cs = some result) : ∃ c ds, cs = c :: ds ∧ c.isDigit = true := by
  simp only [readUnsigned?, Option.bind_eq_bind, Option.bind_eq_some_iff] at h
  obtain ⟨_, _, _, _, h⟩ := h
  have hne : cs.takeWhile Char.isDigit ≠ [] := by
    intro hnil
    rw [hnil] at h
    cases h
  cases cs with
  | nil => exact absurd rfl hne
  | cons c ds =>
    refine ⟨c, ds, rfl, ?_⟩
    by_contra hc
    rw [List.takeWhile_cons, if_neg hc] at hne
    exact hne rfl

/-- A number begins with a digit or a minus sign. -/
theorem exists_cons_of_readNumber? {result : Json × List Char}
    (h : readNumber? cs = some result) : ∃ c ds, cs = c :: ds ∧ (c = '-' ∨ c.isDigit = true) := by
  unfold readNumber? at h
  split at h
  · exact ⟨'-', _, rfl, .inl rfl⟩
  · obtain ⟨c, ds, hcons, hdigit⟩ := exists_digit_of_readUnsigned? h
    exact ⟨c, ds, hcons, .inr hdigit⟩

/-- What does not begin with a minus sign is a number without a sign, if it is one. -/
theorem readNumber?_cons {c : Char} (h : c ≠ '-') (cs : List Char) :
    readNumber? (c :: cs) = readUnsigned? false (c :: cs) := by
  unfold readNumber?
  split
  · next heq =>
    obtain ⟨rfl, -⟩ := List.cons.inj heq
    exact absurd rfl h
  · rfl

theorem readNumber?_append {j : Json} (h : readNumber? cs = some (j, rest))
    (htail : EndsDocument tail) : readNumber? (cs ++ tail) = some (j, rest ++ tail) := by
  unfold readNumber? at h
  split at h
  · exact readUnsigned?_append h htail
  · obtain ⟨c, ds, rfl, hdigit⟩ := exists_digit_of_readUnsigned? h
    have hsign : c ≠ '-' := by
      rintro rfl
      cases hdigit
    exact (readNumber?_cons hsign (ds ++ tail)).trans (readUnsigned?_append h htail)

/-- What begins with a digit or a minus sign is a number, if it is a document at all. -/
theorem readAtom?_cons {c : Char} (h : c = '-' ∨ c.isDigit = true) (cs : List Char) :
    readAtom? (c :: cs) = readNumber? (c :: cs) := by
  have hletter : c ∉ ['n', 't', 'f'] := by
    intro hmem
    simp only [List.mem_cons, List.not_mem_nil, or_false] at hmem
    rcases hmem with rfl | rfl | rfl
    all_goals
      revert h
      decide
  unfold readAtom?
  split
  · next heq => simp [(List.cons.inj heq).1] at hletter
  · next heq => simp [(List.cons.inj heq).1] at hletter
  · next heq => simp [(List.cons.inj heq).1] at hletter
  · rfl

theorem readAtom?_append {j : Json} (h : readAtom? cs = some (j, rest))
    (htail : EndsDocument tail) : readAtom? (cs ++ tail) = some (j, rest ++ tail) := by
  unfold readAtom? at h
  split at h
  · obtain ⟨rfl, rfl⟩ := Prod.mk.inj (Option.some.inj h)
    rfl
  · obtain ⟨rfl, rfl⟩ := Prod.mk.inj (Option.some.inj h)
    rfl
  · obtain ⟨rfl, rfl⟩ := Prod.mk.inj (Option.some.inj h)
    rfl
  · obtain ⟨c, ds, rfl, hfirst⟩ := exists_cons_of_readNumber? h
    exact (readAtom?_cons hfirst (ds ++ tail)).trans (readNumber?_append h htail)

/-! ## Documents -/

theorem readValue?_skipSpace (n : Nat) (cs : List Char) :
    readValue? n (skipSpace cs) = readValue? n cs := by
  cases n with
  | zero => rfl
  | succ n => rw [readValue?, readValue?, skipSpace_idem]

theorem readElements?_skipSpace (n : Nat) (read : List Json) (cs : List Char) :
    readElements? n read (skipSpace cs) = readElements? n read cs := by
  cases n with
  | zero => rfl
  | succ n => rw [readElements?, readElements?, readValue?_skipSpace]

theorem readMembers?_skipSpace (n : Nat) (read : List (Option String × Json)) (cs : List Char) :
    readMembers? n read (skipSpace cs) = readMembers? n read cs := by
  cases n with
  | zero => rfl
  | succ n => rw [readMembers?, readMembers?, skipSpace_idem]

/-- No document begins with a closing bracket. -/
theorem readValue?_close (n : Nat) (cs : List Char) : readValue? n (']' :: cs) = none := by
  cases n <;> rfl

end

/-- What reading a document comes to, by the first character that is no white space. -/
inductive ValueStep (n : Nat) (cs : List Char) : Json → List Char → Prop
  | string {body rest : List Char} {s? : Option String} (hopen : skipSpace cs = '"' :: body)
    (hbody : readString? body = some (s?, rest)) : ValueStep n cs (.string s?) rest
  | noElements {body rest : List Char} (hopen : skipSpace cs = '[' :: body)
    (hclose : skipSpace body = ']' :: rest) : ValueStep n cs (.array []) rest
  | elements {body rest : List Char} {j : Json} (hopen : skipSpace cs = '[' :: body)
    (hbody : readElements? n [] body = some (j, rest)) : ValueStep n cs j rest
  | noMembers {body rest : List Char} (hopen : skipSpace cs = '\x7b' :: body)
    (hclose : skipSpace body = '\x7d' :: rest) : ValueStep n cs (.object []) rest
  | members {body rest : List Char} {j : Json} (hopen : skipSpace cs = '\x7b' :: body)
    (hbody : readMembers? n [] body = some (j, rest)) : ValueStep n cs j rest
  | atom {rest : List Char} {j : Json} (hatom : readAtom? (skipSpace cs) = some (j, rest)) :
    ValueStep n cs j rest

/-- What reading the elements of an array comes to: one element, and the others if there
are any. -/
inductive ElementStep (n : Nat) (read : List Json) (cs : List Char) : Json → List Char → Prop
  | last {after rest : List Char} {value : Json} (hvalue : readValue? n cs = some (value, after))
    (hclose : skipSpace after = ']' :: rest) :
    ElementStep n read cs (.array (value :: read).reverse) rest
  | next {after more rest : List Char} {value j : Json}
    (hvalue : readValue? n cs = some (value, after)) (hcomma : skipSpace after = ',' :: more)
    (hmore : readElements? n (value :: read) more = some (j, rest)) : ElementStep n read cs j rest

/-- What reading the members of an object comes to: one member, and the others if there
are any. -/
inductive MemberStep (n : Nat) (read : List (Option String × Json)) (cs : List Char) :
    Json → List Char → Prop
  | last {body named text after rest : List Char} {name : Option String} {value : Json}
    (hopen : skipSpace cs = '"' :: body) (hname : readString? body = some (name, named))
    (hcolon : skipSpace named = ':' :: text) (hvalue : readValue? n text = some (value, after))
    (hclose : skipSpace after = '\x7d' :: rest) :
    MemberStep n read cs (.object ((name, value) :: read).reverse) rest
  | next {body named text after more rest : List Char} {name : Option String} {value j : Json}
    (hopen : skipSpace cs = '"' :: body) (hname : readString? body = some (name, named))
    (hcolon : skipSpace named = ':' :: text) (hvalue : readValue? n text = some (value, after))
    (hcomma : skipSpace after = ',' :: more)
    (hmore : readMembers? n ((name, value) :: read) more = some (j, rest)) :
    MemberStep n read cs j rest

section

variable {n : Nat} {cs rest : List Char} {j : Json}

theorem readElements?_succ_eq_some_iff {read : List Json} :
    readElements? (n + 1) read cs = some (j, rest) ↔ ElementStep n read cs j rest := by
  constructor
  · intro h
    rw [readElements?] at h
    split at h
    · cases h
    · next value after hvalue =>
      split at h
      · next more hcomma => exact .next hvalue hcomma h
      · next rest hclose =>
        obtain ⟨rfl, rfl⟩ := Prod.mk.inj (Option.some.inj h)
        exact .last hvalue hclose
      · cases h
  · intro h
    cases h with
    | last hvalue hclose => simp only [readElements?, hvalue, hclose]
    | next hvalue hcomma hmore => simp only [readElements?, hvalue, hcomma, hmore]

theorem readMembers?_succ_eq_some_iff {read : List (Option String × Json)} :
    readMembers? (n + 1) read cs = some (j, rest) ↔ MemberStep n read cs j rest := by
  constructor
  · intro h
    rw [readMembers?] at h
    split at h
    · next body hopen =>
      split at h
      · cases h
      · next name named hname =>
        split at h
        · next text hcolon =>
          split at h
          · cases h
          · next value after hvalue =>
            split at h
            · next more hcomma => exact .next hopen hname hcolon hvalue hcomma h
            · next rest hclose =>
              obtain ⟨rfl, rfl⟩ := Prod.mk.inj (Option.some.inj h)
              exact .last hopen hname hcolon hvalue hclose
            · cases h
        · cases h
    · cases h
  · intro h
    cases h with
    | last hopen hname hcolon hvalue hclose =>
      simp only [readMembers?, hopen, hname, hcolon, hvalue, hclose]
    | next hopen hname hcolon hvalue hcomma hmore =>
      simp only [readMembers?, hopen, hname, hcolon, hvalue, hcomma, hmore]

theorem readValue?_succ_eq_some_iff :
    readValue? (n + 1) cs = some (j, rest) ↔ ValueStep n cs j rest := by
  constructor
  · intro h
    rw [readValue?] at h
    split at h
    · next body hopen =>
      obtain ⟨⟨s?, _⟩, hbody, heq⟩ := Option.map_eq_some_iff.1 h
      obtain ⟨rfl, rfl⟩ := Prod.mk.inj heq
      exact .string hopen hbody
    · next body hopen =>
      split at h
      · next hclose =>
        obtain ⟨rfl, rfl⟩ := Prod.mk.inj (Option.some.inj h)
        exact .noElements hopen hclose
      · exact .elements hopen ((readElements?_skipSpace n [] body).symm.trans h)
    · next body hopen =>
      split at h
      · next hclose =>
        obtain ⟨rfl, rfl⟩ := Prod.mk.inj (Option.some.inj h)
        exact .noMembers hopen hclose
      · exact .members hopen ((readMembers?_skipSpace n [] body).symm.trans h)
    · exact .atom h
  · intro h
    rw [readValue?]
    cases h with
    | string hopen hbody => simp only [hopen, hbody, Option.map_some]
    | noElements hopen hclose => simp only [hopen, hclose]
    | elements hopen hbody =>
      rw [← readElements?_skipSpace] at hbody
      simp only [hopen]
      split
      · next hclose =>
        rw [hclose] at hbody
        cases n with
        | zero => cases hbody
        | succ n => simp only [readElements?, readValue?_close, reduceCtorEq] at hbody
      · exact hbody
    | noMembers hopen hclose => simp only [hopen, hclose]
    | members hopen hbody =>
      rw [← readMembers?_skipSpace] at hbody
      simp only [hopen]
      split
      · next hclose =>
        rw [hclose] at hbody
        cases n with
        | zero => cases hbody
        | succ n => cases hbody
      · exact hbody
    | atom hatom =>
      split
      · next hopen => rw [hopen] at hatom; cases hatom
      · next hopen => rw [hopen] at hatom; cases hatom
      · next hopen => rw [hopen] at hatom; cases hatom
      · exact hatom

end

section

variable {tail : List Char}

/-! ## What stands behind a document -/

mutual

/-- A document is read the same in front of more text, and under a larger bound. -/
theorem readValue?_append (htail : EndsDocument tail) (k : Nat) :
    ∀ {n : Nat} {cs rest : List Char} {j : Json}, readValue? n cs = some (j, rest) →
      readValue? (n + k) (cs ++ tail) = some (j, rest ++ tail)
  | 0, _, _, _, h => nomatch h
  | n + 1, cs, rest, j, h => by
    rw [Nat.add_right_comm, readValue?_succ_eq_some_iff]
    cases readValue?_succ_eq_some_iff.1 h with
    | string hopen hbody =>
      exact .string (skipSpace_append hopen tail) (readString?_append hbody tail)
    | noElements hopen hclose =>
      exact .noElements (skipSpace_append hopen tail) (skipSpace_append hclose tail)
    | elements hopen hbody =>
      exact .elements (skipSpace_append hopen tail) (readElements?_append htail k hbody)
    | noMembers hopen hclose =>
      exact .noMembers (skipSpace_append hopen tail) (skipSpace_append hclose tail)
    | members hopen hbody =>
      exact .members (skipSpace_append hopen tail) (readMembers?_append htail k hbody)
    | atom hatom =>
      refine .atom ?_
      cases hcs : skipSpace cs with
      | nil => rw [hcs] at hatom; cases hatom
      | cons c ds =>
        rw [hcs] at hatom
        rw [skipSpace_append hcs]
        exact readAtom?_append hatom htail

theorem readElements?_append (htail : EndsDocument tail) (k : Nat) :
    ∀ {n : Nat} {read : List Json} {cs rest : List Char} {j : Json},
      readElements? n read cs = some (j, rest) →
      readElements? (n + k) read (cs ++ tail) = some (j, rest ++ tail)
  | 0, _, _, _, _, h => nomatch h
  | n + 1, read, cs, rest, j, h => by
    rw [Nat.add_right_comm, readElements?_succ_eq_some_iff]
    cases readElements?_succ_eq_some_iff.1 h with
    | last hvalue hclose =>
      exact .last (readValue?_append htail k hvalue) (skipSpace_append hclose tail)
    | next hvalue hcomma hmore =>
      exact .next (readValue?_append htail k hvalue) (skipSpace_append hcomma tail)
        (readElements?_append htail k hmore)

theorem readMembers?_append (htail : EndsDocument tail) (k : Nat) :
    ∀ {n : Nat} {read : List (Option String × Json)} {cs rest : List Char} {j : Json},
      readMembers? n read cs = some (j, rest) →
      readMembers? (n + k) read (cs ++ tail) = some (j, rest ++ tail)
  | 0, _, _, _, _, h => nomatch h
  | n + 1, read, cs, rest, j, h => by
    rw [Nat.add_right_comm, readMembers?_succ_eq_some_iff]
    cases readMembers?_succ_eq_some_iff.1 h with
    | last hopen hname hcolon hvalue hclose =>
      exact .last (skipSpace_append hopen tail) (readString?_append hname tail)
        (skipSpace_append hcolon tail) (readValue?_append htail k hvalue)
        (skipSpace_append hclose tail)
    | next hopen hname hcolon hvalue hcomma hmore =>
      exact .next (skipSpace_append hopen tail) (readString?_append hname tail)
        (skipSpace_append hcolon tail) (readValue?_append htail k hvalue)
        (skipSpace_append hcomma tail) (readMembers?_append htail k hmore)

end

end

/-! ## Whole texts -/

/-- Holds of a text and the document that the whole of it writes: the document is read, but
for white space at the end, under every bound above the length of the text and in front of
all text that does not go on with a number. -/
def ReadsAs (cs : List Char) (j : Json) : Prop :=
  ∃ blank : List Char, blank.all isSpace = true ∧
    ∀ (n : Nat) (tail : List Char), cs.length < n → EndsDocument tail →
      readValue? n (cs ++ tail) = some (j, blank ++ tail)

/-- A document in front of a comma or a closing bracket is read up to it. -/
theorem ReadsAs.readValue? {cs : List Char} {j : Json} {c : Char} {n : Nat} (h : ReadsAs cs j)
    (hn : cs.length < n) (hc : c ∈ [',', ']', '\x7d']) (rest : List Char) :
    ∃ after, Json.readValue? n (cs ++ c :: rest) = some (j, after) ∧
      skipSpace after = c :: rest := by
  obtain ⟨blank, hblank, hread⟩ := h
  have hspace : isSpace c = false := by
    simp only [List.mem_cons, List.not_mem_nil, or_false] at hc
    rcases hc with rfl | rfl | rfl
    all_goals rfl
  exact ⟨_, hread n _ hn (endsDocument_cons hc rest), skipSpace_blank_cons hblank hspace rest⟩

theorem isEmpty_skipSpace_iff {cs : List Char} :
    (skipSpace cs).isEmpty = true ↔ cs.all isSpace = true := by
  rw [skipSpace, List.isEmpty_iff, List.dropWhile_eq_nil_iff, List.all_eq_true]

/-- A text on its own is read as a document exactly if it is read so wherever it stands. -/
theorem readsAs_toList_iff {s : String} {j : Json} : ReadsAs s.toList j ↔ read? s = some j := by
  constructor
  · rintro ⟨blank, hblank, h⟩
    have hread := h (s.toList.length + 1) [] (Nat.lt_succ_self _) endsDocument_nil
    rw [List.append_nil, List.append_nil] at hread
    simp only [read?, hread, isEmpty_skipSpace_iff.2 hblank, if_true]
  · intro h
    simp only [read?] at h
    split at h
    · next value blank hvalue =>
      split at h
      · next hblank =>
        obtain rfl := Option.some.inj h
        refine ⟨blank, isEmpty_skipSpace_iff.1 hblank, fun n tail hn htail => ?_⟩
        have hread := readValue?_append htail (n - (s.toList.length + 1)) hvalue
        rwa [Nat.add_sub_of_le hn] at hread
      · cases h
    · cases h

end PagedQuery.Json
