import Mathlib.Data.List.DropRight
import PagedQuery.Proofs.DateTexts

/-!
# No two forms of a date and time take the same text

The four forms in which a date and time is read have long prefixes in common, and the lenient
ones let white space go. Still no text is taken by two of them. Whatever the strict form reads,
the lenient one reads alike, so all four agree about the date at the front and differ in what has
to follow it: nothing, a letter and a clock, a clock, or a clock and an offset. What follows a
date in one form never does in another, so the order in which the forms are tried is free.

## Main definitions

* `DateForm`: the four forms, each with its reader `DateForm.read?`.
* `DateForm.Follows date form rest`: what follows the date in a form.
-/

namespace PagedQuery

open Decimal Text

/-! ## What is strict is lenient -/

section

variable {cs rest : List Char} {n least most : Nat}

/-- Where so many digits are read, fewer are enough. -/
theorem readDigits?_of_le {least' : Nat} (hle : least' ≤ least)
    (h : readDigits? least most cs = some (n, rest)) :
    readDigits? least' most cs = some (n, rest) := by
  simp only [readDigits?] at h ⊢
  split at h
  · cases h
  · rwa [if_neg (by omega)]

/-- A number begins with a digit. -/
theorem exists_digit_of_readDigits? (hleast : 1 ≤ least)
    (h : readDigits? least most cs = some (n, rest)) :
    ∃ c ds, c.isDigit = true ∧ cs = c :: ds := by
  simp only [readDigits?] at h
  split at h
  · cases h
  · next hlength =>
    cases cs with
    | nil => simp at hlength; omega
    | cons c ds =>
      refine ⟨c, ds, ?_, rfl⟩
      by_contra hdigit
      cases most <;> simp [hdigit] at hlength <;> omega

/-- There is no white space in front of a strict number. -/
theorem trimStart_of_readStrict? {width : Nat} (hwidth : 1 ≤ width)
    (h : readStrict? width cs = some (n, rest)) : trimStart cs = cs := by
  obtain ⟨c, ds, hdigit, rfl⟩ := exists_digit_of_readDigits? hwidth h
  exact trimStart_cons (isBlank_of_isDigit hdigit) ds

theorem readLenient?_of_readStrict? (h : readStrict? 2 cs = some (n, rest)) :
    readLenient? cs = some (n, rest) := by
  rw [readLenient?, trimStart_of_readStrict? (by decide) h]
  exact readDigits?_of_le (by decide) h

theorem readYear?_of_readStrict? (h : readStrict? 4 cs = some (n, rest)) :
    readYear? cs = some ((n : Int), rest) := by
  obtain ⟨c, ds, hdigit, rfl⟩ := exists_digit_of_readDigits? (by decide) h
  rw [readYear?, trimStart_of_readStrict? (by decide) h]
  split
  · next heq =>
    obtain ⟨rfl, -⟩ := List.cons.inj heq
    cases hdigit
  · next heq =>
    obtain ⟨rfl, -⟩ := List.cons.inj heq
    cases hdigit
  · rw [readDigits?_of_le (by decide) h]
    rfl

theorem readLenientDate?_of_readStrictDate? {date : Date}
    (h : readStrictDate? cs = some (date, rest)) : readLenientDate? cs = some (date, rest) := by
  simp only [readStrictDate?, Option.bind_eq_bind, Option.bind_eq_some_iff, Prod.exists] at h
  obtain ⟨year, _, hyear, _, hdash, month, _, hmonth, _, hdash', day, _, hday, h⟩ := h
  simp only [readLenientDate?, readYear?_of_readStrict? hyear, hdash,
    readLenient?_of_readStrict? hmonth, hdash', readLenient?_of_readStrict? hday,
    Option.bind_eq_bind, Option.bind_some]
  exact Option.bind_eq_some_iff.2 h

variable {date : Date} {d : DateTime}

theorem readClock?_lenient_of_strict (h : readClock? (readStrict? 2) date cs = some (d, rest)) :
    readClock? readLenient? date cs = some (d, rest) := by
  simp only [readClock?, Option.bind_eq_bind, Option.bind_eq_some_iff, Prod.exists] at h
  obtain ⟨hour, _, hhour, _, hcolon, minute, _, hminute, _, hcolon', second, _, hsecond, h⟩ := h
  simp only [readClock?, readLenient?_of_readStrict? hhour, hcolon,
    readLenient?_of_readStrict? hminute, hcolon', readLenient?_of_readStrict? hsecond,
    Option.bind_eq_bind, Option.bind_some]
  simpa only [Option.bind_eq_some_iff, Prod.exists] using h

/-! ## The front of a lenient clock -/

theorem readClock?_trimStart (date : Date) (cs : List Char) :
    readClock? readLenient? date (trimStart cs) = readClock? readLenient? date cs := by
  have hhour : readLenient? (trimStart cs) = readLenient? cs := by
    rw [readLenient?, readLenient?, trimStart, trimStart, List.dropWhile_idempotent]
  rw [readClock?, readClock?, hhour]

/-- White space in front of a clock does not count. -/
theorem readClock?_space (date : Date) (cs : List Char) :
    readClock? readLenient? date (' ' :: cs) = readClock? readLenient? date cs := by
  rw [← readClock?_trimStart date (' ' :: cs), ← readClock?_trimStart date cs]
  rfl

/-- No clock begins with a letter. -/
theorem readClock?_letter (date : Date) {c : Char} (hc : c = 'T' ∨ c = 't') (cs : List Char) :
    readClock? readLenient? date (c :: cs) = none := by
  have hhour : readLenient? (c :: cs) = none := by
    rcases hc with rfl | rfl <;> rfl
  rw [readClock?, hhour]
  rfl

end

/-! ## The four forms -/

/-- The forms in which a date and time is read. -/
inductive DateForm where
  /-- A strict timestamp with an offset. -/
  | timestamp
  /-- A date and a clock with a letter between them. -/
  | joined
  /-- A date and a clock with white space or nothing between them. -/
  | spaced
  /-- A date alone. -/
  | dateOnly
  deriving DecidableEq

namespace DateForm

/-- The reader of a form. -/
def read? : DateForm → List Char → Option DateTime
  | timestamp => readTimestamp?
  | joined => readJoined?
  | spaced => readSpaced?
  | dateOnly => readDateOnly?

/-- What follows the date in a form. -/
inductive Follows (date : Date) : DateForm → List Char → Prop
  | timestamp {sep : Char} {clock zone : List Char} {d : DateTime}
      (hsep : sep = ' ' ∨ sep = 'T' ∨ sep = 't')
      (hclock : readClock? readLenient? date clock = some (d, zone)) (hzone : zone ≠ []) :
      Follows date timestamp (sep :: clock)
  | joined {clock : List Char} {d : DateTime}
      (hclock : readClock? readLenient? date clock = some (d, [])) :
      Follows date joined ('T' :: clock)
  | spaced {clock : List Char} {d : DateTime}
      (hclock : readClock? readLenient? date clock = some (d, [])) : Follows date spaced clock
  | dateOnly : Follows date dateOnly []

/-- In every form the date is at the front, and the lenient reader finds it there. -/
theorem exists_follows {form : DateForm} {cs : List Char} {d : DateTime}
    (h : form.read? cs = some d) :
    ∃ date rest, readLenientDate? cs = some (date, rest) ∧ form.Follows date rest := by
  cases form with
  | timestamp =>
    simp only [read?, readTimestamp?, Option.bind_eq_bind, Option.bind_eq_some_iff,
      Prod.exists] at h
    obtain ⟨date, rest, hdate, clock, hsep, shown, zone, hclock, offset, hoffset, -⟩ := h
    have hzone : zone ≠ [] := by
      rintro rfl
      cases hoffset
    refine ⟨date, rest, readLenientDate?_of_readStrictDate? hdate, ?_⟩
    cases rest with
    | nil => cases hsep
    | cons sep rest =>
      simp only [expectSeparator, Option.ite_none_right_eq_some, Option.some_inj, Bool.or_eq_true,
        decide_eq_true_eq] at hsep
      obtain ⟨hsep, rfl⟩ := hsep
      exact .timestamp (by tauto) (readClock?_lenient_of_strict hclock) hzone
  | joined =>
    simp only [read?, readJoined?, Option.bind_eq_bind, Option.bind_eq_some_iff,
      complete_eq_some_iff, Prod.exists] at h
    obtain ⟨date, rest, hdate, clock, hletter, shown, zone, hclock, heq⟩ := h
    obtain ⟨rfl, rfl⟩ := Prod.mk.inj heq
    refine ⟨date, rest, hdate, ?_⟩
    cases rest with
    | nil => cases hletter
    | cons c rest =>
      simp only [expect, Option.ite_none_right_eq_some, Option.some_inj] at hletter
      obtain ⟨rfl, rfl⟩ := hletter
      exact .joined hclock
  | spaced =>
    simp only [read?, readSpaced?, Option.bind_eq_bind, Option.bind_eq_some_iff,
      complete_eq_some_iff, Prod.exists] at h
    obtain ⟨date, rest, hdate, shown, zone, hclock, heq⟩ := h
    obtain ⟨rfl, rfl⟩ := Prod.mk.inj heq
    rw [readClock?_trimStart] at hclock
    exact ⟨date, rest, hdate, .spaced hclock⟩
  | dateOnly =>
    simp only [read?, readDateOnly?, Option.bind_eq_bind, Option.bind_eq_some_iff,
      complete_eq_some_iff, Prod.exists] at h
    obtain ⟨date, rest, hdate, date', heq, -⟩ := h
    obtain ⟨rfl, rfl⟩ := Prod.mk.inj heq
    exact ⟨date, [], hdate, .dateOnly⟩

section

variable {date : Date} {form other : DateForm} {rest zone : List Char} {d d' : DateTime}

/-- A clock ends where it ends. -/
theorem eq_nil_of_readClock? (h : readClock? readLenient? date rest = some (d, zone))
    (h' : readClock? readLenient? date rest = some (d', [])) : zone = [] := by
  rw [h] at h'
  exact (Prod.mk.inj (Option.some.inj h')).2

/-- A clock up to the end of the text follows the date in no other form than the spaced one. -/
theorem Follows.eq_spaced (h : form.Follows date rest)
    (hclock : readClock? readLenient? date rest = some (d, [])) : form = .spaced := by
  cases h with
  | timestamp hsep hclock' hzone =>
    rcases hsep with rfl | hletter
    · rw [readClock?_space] at hclock
      exact absurd (eq_nil_of_readClock? hclock' hclock) hzone
    · rw [readClock?_letter date hletter] at hclock
      cases hclock
  | joined =>
    rw [readClock?_letter date (.inl rfl)] at hclock
    cases hclock
  | spaced => rfl
  | dateOnly => cases hclock

/-- What follows a date does so in one form. -/
theorem Follows.eq (h : form.Follows date rest) (h' : other.Follows date rest) : form = other := by
  cases h with
  | timestamp hsep hclock hzone =>
    cases h' with
    | timestamp => rfl
    | joined hclock' => exact absurd (eq_nil_of_readClock? hclock hclock') hzone
    | spaced hclock' => exact (timestamp hsep hclock hzone).eq_spaced hclock'
  | joined hclock =>
    cases h' with
    | timestamp _ hclock' hzone => exact absurd (eq_nil_of_readClock? hclock' hclock) hzone
    | joined => rfl
    | spaced hclock' => exact (joined hclock).eq_spaced hclock'
  | spaced hclock => exact (h'.eq_spaced hclock).symm
  | dateOnly =>
    cases h' with
    | spaced hclock' => exact dateOnly.eq_spaced hclock'
    | dateOnly => rfl

end

/-- A text is read in one form. -/
theorem eq_of_read? {form other : DateForm} {cs : List Char} {d d' : DateTime}
    (h : form.read? cs = some d) (h' : other.read? cs = some d') : form = other := by
  obtain ⟨date, rest, hdate, hfollows⟩ := exists_follows h
  obtain ⟨date', rest', hdate', hfollows'⟩ := exists_follows h'
  rw [hdate] at hdate'
  obtain ⟨rfl, rfl⟩ := Prod.mk.inj (Option.some.inj hdate')
  exact hfollows.eq hfollows'

/-! ## The order of the forms -/

/-- The first form that reads a text is the only one, whichever form is tried first. -/
theorem findSome?_eq_some_iff {order : List DateForm} (horder : ∀ form, form ∈ order)
    {cs : List Char} {d : DateTime} :
    (order.findSome? fun form => form.read? cs) = some d ↔
      ∃ form : DateForm, form.read? cs = some d := by
  constructor
  · intro h
    obtain ⟨form, -, hread⟩ := List.exists_of_findSome?_eq_some h
    exact ⟨form, hread⟩
  · rintro ⟨form, hread⟩
    have hsome : (order.findSome? fun form => form.read? cs).isSome = true :=
      List.findSome?_isSome_iff.2 ⟨form, horder form, by rw [hread]; rfl⟩
    obtain ⟨d', hd'⟩ := Option.isSome_iff_exists.1 hsome
    obtain ⟨other, -, hother⟩ := List.exists_of_findSome?_eq_some hd'
    obtain rfl := eq_of_read? hread hother
    rw [hd', ← hother, hread]

theorem readDateTime?_eq_findSome? (cs : List Char) :
    readDateTime? cs =
      [timestamp, joined, spaced, dateOnly].findSome? fun form => form.read? cs := by
  simp only [readDateTime?, List.findSome?_cons, List.findSome?_nil, read?]
  cases readTimestamp? cs with
  | some d => rfl
  | none =>
    cases readJoined? cs with
    | some d => rfl
    | none =>
      cases readSpaced? cs with
      | some d => rfl
      | none => cases readDateOnly? cs <;> rfl

theorem readDateTime?_of_order {order : List DateForm} (horder : ∀ form, form ∈ order)
    (cs : List Char) :
    readDateTime? cs = order.findSome? fun form => form.read? cs := by
  have hall : ∀ form, form ∈ [timestamp, joined, spaced, dateOnly] := by
    intro form
    cases form <;> decide
  ext d
  rw [readDateTime?_eq_findSome?, findSome?_eq_some_iff hall, findSome?_eq_some_iff horder]

end DateForm

namespace Literal

/-- **The four forms of a date and time exclude one another.** Each takes some text, no text is
taken by two of them, and so a literal is what any order of trying them finds. -/
theorem dateTime?_in_one_form :
    (∀ form : DateForm, ∃ cs, (form.read? cs).isSome = true) ∧
    (∀ (cs : List Char) (form other : DateForm), (form.read? cs).isSome = true →
      (other.read? cs).isSome = true → form = other) ∧
    ∀ order : List DateForm, (∀ form, form ∈ order) → ∀ (s : String) (kind : FieldKind),
      dateTime? s kind =
        (order.findSome? fun form => form.read? (trim s.toList)).map .dateTime := by
  refine ⟨fun form => ?_, fun cs form other h h' => ?_, fun order horder s kind => ?_⟩
  · cases form with
    | timestamp => exact ⟨"1990-10-20t00:00:00.5-12:30".toList, by decide⟩
    | joined => exact ⟨"1990-10-20T00:00:00.5".toList, by decide⟩
    | spaced => exact ⟨"1990-10-2000:00:00.5".toList, by decide⟩
    | dateOnly => exact ⟨"1990-10-20".toList, by decide⟩
  · obtain ⟨d, hd⟩ := Option.isSome_iff_exists.1 h
    obtain ⟨d', hd'⟩ := Option.isSome_iff_exists.1 h'
    exact DateForm.eq_of_read? hd hd'
  · rw [dateTime?, DateForm.readDateTime?_of_order horder]

/-- A leap second with nothing between the date and the clock, whose day and hour run together,
is read in the third form alone, also if that is tried first. -/
theorem dateTime?_in_one_form_spaced :
    let text := trim " 1990-10-2000:00:60".toList
    let order : List DateForm := [.spaced, .dateOnly, .joined, .timestamp]
    (∀ form, form ∈ order) ∧ (DateForm.spaced.read? text).isSome = true ∧
    (∀ other : DateForm, (other.read? text).isSome = true → .spaced = other) ∧
    dateTime? " 1990-10-2000:00:60" .dateTime =
      (order.findSome? fun form => form.read? text).map .dateTime ∧
    dateTime? " 1990-10-2000:00:60" .dateTime =
      some (.dateTime ⟨⟨1990, 10, 20, by decide, by decide, by decide⟩, 0, 0, 59, 1000000000,
        by decide, by decide, by decide, by decide⟩) := by
  intro text order
  have horder : ∀ form, form ∈ order := by
    intro form
    cases form <;> decide
  have hspaced : (DateForm.spaced.read? text).isSome = true := by decide
  obtain ⟨-, hone, hliteral⟩ := dateTime?_in_one_form
  exact ⟨horder, hspaced, fun other => hone text .spaced other hspaced,
    hliteral order horder _ .dateTime, rfl⟩

end Literal

end PagedQuery
