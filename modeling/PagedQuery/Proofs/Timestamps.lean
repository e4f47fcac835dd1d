import PagedQuery.Proofs.DateTexts
import PagedQuery.Proofs.DayNumbers

/-!
# Timestamps with an offset

A timestamp shows the date and time of a clock and how far that clock is ahead of universal
time or behind it. It is read as the date and time that universal time shows then, even
where that lies in another month or year, or in a year that no timestamp could show. So two
timestamps of the same point in time are read alike. The offset counts whole minutes, so
the second stays what it is, and a leap second stays one.

## Main definitions

* `Zone`: an offset from universal time, as a timestamp writes it.
* `Timestamp`: a date and time that a clock shows, with all that may be chosen in writing it.
* `Timestamp.text t`, `Timestamp.instant t`: how `t` is written, and the point in time.
-/

namespace PagedQuery

open Decimal Text

/-! ## Offsets -/

/-- The offset of a clock from universal time, as it is written behind the time. -/
inductive Zone where
  /-- No offset, by a letter in lower or upper case. -/
  | universal (lower : Bool)
  /-- The clock is ahead. -/
  | ahead (hours : Fin 24) (minutes : Fin 60)
  /-- The clock is behind. -/
  | behind (hours : Fin 24) (minutes : Fin 60)
  deriving DecidableEq

namespace Zone

/-- The minutes by which the clock is ahead. -/
def minutes : Zone → Int
  | universal _ => 0
  | ahead hours minutes => hours.val * 60 + minutes.val
  | behind hours minutes => -(hours.val * 60 + minutes.val)

/-- The offset as text. -/
def text : Zone → List Char
  | universal lower => [if lower then 'z' else 'Z']
  | ahead hours minutes => '+' :: (padded 2 hours.val ++ ':' :: padded 2 minutes.val)
  | behind hours minutes => '-' :: (padded 2 hours.val ++ ':' :: padded 2 minutes.val)

/-- An offset is less than a day, in either direction. -/
theorem neg_minutes_mem (z : Zone) : -minutesPerDay < -z.minutes ∧ -z.minutes < minutesPerDay := by
  simp only [minutesPerDay]
  cases z <;> simp only [Zone.minutes] <;> omega

/-- The text of an offset does not go on with the number in front of it. -/
theorem exists_text_eq_cons (z : Zone) :
    ∃ c cs, z.text = c :: cs ∧ c.isDigit = false ∧ c ≠ '.' := by
  cases z with
  | universal lower => exact ⟨_, _, rfl, by cases lower <;> decide⟩
  | ahead => exact ⟨_, _, rfl, by decide⟩
  | behind => exact ⟨_, _, rfl, by decide⟩

theorem isBlank_of_mem_text (z : Zone) : ∀ c ∈ z.text, isBlank c = false := by
  have hclock (hours minutes : Nat) :
      ∀ c ∈ padded 2 hours ++ ':' :: padded 2 minutes, isBlank c = false := by
    rw [List.forall_mem_append, List.forall_mem_cons]
    exact ⟨fun _ hc => isBlank_of_isDigit (isDigit_of_mem_padded hc), by decide,
      fun _ hc => isBlank_of_isDigit (isDigit_of_mem_padded hc)⟩
  cases z with
  | universal lower =>
    intro c hc
    obtain rfl := List.mem_singleton.1 hc
    cases lower <;> decide
  | ahead => exact List.forall_mem_cons.2 ⟨by decide, hclock _ _⟩
  | behind => exact List.forall_mem_cons.2 ⟨by decide, hclock _ _⟩

/-- An offset is read back from its text. -/
theorem readOffset?_text (z : Zone) : readOffset? z.text = some z.minutes := by
  have hclock (hours : Fin 24) (minutes : Fin 60) (c : Char) (sign : Int)
      (hc : c ≠ 'Z' ∧ c ≠ 'z') (hsign : offsetSign? c = some sign) :
      readOffset? (c :: (padded 2 hours.val ++ ':' :: padded 2 minutes.val)) =
        some (sign * (hours.val * 60 + minutes.val)) := by
    have hhours := readStrict?_two (Nat.lt_trans hours.isLt (by decide))
    have hminutes := readStrict?_two (Nat.lt_trans minutes.isLt (by decide)) []
    rw [List.append_nil] at hminutes
    have hle : hours.val ≤ 23 ∧ minutes.val ≤ 59 := by omega
    simp only [readOffset?, hc.1, hc.2, hsign, hhours, hminutes, hle, expect_self, decide_false,
      Bool.or_false, Bool.false_eq_true, if_false, Option.bind_eq_bind, Option.bind_some,
      List.isEmpty_nil, and_self, if_true]
    rfl
  cases z with
  | universal lower => cases lower <;> rfl
  | ahead hours minutes =>
    rw [text, hclock hours minutes '+' 1 (by decide) rfl, Int.one_mul, Zone.minutes]
  | behind hours minutes =>
    rw [text, hclock hours minutes '-' (-1) (by decide) rfl, Int.neg_mul, Int.one_mul,
      Zone.minutes]

end Zone

/-! ## Timestamps -/

/-- A date and time with an offset, and what may be chosen in writing it: the character
between the date and the time, and the number of digits of the fraction, as long as they show
it exactly. -/
structure Timestamp where
  /-- What the clock shows. -/
  shown : DateTime
  separator : Char
  /-- The digits of the fraction of the second. -/
  fraction : List Char
  zone : Zone
  /-- A clock has a number for the second. -/
  regular : shown.Regular
  /-- The year has four digits. -/
  year_mem : 0 ≤ shown.date.year ∧ shown.date.year ≤ 9999
  separator_eq : separator = 'T' ∨ separator = 't' ∨ separator = ' '
  fraction_writes : WritesFraction shown.clockFraction fraction

namespace Timestamp

variable (t : Timestamp)

/-- The timestamp as text. -/
def text : List Char :=
  t.shown.date.text ++ t.separator :: (t.shown.clockFace ++ (withPoint t.fraction ++ t.zone.text))

/-- The point in time that the timestamp names: universal time is behind a clock that is
ahead. -/
def instant : Instant := t.shown.instant.add (-t.zone.minutes)

/-- A timestamp is read as what its clock shows, less the offset. -/
theorem readTimestamp?_text : readTimestamp? t.text = t.shown.shift? (-t.zone.minutes) := by
  obtain ⟨c, cs, htext, hdigit, hpoint⟩ := t.zone.exists_text_eq_cons
  have hfraction := t.fraction_writes.readFraction?_withPoint (endsNumber_cons hdigit cs)
    fun h => hpoint (Option.some.inj h)
  rw [← htext] at hfraction
  have hseparator (rest : List Char) : expectSeparator (t.separator :: rest) = some rest := by
    rcases t.separator_eq with h | h | h <;> rw [h] <;> rfl
  simp only [text, readTimestamp?, t.shown.date.readStrictDate?_text _ t.year_mem, hseparator,
    t.shown.readClock?_clockFace t.regular readStrict?_two hfraction, t.zone.readOffset?_text,
    Option.bind_eq_bind, Option.bind_some]

/-- There is no white space around a timestamp, though there may be in it. -/
theorem trim_text : trim t.text = t.text := by
  refine trim_eq_self (fun c hc => ?_) fun c hc => ?_
  · have hyear : yearText t.shown.date.year = padded 4 t.shown.date.year.toNat := if_pos t.year_mem
    obtain ⟨d, ds, hdigit, hcons⟩ := exists_padded_eq_cons 4 t.shown.date.year.toNat
    rw [text, Date.text, hyear, hcons] at hc
    obtain rfl := Option.some.inj hc
    exact isBlank_of_isDigit hdigit
  · obtain ⟨d, ds, htext, -⟩ := t.zone.exists_text_eq_cons
    have hlast : t.text.getLast? = t.zone.text.getLast? := by
      rw [text, ← List.append_assoc, ← List.cons_append, ← List.append_assoc, List.getLast?_append,
        Option.or_of_isSome]
      rw [List.getLast?_isSome, htext]
      exact List.cons_ne_nil d ds
    rw [hlast] at hc
    exact t.zone.isBlank_of_mem_text c (List.mem_of_getLast? hc)

/-- Universal time shows a date and time then: one day more or less than the clock shows is
in range. -/
theorem exists_instant_eq : ∃ d : DateTime, d.instant = t.instant := by
  have hyear := t.year_mem
  have hrange : minYear < t.shown.date.year ∧ t.shown.date.year < maxYear := by
    simp only [minYear, maxYear]
    omega
  obtain ⟨d, hd⟩ := DateTime.exists_shift? t.zone.neg_minutes_mem hrange
  exact ⟨d, DateTime.instant_of_shift? t.zone.neg_minutes_mem hd⟩

end Timestamp

namespace Literal

/-- A timestamp is read as the date and time at its point in time. -/
theorem dateTime?_text_of_instant {t : Timestamp} {d : DateTime} (h : d.instant = t.instant)
    (kind : FieldKind) : dateTime? (String.ofList t.text) kind = some (.dateTime d) := by
  have hshift : t.shown.shift? (-t.zone.minutes) = some d :=
    (DateTime.shift?_eq_some_iff t.zone.neg_minutes_mem).2 h
  rw [dateTime?, String.toList_ofList, t.trim_text, readDateTime?, t.readTimestamp?_text, hshift]
  rfl

/-- **A timestamp is read as what universal time shows.** Whatever date and time universal
time shows, every timestamp of that point in time is read as exactly this: with any offset, as
long as the clock then shows a year of four digits, with any of the separators, and with any
number of digits that shows the fraction. It is a leap second if and only if the timestamp
shows the second 60. Universal time always shows a date and time, so every timestamp is read,
and two timestamps are read alike if and only if they name the same point in time. -/
theorem dateTime?_timestamp (kind : FieldKind) :
    (∀ (t : Timestamp) (d : DateTime), d.instant = t.instant →
      dateTime? (String.ofList t.text) kind = some (.dateTime d) ∧
        (d.isLeap = true ↔ t.shown.clockSecond = 60)) ∧
    (∀ t : Timestamp, ∃ d : DateTime, d.instant = t.instant) ∧
    ∀ t u : Timestamp, t.instant = u.instant ↔
      dateTime? (String.ofList t.text) kind = dateTime? (String.ofList u.text) kind := by
  refine ⟨fun t d h => ⟨dateTime?_text_of_instant h kind, ?_⟩,
    Timestamp.exists_instant_eq, fun t u => ?_⟩
  · have hnanosecond : d.nanosecond = t.shown.nanosecond := congrArg Instant.nanosecond h
    rw [← DateTime.isLeap_iff_clockSecond t.regular, DateTime.isLeap, hnanosecond, DateTime.isLeap]
  · obtain ⟨d, hd⟩ := t.exists_instant_eq
    obtain ⟨e, he⟩ := u.exists_instant_eq
    rw [dateTime?_text_of_instant hd kind, dateTime?_text_of_instant he kind, ← hd, ← he,
      DateTime.instant_injective.eq_iff, Option.some_inj, Scalar.dateTime.injEq]

/-- A leap second half an hour into the year 0 of a clock that is an hour ahead: universal time
still shows the year before. -/
theorem dateTime?_timestamp_leap :
    let newYear : Date := ⟨0, 1, 1, by decide, by decide, by decide⟩
    let shown : DateTime := ⟨newYear, 0, 30, 59, 1500000000, by decide, by decide, by decide,
      by decide⟩
    let t : Timestamp := ⟨shown, 't', ['5', '0', '0'], .ahead 1 0, by decide, by decide,
      by decide, ⟨by simp, by decide +kernel⟩⟩
    let lastDay : Date := ⟨-1, 12, 31, by decide, by decide, by decide⟩
    let leap : DateTime := ⟨lastDay, 23, 30, 59, 1500000000, by decide, by decide, by decide,
      by decide⟩
    t.text = "0000-01-01t00:30:60.500+01:00".toList ∧ leap.instant = t.instant ∧
    dateTime? (String.ofList t.text) .dateTime = some (.dateTime leap) ∧
    (leap.isLeap = true ↔ shown.clockSecond = 60) := by
  intro newYear shown t lastDay leap
  have hinstant : leap.instant = t.instant := by
    rw [Timestamp.instant, Instant.add, DateTime.instant, DateTime.instant, Instant.mk.injEq]
    exact ⟨by decide, rfl, rfl⟩
  exact ⟨by decide, hinstant, (dateTime?_timestamp .dateTime).1 t leap hinstant⟩

end Literal

end PagedQuery
