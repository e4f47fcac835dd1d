import PagedQuery.Calendar.Date

/-!
# Dates with a time of day

A date and a time of day to the nanosecond, without an offset from universal time. A leap
second is kept as the second before it with a nanosecond part of a whole second and more.
It may follow any second, as under an offset of odd seconds, but a clock has a number for it
only after the second 59.

## Main definitions

* `DateTime`: a date and a time, and `DateTime.of?`, which refuses what is none.
* `DateTime.Regular`: a leap second, if it is one, is the last second of a minute.
* `DateTime.ofClock?`: the same from a clock that shows a leap second as the second 60.
* `DateTime.shift? d minutes`: `d` moved by less than a day.
* `DateTime.order`: the earlier one first, a leap second after all of the second before
  it.
-/

namespace PagedQuery

/-- The nanoseconds of a second. -/
def nanosPerSecond : Nat := 1000000000

/-- The minutes of a day. -/
def minutesPerDay : Int := 1440

/-- A date with a time of day. -/
structure DateTime where
  date : Date
  hour : Nat
  minute : Nat
  second : Nat
  /-- A whole second and more during a leap second. -/
  nanosecond : Nat
  hour_lt : hour < 24
  minute_lt : minute < 60
  second_lt : second < 60
  nanosecond_lt : nanosecond < 2 * nanosPerSecond
  deriving DecidableEq

namespace DateTime

/-- Holds unless a leap second follows another second than the last of a minute. -/
def Regular (d : DateTime) : Prop := nanosPerSecond ≤ d.nanosecond → d.second = 59

instance : DecidablePred Regular :=
  fun d => inferInstanceAs (Decidable (nanosPerSecond ≤ d.nanosecond → d.second = 59))

/-- The regular date and time with the given parts, if there is one. -/
def of? (date : Date) (hour minute second nanosecond : Nat) : Option DateTime :=
  if h : hour < 24 ∧ minute < 60 ∧ second < 60 ∧ nanosecond < 2 * nanosPerSecond
      ∧ (nanosPerSecond ≤ nanosecond → second = 59) then
    some ⟨date, hour, minute, second, nanosecond, h.1, h.2.1, h.2.2.1, h.2.2.2.1⟩
  else none

/-- A regular date and time is the one with its own parts. -/
theorem of?_self {d : DateTime} (h : d.Regular) :
    of? d.date d.hour d.minute d.second d.nanosecond = some d :=
  dif_pos ⟨d.hour_lt, d.minute_lt, d.second_lt, d.nanosecond_lt, h⟩

/-- What `of?` gives is regular. -/
theorem regular_of_of? {date : Date} {hour minute second nanosecond : Nat} {d : DateTime}
    (h : of? date hour minute second nanosecond = some d) : d.Regular := by
  unfold of? at h
  split at h
  · next hparts =>
    obtain rfl := Option.some.inj h
    exact hparts.2.2.2.2
  · cases h

/-- The start of a day. -/
def midnight (date : Date) : DateTime :=
  ⟨date, 0, 0, 0, 0, by decide, by decide, by decide, by decide⟩

/-- Holds during a leap second. -/
def isLeap (d : DateTime) : Bool := nanosPerSecond ≤ d.nanosecond

/-- The second that a clock shows: one more during a leap second, so 60 if it is regular. -/
def clockSecond (d : DateTime) : Nat := d.second + d.nanosecond / nanosPerSecond

/-- The part of the second that has passed, as a clock shows it. -/
def clockFraction (d : DateTime) : Nat := d.nanosecond % nanosPerSecond

/-- The date and time that a clock shows, with the second 60 for a leap second. -/
def ofClock? (date : Date) (hour minute second fraction : Nat) : Option DateTime :=
  if second = 60 then of? date hour minute 59 (fraction + nanosPerSecond)
  else of? date hour minute second fraction

/-- The same time some minutes later or earlier, by less than a day and within the range
of years. The seconds stay as they are, so a leap second stays one. -/
def shift? (d : DateTime) (minutes : Int) : Option DateTime :=
  let total := (d.hour * 60 + d.minute : Int) + minutes
  let date? :=
    if total / minutesPerDay = 0 then some d.date
    else if total / minutesPerDay = 1 then d.date.next?
    else if total / minutesPerDay = -1 then d.date.previous?
    else none
  date?.map fun date =>
    { d with
      date := date
      hour := (total % minutesPerDay / 60).toNat
      minute := (total % 60).toNat
      hour_lt := by simp only [minutesPerDay]; omega
      minute_lt := by omega }

/-- The chronological order. -/
def order : DateTime → DateTime → Ordering :=
  compareLex (fun a b => Date.order a.date b.date) <|
    compareLex (compareOn hour) <| compareLex (compareOn minute) <|
      compareLex (compareOn second) (compareOn nanosecond)

end DateTime

end PagedQuery
