import Mathlib.Data.Int.SuccPred
import Mathlib.Order.SuccPred.IntervalSucc
import PagedQuery.Calendar.DateTime

/-!
# Counting days

All days of the calendar are numbered one after the other, the days of a year after those of
the years before it and the days of a month after those of the months before it. The number
of a day determines its year, its month and its place in the month. So the day after is the
one day with the next number, wherever a month, a year or a century ends in between, and
moving a time of day by some minutes adds them to the minutes counted so far.

## Main definitions

* `dayNumber year month day`: the place of a day among all days. The first day of the year 1
  has the number 1.
* `Date.number d`: the same for a date.
* `Instant`: the minutes counted to a point in time, and the second of the last of them.
* `DateTime.instant d`: the point in time that `d` is at.
-/

namespace PagedQuery

/-! ## Days of the years and months before -/

/-- The days between the start of the year 1 and the start of a year, leap days included. -/
def daysBeforeYear (year : Int) : Int :=
  365 * (year - 1) + (year - 1) / 4 - (year - 1) / 100 + (year - 1) / 400

/-- The days of a year. -/
def daysInYear (year : Int) : Int := if isLeapYear year then 366 else 365

theorem daysBeforeYear_succ (year : Int) :
    daysBeforeYear (year + 1) = daysBeforeYear year + daysInYear year := by
  have hleap : isLeapYear year = true ↔ year % 4 = 0 ∧ (year % 100 ≠ 0 ∨ year % 400 = 0) := by
    simp [isLeapYear]
  unfold daysInYear
  split
  · next h =>
    have hyear := hleap.1 h
    simp only [daysBeforeYear]
    omega
  · next h =>
    have hyear := mt hleap.2 h
    simp only [daysBeforeYear]
    omega

theorem daysBeforeYear_le {a b : Int} (h : a ≤ b) : daysBeforeYear a ≤ daysBeforeYear b := by
  simp only [daysBeforeYear]
  omega

/-- The days of a year before the start of a month. -/
def daysBeforeMonth (year : Int) : Nat → Nat
  | 0 | 1 => 0
  | month + 2 => daysBeforeMonth year (month + 1) + daysInMonth year (month + 1)

theorem daysBeforeMonth_succ (year : Int) {month : Nat} (h : 1 ≤ month) :
    daysBeforeMonth year (month + 1) = daysBeforeMonth year month + daysInMonth year month := by
  obtain ⟨m, rfl⟩ := Nat.exists_eq_add_of_le' h
  rfl

theorem daysBeforeMonth_monotone (year : Int) : Monotone (daysBeforeMonth year) := by
  refine monotone_nat_of_le_succ fun month => ?_
  cases month with
  | zero => exact Nat.le_refl 0
  | succ m => exact Nat.le_add_right _ _

/-- The twelve months make up the year. -/
theorem daysBeforeMonth_thirteen (year : Int) :
    (daysBeforeMonth year 13 : Int) = daysInYear year := by
  simp only [daysBeforeMonth, daysInMonth, daysInYear]
  cases isLeapYear year <;> rfl

/-! ## Numbers of days -/

/-- The place of a day among all days. -/
def dayNumber (year : Int) (month day : Nat) : Int :=
  daysBeforeYear year + daysBeforeMonth year month + day

/-- Holds of the year, month and day of the month of a day of the calendar, in range or not. -/
structure IsDay (year : Int) (month day : Nat) : Prop where
  month_mem : 1 ≤ month ∧ month ≤ 12
  day_mem : 1 ≤ day ∧ day ≤ daysInMonth year month

namespace IsDay

variable {year year' : Int} {month month' day day' : Nat}

/-- The day lies in its month. -/
theorem mem_month (h : IsDay year month day) :
    daysBeforeMonth year month + day ∈
      Set.Ioc (daysBeforeMonth year month) (daysBeforeMonth year (month + 1)) := by
  have hday := h.day_mem
  rw [Set.mem_Ioc, daysBeforeMonth_succ year h.month_mem.1]
  omega

/-- The day lies in its year. -/
theorem mem_year (h : IsDay year month day) :
    daysBeforeYear year < dayNumber year month day ∧
      dayNumber year month day ≤ daysBeforeYear (year + 1) := by
  have hmonth := Set.mem_Ioc.1 h.mem_month
  have hlast : daysBeforeMonth year (month + 1) ≤ daysBeforeMonth year 13 :=
    daysBeforeMonth_monotone year (Nat.succ_le_succ h.month_mem.2)
  have hyear := daysBeforeMonth_thirteen year
  rw [daysBeforeYear_succ, dayNumber]
  omega

/-- No two days have the same number. -/
theorem eq_of_dayNumber_eq (h : IsDay year month day) (h' : IsDay year' month' day')
    (heq : dayNumber year month day = dayNumber year' month' day') :
    year = year' ∧ month = month' ∧ day = day' := by
  have hmono : Monotone daysBeforeYear := fun _ _ => daysBeforeYear_le
  have hyear : year = year' :=
    hmono.pairwise_disjoint_on_Ioc_succ.eq
      (Set.not_disjoint_iff.2 ⟨_, h.mem_year, heq ▸ h'.mem_year⟩)
  subst hyear
  have hplace : daysBeforeMonth year month + day = daysBeforeMonth year month' + day' := by
    simp only [dayNumber] at heq
    omega
  have hmonth : month = month' :=
    (daysBeforeMonth_monotone year).pairwise_disjoint_on_Ioc_succ.eq
      (Set.not_disjoint_iff.2 ⟨_, h.mem_month, hplace ▸ h'.mem_month⟩)
  subst hmonth
  exact ⟨rfl, rfl, Nat.add_left_cancel hplace⟩

end IsDay

theorem dayNumber_day_succ (year : Int) (month day : Nat) :
    dayNumber year month (day + 1) = dayNumber year month day + 1 := by
  simp only [dayNumber]
  omega

/-- The first of a month comes after the last day of the month before. -/
theorem dayNumber_month_succ (year : Int) {month : Nat} (h : 1 ≤ month) :
    dayNumber year (month + 1) 1 = dayNumber year month (daysInMonth year month) + 1 := by
  simp only [dayNumber, daysBeforeMonth_succ year h]
  omega

/-- New Year comes after the last day of December. -/
theorem dayNumber_year_succ (year : Int) :
    dayNumber (year + 1) 1 1 = dayNumber year 12 31 + 1 := by
  have hyear := daysBeforeMonth_thirteen year
  rw [daysBeforeMonth_succ year (by decide)] at hyear
  simp only [dayNumber, daysBeforeYear_succ, ← hyear]
  simp only [daysBeforeMonth, daysInMonth]
  omega

theorem one_le_daysInMonth (year : Int) (month : Nat) : 1 ≤ daysInMonth year month := by
  unfold daysInMonth
  split
  · split <;> decide
  all_goals decide

/-! ## The day after and the day before -/

namespace Date

variable {d e : Date}

/-- The place of a date among all days. -/
def number (d : Date) : Int := dayNumber d.year d.month d.day

theorem isDay (d : Date) : IsDay d.year d.month d.day := ⟨d.month_mem, d.day_mem⟩

theorem number_injective : Function.Injective number := by
  intro d e h
  obtain ⟨hyear, hmonth, hday⟩ := d.isDay.eq_of_dayNumber_eq e.isDay h
  have hself := of?_self d
  rw [hyear, hmonth, hday, of?_self] at hself
  exact (Option.some.inj hself).symm

/-- The date that `of?` gives for a day is the one with its number. -/
theorem of?_eq_some_iff_number {year : Int} {month day : Nat} (h : IsDay year month day) :
    of? year month day = some e ↔ e.number = dayNumber year month day := by
  rw [of?_eq_some_iff]
  constructor
  · rintro ⟨rfl, rfl, rfl⟩
    rfl
  · exact e.isDay.eq_of_dayNumber_eq h

/-- Every day of a year in range is a date. -/
theorem exists_number_eq_dayNumber {year : Int} {month day : Nat} (h : IsDay year month day)
    (hyear : minYear ≤ year ∧ year ≤ maxYear) :
    ∃ e : Date, e.number = dayNumber year month day :=
  ⟨⟨year, month, day, hyear, h.month_mem, h.day_mem⟩, rfl⟩

/-- The parts of the day after, whether its year is in range or not. -/
theorem next?_eq_of? (d : Date) :
    ∃ year month day, d.next? = of? year month day ∧ IsDay year month day ∧
      dayNumber year month day = d.number + 1 ∧ d.year ≤ year ∧ year ≤ d.year + 1 := by
  have hmonth := d.month_mem
  have hday := d.day_mem
  unfold next? number
  split
  · next hmid =>
    refine ⟨_, _, _, rfl, ⟨hmonth, by omega⟩, dayNumber_day_succ _ _ _, by omega, by omega⟩
  · next hend =>
    have hlast : d.day = daysInMonth d.year d.month := by omega
    split
    · next hmid =>
      refine ⟨_, _, _, rfl, ⟨by omega, Nat.le_refl 1, one_le_daysInMonth _ _⟩, ?_, by omega,
        by omega⟩
      rw [dayNumber_month_succ _ hmonth.1, hlast]
    · next hdecember =>
      have htwelve : d.month = 12 := by omega
      refine ⟨_, _, _, rfl, ⟨by decide, Nat.le_refl 1, one_le_daysInMonth _ _⟩, ?_, by omega,
        by omega⟩
      rw [dayNumber_year_succ, hlast, htwelve]
      rfl

/-- The parts of the day before, whether its year is in range or not. -/
theorem previous?_eq_of? (d : Date) :
    ∃ year month day, d.previous? = of? year month day ∧ IsDay year month day ∧
      dayNumber year month day = d.number - 1 ∧ d.year - 1 ≤ year ∧ year ≤ d.year := by
  have hmonth := d.month_mem
  have hday := d.day_mem
  unfold previous? number
  split
  · next hmid =>
    refine ⟨_, _, _, rfl, ⟨hmonth, by omega⟩, ?_, by omega, by omega⟩
    have hsucc := dayNumber_day_succ d.year d.month (d.day - 1)
    rw [Nat.sub_add_cancel hday.1] at hsucc
    omega
  · next hstart =>
    have hfirst : d.day = 1 := by omega
    split
    · next hmid =>
      refine ⟨_, _, _, rfl, ⟨by omega, one_le_daysInMonth _ _, Nat.le_refl _⟩, ?_, by omega,
        by omega⟩
      have hsucc := dayNumber_month_succ d.year (show 1 ≤ d.month - 1 by omega)
      rw [Nat.sub_add_cancel hmonth.1] at hsucc
      rw [hfirst]
      omega
    · next hjanuary =>
      have hone : d.month = 1 := by omega
      refine ⟨_, _, _, rfl, ⟨by decide, by decide, Nat.le_refl 31⟩, ?_, by omega, by omega⟩
      have hsucc := dayNumber_year_succ (d.year - 1)
      rw [Int.sub_add_cancel] at hsucc
      rw [hfirst, hone]
      omega

/-- The day after is the one with the next number. -/
theorem next?_eq_some_iff : d.next? = some e ↔ e.number = d.number + 1 := by
  obtain ⟨year, month, day, hof, hday, hnumber, -⟩ := d.next?_eq_of?
  rw [hof, of?_eq_some_iff_number hday, hnumber]

/-- The day before is the one with the number before. -/
theorem previous?_eq_some_iff : d.previous? = some e ↔ e.number = d.number - 1 := by
  obtain ⟨year, month, day, hof, hday, hnumber, -⟩ := d.previous?_eq_of?
  rw [hof, of?_eq_some_iff_number hday, hnumber]

/-- The date that lies as many days later. -/
theorem eq_some_iff_of_days {days : Int} (h : -1 ≤ days ∧ days ≤ 1) :
    (if days = 0 then some d else if days = 1 then d.next?
      else if days = -1 then d.previous? else none) = some e ↔ e.number = d.number + days := by
  obtain rfl | rfl | rfl : days = -1 ∨ days = 0 ∨ days = 1 := by omega
  · exact previous?_eq_some_iff
  · rw [if_pos rfl, Option.some_inj, Int.add_zero, number_injective.eq_iff, eq_comm]
  · exact next?_eq_some_iff

/-- Inside the range of years there is a day after and a day before. -/
theorem exists_number_eq (h : minYear < d.year ∧ d.year < maxYear) {days : Int}
    (hdays : -1 ≤ days ∧ days ≤ 1) : ∃ e : Date, e.number = d.number + days := by
  obtain hbefore | hsame | hafter : days = -1 ∨ days = 0 ∨ days = 1 := by omega
  · obtain ⟨year, month, day, -, hday, hnumber, hyear⟩ := d.previous?_eq_of?
    obtain ⟨e, he⟩ := exists_number_eq_dayNumber hday (by omega)
    exact ⟨e, by omega⟩
  · exact ⟨d, by omega⟩
  · obtain ⟨year, month, day, -, hday, hnumber, hyear⟩ := d.next?_eq_of?
    obtain ⟨e, he⟩ := exists_number_eq_dayNumber hday (by omega)
    exact ⟨e, by omega⟩

end Date

/-! ## Points in time -/

/-- A point in time, with the minutes counted through all days. -/
structure Instant where
  /-- The minutes counted, from the start of the day with the number zero. -/
  minute : Int
  /-- The second of the minute, which goes on during the leap second after it. -/
  second : Nat
  /-- The nanoseconds since that second began. -/
  nanosecond : Nat
  deriving DecidableEq

/-- Some minutes later or earlier, at the same second. -/
def Instant.add (i : Instant) (minutes : Int) : Instant := { i with minute := i.minute + minutes }

namespace DateTime

variable {d e : DateTime} {minutes : Int}

/-- The point in time that a date and time of day are at. -/
def instant (d : DateTime) : Instant where
  minute := d.date.number * minutesPerDay + (d.hour * 60 + d.minute : Nat)
  second := d.second
  nanosecond := d.nanosecond

/-- A clock shows the second 60 during regular leap seconds and never else. -/
theorem isLeap_iff_clockSecond (h : d.Regular) : d.isLeap = true ↔ d.clockSecond = 60 := by
  have hsecond := d.second_lt
  have hnano := d.nanosecond_lt
  rw [isLeap, decide_eq_true_iff]
  simp only [Regular, clockSecond, nanosPerSecond] at *
  omega

/-- Two dates and times are never at the same point in time. -/
theorem instant_injective : Function.Injective instant := by
  intro d e h
  obtain ⟨hminute, hsecond, hnanosecond⟩ := Instant.mk.inj h
  have hhour := d.hour_lt
  have hhour' := e.hour_lt
  have hlt := d.minute_lt
  have hlt' := e.minute_lt
  simp only [minutesPerDay] at hminute
  have hdate : d.date = e.date := Date.number_injective (by omega)
  have hparts : d.hour = e.hour ∧ d.minute = e.minute := by omega
  cases d
  cases e
  rw [DateTime.mk.injEq]
  exact ⟨hdate, hparts.1, hparts.2, hsecond, hnanosecond⟩

/-- A move by less than a day goes to the day before, the same day or the day after. -/
theorem days_mem (d : DateTime) (h : -minutesPerDay < minutes ∧ minutes < minutesPerDay) :
    -1 ≤ (d.hour * 60 + d.minute + minutes) / minutesPerDay ∧
      (d.hour * 60 + d.minute + minutes) / minutesPerDay ≤ 1 := by
  have hhour := d.hour_lt
  have hminute := d.minute_lt
  simp only [minutesPerDay] at *
  omega

theorem instant_of_shift? (h : -minutesPerDay < minutes ∧ minutes < minutesPerDay)
    (hshift : d.shift? minutes = some e) : e.instant = d.instant.add minutes := by
  rw [shift?, Option.map_eq_some_iff] at hshift
  obtain ⟨date, hdate, rfl⟩ := hshift
  rw [Date.eq_some_iff_of_days (d.days_mem h)] at hdate
  simp only [instant, Instant.add, hdate, Instant.mk.injEq, and_true, minutesPerDay]
  omega

/-- A date and time moved by less than a day is the one at the point in time that lies that
many minutes later or earlier, if it is in range. -/
theorem shift?_eq_some_iff (h : -minutesPerDay < minutes ∧ minutes < minutesPerDay) :
    d.shift? minutes = some e ↔ e.instant = d.instant.add minutes := by
  refine ⟨instant_of_shift? h, fun hinstant => ?_⟩
  have hdate : e.date.number =
      d.date.number + (d.hour * 60 + d.minute + minutes) / minutesPerDay := by
    have hhour := e.hour_lt
    have hminute := e.minute_lt
    have hcount := (Instant.mk.inj hinstant).1
    simp only [instant, minutesPerDay] at *
    omega
  have hsome : (d.shift? minutes).isSome := by
    rw [shift?, Option.isSome_map, Option.isSome_iff_exists]
    exact ⟨e.date, (Date.eq_some_iff_of_days (d.days_mem h)).2 hdate⟩
  obtain ⟨f, hf⟩ := Option.isSome_iff_exists.1 hsome
  have hsame : f = e := instant_injective ((instant_of_shift? h hf).trans hinstant.symm)
  rw [hf, hsame]

/-- Inside the range of years every move by less than a day stays in range. -/
theorem exists_shift? (h : -minutesPerDay < minutes ∧ minutes < minutesPerDay)
    (hyear : minYear < d.date.year ∧ d.date.year < maxYear) :
    ∃ e, d.shift? minutes = some e := by
  rw [← Option.isSome_iff_exists, shift?, Option.isSome_map, Option.isSome_iff_exists]
  obtain ⟨date, hdate⟩ := Date.exists_number_eq hyear (d.days_mem h)
  exact ⟨date, (Date.eq_some_iff_of_days (d.days_mem h)).2 hdate⟩

end DateTime

end PagedQuery
