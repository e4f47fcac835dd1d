import PagedQuery.Calendar.DateTime
import PagedQuery.Decimal.Natural

/-!
# Dates and times as text

The one written form, `YYYY-MM-DDTHH:MM:SS` with a fraction where there is one.

## Main definitions

* `Date.text d`: a date. Years from 0 to 9999 have four digits; all others have a sign
  and at least four.
* `DateTime.text d`: a date and a time. The fraction has three, six or nine digits, the
  fewest that show it exactly, and is left out if it is zero. A leap second shows as the
  second 60.
-/

namespace PagedQuery

open Decimal

/-- A year as text. -/
def yearText (year : Int) : List Char :=
  if 0 ≤ year ∧ year ≤ 9999 then padded 4 year.toNat
  else (if year < 0 then '-' else '+') :: padded 4 year.natAbs

/-- A date as text. -/
def Date.text (d : Date) : List Char :=
  yearText d.year ++ '-' :: padded 2 d.month ++ '-' :: padded 2 d.day

/-- The fraction of a second, given in nanoseconds, as text with its point. -/
def fractionText (nanos : Nat) : List Char :=
  if nanos = 0 then []
  else if nanos % 1000000 = 0 then '.' :: padded 3 (nanos / 1000000)
  else if nanos % 1000 = 0 then '.' :: padded 6 (nanos / 1000)
  else '.' :: padded 9 nanos

/-- The time of day as text. -/
def DateTime.clockText (d : DateTime) : List Char :=
  padded 2 d.hour ++ ':' :: padded 2 d.minute ++ ':' :: padded 2 d.clockSecond
    ++ fractionText d.clockFraction

/-- A date and time as text. -/
def DateTime.text (d : DateTime) : List Char :=
  d.date.text ++ 'T' :: d.clockText

end PagedQuery
