import PagedQuery.Calendar.DateTime
import PagedQuery.Decimal.Natural
import PagedQuery.Text.Blank

/-!
# Reading dates and times

Four forms of text name a date and time:

1. a timestamp with an offset from universal time, in the strict form of internet
   timestamps (`1990-10-20T02:00:00+02:00`);
2. a date and a time with `T` between them;
3. a date and a time with white space, or nothing, between them;
4. a date alone, for the start of its day.

The last three are lenient: white space may stand before a number, a month, day, hour,
minute or second may have one digit, a year may have fewer than four, and more after a
sign. In all forms the second 60 is a leap second, and digits of the fraction after the
ninth are dropped.

## Main definitions

* `readTimestamp?`, `readJoined?`, `readSpaced?`, `readDateOnly?`: the four forms.
* `readDateTime?`: the first of the four that takes the text.
-/

namespace PagedQuery

-- Powers are those of the core library, whatever others are in scope.
attribute [local instance (high)] instPowNat

open Decimal Text

/-! ## Parts -/

/-- Takes one given character from the front. -/
def expect (c : Char) : List Char → Option (List Char)
  | [] => none
  | d :: cs => if d = c then some cs else none

/-- A number of exactly `width` digits. -/
def readStrict? (width : Nat) (cs : List Char) : Option (Nat × List Char) :=
  readDigits? width width cs

/-- A number of one or two digits, after white space. -/
def readLenient? (cs : List Char) : Option (Nat × List Char) :=
  readDigits? 1 2 (trimStart cs)

/-- A year, after white space: up to four digits, or a sign and any number of them. -/
def readYear? (cs : List Char) : Option (Int × List Char) :=
  match trimStart cs with
  | '-' :: rest => (readDigits? 1 rest.length rest).map fun (n, rest) => (-(n : Int), rest)
  | '+' :: rest => (readDigits? 1 rest.length rest).map fun (n, rest) => ((n : Int), rest)
  | rest => (readDigits? 1 4 rest).map fun (n, rest) => ((n : Int), rest)

/-- The nanoseconds that the digits after a point write. -/
def nanosOf (ds : List Char) : Nat :=
  let kept := ds.take 9
  valueOf kept * 10 ^ (9 - kept.length)

/-- A fraction of a second: a point and at least one digit, or nothing. -/
def readFraction? : List Char → Option (Nat × List Char)
  | '.' :: cs =>
    let ds := cs.takeWhile Char.isDigit
    if ds.isEmpty then none else some (nanosOf ds, cs.dropWhile Char.isDigit)
  | cs => some (0, cs)

/-- A time of day on the given date, with the given form of the hour, minute and second. -/
def readClock? (field : List Char → Option (Nat × List Char)) (date : Date) (cs : List Char) :
    Option (DateTime × List Char) := do
  let (hour, cs) ← field cs
  let cs ← expect ':' cs
  let (minute, cs) ← field cs
  let cs ← expect ':' cs
  let (second, cs) ← field cs
  let (fraction, cs) ← readFraction? cs
  let d ← DateTime.ofClock? date hour minute second fraction
  pure (d, cs)

/-- A date in the lenient form. -/
def readLenientDate? (cs : List Char) : Option (Date × List Char) := do
  let (year, cs) ← readYear? cs
  let cs ← expect '-' cs
  let (month, cs) ← readLenient? cs
  let cs ← expect '-' cs
  let (day, cs) ← readLenient? cs
  let date ← Date.of? year month day
  pure (date, cs)

/-- A date in the strict form: four, two and two digits. -/
def readStrictDate? (cs : List Char) : Option (Date × List Char) := do
  let (year, cs) ← readStrict? 4 cs
  let cs ← expect '-' cs
  let (month, cs) ← readStrict? 2 cs
  let cs ← expect '-' cs
  let (day, cs) ← readStrict? 2 cs
  let date ← Date.of? year month day
  pure (date, cs)

/-! ## Offsets -/

/-- The sign of an offset; the mathematical minus sign counts as one. -/
def offsetSign? (c : Char) : Option Int :=
  if c = '+' then some 1
  else if c = '-' || c = '\u2212' then some (-1)
  else none

/-- The whole of an offset from universal time, in minutes: `Z`, or a sign, the hours up
to 23 and the minutes up to 59. -/
def readOffset? (cs : List Char) : Option Int :=
  match cs with
  | [] => none
  | c :: cs =>
    if c = 'Z' || c = 'z' then if cs.isEmpty then some 0 else none
    else do
      let sign ← offsetSign? c
      let (hours, cs) ← readStrict? 2 cs
      let cs ← expect ':' cs
      let (minutes, cs) ← readStrict? 2 cs
      if hours ≤ 23 ∧ minutes ≤ 59 ∧ cs.isEmpty then pure (sign * (hours * 60 + minutes)) else none

/-! ## The four forms -/

/-- Takes the character between the date and the time of a timestamp. -/
def expectSeparator : List Char → Option (List Char)
  | [] => none
  | c :: cs => if c = 'T' || c = 't' || c = ' ' then some cs else none

/-- A strict timestamp with an offset, as the date and time that universal time shows
then. -/
def readTimestamp? (cs : List Char) : Option DateTime := do
  let (date, cs) ← readStrictDate? cs
  let cs ← expectSeparator cs
  let (d, cs) ← readClock? (readStrict? 2) date cs
  let offset ← readOffset? cs
  d.shift? (-offset)

/-- Accepts what was read if nothing is left over. -/
def complete {α : Type} : α × List Char → Option α
  | (a, []) => some a
  | (_, _ :: _) => none

/-- A lenient date and time with `T` between them. -/
def readJoined? (cs : List Char) : Option DateTime := do
  let (date, cs) ← readLenientDate? cs
  let cs ← expect 'T' cs
  complete (← readClock? readLenient? date cs)

/-- A lenient date and time with white space or nothing between them. -/
def readSpaced? (cs : List Char) : Option DateTime := do
  let (date, cs) ← readLenientDate? cs
  complete (← readClock? readLenient? date (trimStart cs))

/-- A lenient date alone, for the start of its day. -/
def readDateOnly? (cs : List Char) : Option DateTime := do
  let date ← complete (← readLenientDate? cs)
  pure (.midnight date)

/-- The date and time that the whole of the text names, by the first form that takes it. -/
def readDateTime? (cs : List Char) : Option DateTime :=
  (readTimestamp? cs).or <| (readJoined? cs).or <| (readSpaced? cs).or <| readDateOnly? cs

end PagedQuery
