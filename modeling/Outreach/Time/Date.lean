import Outreach.Number.Total

/-!
# Calendar Dates

Dates of the Gregorian calendar in the years 1 to 9999, numbered by days from
the first one. A year is a leap year when four divides it, unless a hundred
does and four hundred does not, so 400 years have 146097 days, the first
three of their centuries 36524 and four years in a row 1461, a century's end
aside.

## Main definitions

* `Date`: Year, month and day.
* `Date.Valid`: The dates that exist.
* `Date.dayNumber`: The days before a date.
* `Date.ofDayNumber`: The date with a number of days before it.
* `dayLimit`: The days of all years together.
-/

namespace Outreach

/-- A calendar date. -/
structure Date where
  year : Nat
  month : Nat
  day : Nat
  deriving DecidableEq, Inhabited

namespace Date

/-- Whether a year has 366 days. -/
def isLeap (year : Nat) : Bool :=
  year % 4 == 0 && (year % 100 != 0 || year % 400 == 0)

/-- The lengths of the months of a year, in order. -/
def monthLengths (leap : Bool) : List Nat :=
  [31, if leap then 29 else 28, 31, 30, 31, 30, 31, 31, 30, 31, 30, 31]

/-- The length of a month, zero if there is no such month. -/
def monthLength (year month : Nat) : Nat :=
  if month = 0 then 0 else (monthLengths (isLeap year)).getD (month - 1) 0

/-- A date that exists, in the years 1 to 9999. -/
def Valid (d : Date) : Prop :=
  1 ≤ d.year ∧ d.year ≤ 9999 ∧ 1 ≤ d.day ∧ d.day ≤ monthLength d.year d.month

instance (d : Date) : Decidable d.Valid := by
  unfold Valid
  infer_instance

/-- The days before the first day of a year. -/
def daysBeforeYear (year : Nat) : Nat :=
  let y := year - 1
  365 * y + y / 4 - y / 100 + y / 400

/-- The days before the first day of a month in its year. -/
def daysBeforeMonth (year month : Nat) : Nat :=
  total ((monthLengths (isLeap year)).take (month - 1))

/-- The days before a date, counted from the first day of year 1. -/
def dayNumber (d : Date) : Nat :=
  daysBeforeYear d.year + daysBeforeMonth d.year d.month + (d.day - 1)

/-- The month and day that a day of the year falls on, given the lengths of
    the months from `month` on. -/
def monthAndDay : List Nat → Nat → Nat → Nat × Nat
  | [], month, rest => (month, rest + 1)
  | length :: lengths, month, rest =>
    if rest < length then (month, rest + 1)
    else monthAndDay lengths (month + 1) (rest - length)

/-- The date with a given number of days before it. -/
def ofDayNumber (n : Nat) : Date :=
  let cycle := n / 146097
  let inCycle := n % 146097
  let century := min (inCycle / 36524) 3
  let inCentury := inCycle - century * 36524
  let four := inCentury / 1461
  let inFour := inCentury % 1461
  let one := min (inFour / 365) 3
  let inYear := inFour - one * 365
  let year := 400 * cycle + 100 * century + 4 * four + one + 1
  let (month, day) := monthAndDay (monthLengths (isLeap year)) 1 inYear
  ⟨year, month, day⟩

end Date

/-- The days of the years 1 to 9999. -/
def dayLimit : Nat := 3652059

end Outreach
