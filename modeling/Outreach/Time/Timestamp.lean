import Outreach.Time.Date

/-!
# Timestamps

A timestamp is a date, a time of day to the microsecond and, if it is aware,
the distance of its clock from universal time. A naive timestamp has no such
distance. Only timestamps of one kind can be ordered; two aware ones are
ordered by their instants. Across kinds no two are equal.

## Main definitions

* `Timestamp`: A timestamp.
* `Timestamp.wall`: What its clock shows, in microseconds from year 1.
* `Timestamp.instant`: The instant in universal time, a naive timestamp being
  read as universal time.
* `Timestamp.toUtc?`: The same instant on a clock of universal time.
* `Timestamp.minusDays?`: The clock set back by whole days.
* `Timestamp.compare?`: The order.
-/

namespace Outreach

/-- The microseconds of a day. -/
def dayMicros : Nat := 86400000000

/-- The microseconds of a second. -/
def secondMicros : Nat := 1000000

/-- A point in time as a clock shows it. -/
structure Timestamp where
  date : Date
  /-- Microseconds since midnight. -/
  time : Nat
  /-- How far the clock is ahead of universal time, in microseconds; none for
      a naive timestamp. -/
  ahead : Option Int
  deriving DecidableEq, Inhabited

namespace Timestamp

/-- A timestamp that exists: a date of the calendar, a time within a day, and
    a clock less than a day away from universal time. -/
def Valid (t : Timestamp) : Prop :=
  t.date.Valid ∧ t.time < dayMicros ∧
    ∀ o, t.ahead = some o → -(dayMicros : Int) < o ∧ o < dayMicros

/-- What the clock shows, in microseconds from the start of year 1. -/
def wall (t : Timestamp) : Int :=
  t.date.dayNumber * dayMicros + t.time

/-- The instant in universal time, a naive timestamp being read as such. -/
def instant (t : Timestamp) : Int :=
  t.wall - t.ahead.getD 0

def isAware (t : Timestamp) : Bool :=
  t.ahead.isSome

/-- The timestamp whose clock shows `w`, unless that lies outside the years 1
    to 9999. -/
def ofWall? (w : Int) (ahead : Option Int) : Option Timestamp :=
  if 0 ≤ w ∧ w < dayLimit * dayMicros then
    some ⟨Date.ofDayNumber (w.toNat / dayMicros), w.toNat % dayMicros, ahead⟩
  else none

/-- The same instant on a clock of universal time; a naive timestamp is taken
    to show universal time already. -/
def toUtc? (t : Timestamp) : Option Timestamp :=
  match t.ahead with
  | none => some { t with ahead := some 0 }
  | some o => ofWall? (t.wall - o) (some 0)

/-- The most days that a clock can be set back by. -/
def dayCountLimit : Nat := 999999999

/-- The clock set back by whole days. -/
def minusDays? (t : Timestamp) (days : Nat) : Option Timestamp :=
  if days ≤ dayCountLimit then ofWall? (t.wall - days * dayMicros) t.ahead else none

/-- The clock set forward by microseconds. -/
def plusMicros? (t : Timestamp) (micros : Int) : Option Timestamp :=
  ofWall? (t.wall + micros) t.ahead

/-- A timestamp without its distance from universal time. -/
def naive (t : Timestamp) : Timestamp :=
  { t with ahead := none }

/-- The order of two timestamps of one kind. -/
def compare? (s t : Timestamp) : Option Ordering :=
  if s.isAware = t.isAware then some (compare s.instant t.instant) else none

end Timestamp

end Outreach
