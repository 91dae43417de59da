import Outreach.Time.Timestamp

/-!
# ISO Texts of Timestamps

A timestamp is written as `2026-03-01T12:00:00`, followed by six digits of
microseconds if there are any and by the distance from universal time if it
is aware. The distance is written as `+05:30`, with seconds and microseconds
only where they are not zero.

## Main definitions

* `Timestamp.iso`: The text of a timestamp.
* `Timestamp.isoZulu`: The same with `Z` for universal time.
-/

namespace Outreach

namespace Time

/-- The lowest `width` decimal digits of a number, highest first. -/
def padded : Nat → Nat → List Char
  | 0, _ => []
  | width + 1, n => padded width (n / 10) ++ [Char.ofNat (0x30 + n % 10)]

/-- Hours, minutes and seconds of a number of seconds. -/
def clockText (seconds : Nat) : List Char :=
  padded 2 (seconds / 3600) ++ ':' :: padded 2 (seconds / 60 % 60) ++ ':' :: padded 2 (seconds % 60)

/-- The fraction of a second, left out when it is zero. -/
def fractionText (micros : Nat) : List Char :=
  if micros = 0 then [] else '.' :: padded 6 micros

/-- The distance of a clock from universal time. -/
def aheadText (ahead : Int) : List Char :=
  let sign := if ahead < 0 then '-' else '+'
  let size := ahead.natAbs
  let seconds := size / secondMicros
  let micros := size % secondMicros
  let minutes := padded 2 (seconds / 3600) ++ ':' :: padded 2 (seconds / 60 % 60)
  if micros ≠ 0 then
    sign :: (minutes ++ ':' :: padded 2 (seconds % 60) ++ fractionText micros)
  else if seconds % 60 ≠ 0 then sign :: (minutes ++ ':' :: padded 2 (seconds % 60))
  else sign :: minutes

/-- Date and time of day. -/
def wallText (t : Timestamp) : List Char :=
  padded 4 t.date.year ++ '-' :: padded 2 t.date.month ++ '-' :: padded 2 t.date.day ++
    'T' :: clockText (t.time / secondMicros) ++ fractionText (t.time % secondMicros)

end Time

open Time

namespace Timestamp

/-- The text of a timestamp. -/
def iso (t : Timestamp) : String :=
  String.ofList (wallText t ++ (t.ahead.map aheadText).getD [])

/-- The text of a timestamp, universal time being written `Z`. -/
def isoZulu (t : Timestamp) : String :=
  if t.ahead = some 0 then String.ofList (wallText t ++ ['Z']) else t.iso

end Timestamp

end Outreach
