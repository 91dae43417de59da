import Outreach.Number.Power
import Outreach.Text.Quoted
import Outreach.Time.Timestamp

/-!
# Reading ISO Texts of Timestamps

A text of a timestamp is a date, any one character and a time of day; a date
alone means midnight. The date is written by month and day or by week and day
of the week, which may be left out, and each with hyphens or without. The time
has hours, minutes and seconds, as many of them as are known, with colons or
without, and a fraction of which six digits count. A distance from universal
time follows a sign, in the same form, and `Z` stands for none.

Such a text is read before its numbers are looked at: first the distance has
to be less than a day, then the numbers of the date and of the time have to
be those of a timestamp.

The end of a text reads as a null character, and a null character behind the
digits of a fraction, or behind `Z`, ends the text.

## Main definitions

* `Time.IsoRefusal`: Why a text is refused.
* `Time.separatorPlace?`: Where the date of a text ends.
* `Time.Wall`: A date and a time of day as they are written.
* `Timestamp.readIso`: The reader, with the reason for a refusal.
-/

namespace Outreach

namespace Time

/-- Why a text of a timestamp is refused. -/
inductive IsoRefusal
  /-- The text does not have the form. -/
  | malformed (text : Text)
  /-- The distance from universal time, in microseconds, is a day or more. -/
  | distance (micros : Int)
  /-- There is no such year. -/
  | year (n : Nat)
  /-- There is no such month. -/
  | month
  /-- The month has no such day. -/
  | day
  /-- There is no such hour, minute or second. -/
  | hour
  | minute
  | second
  deriving DecidableEq, Inhabited

/-- A span of time as it is shown: days, then what is left of them as seconds
    and microseconds, each only if it is not zero. -/
def shownSpan (micros : Int) : String :=
  let days := Int.fdiv micros dayMicros
  -- Days are rounded down, so what is left is never negative.
  let left := (micros - days * dayMicros).toNat
  let parts :=
    [("days", days), ("seconds", ((left / secondMicros : Nat) : Int)),
      ("microseconds", ((left % secondMicros : Nat) : Int))].filter fun p => p.2 != 0
  let shown := parts.map fun p => p.1 ++ "=" ++ toString p.2
  "datetime.timedelta(" ++ (if shown.isEmpty then "0" else ", ".intercalate shown) ++ ")"

/-- The wording of a refusal. -/
def IsoRefusal.message : IsoRefusal → String
  | .malformed text => "Invalid isoformat string: " ++ text.quoted
  | .distance micros =>
    "offset must be a timedelta strictly between -timedelta(hours=24) and " ++
      "timedelta(hours=24), not " ++ shownSpan micros ++ "."
  | .year n => "year " ++ toString n ++ " is out of range"
  | .month => "month must be in 1..12"
  | .day => "day is out of range for month"
  | .hour => "hour must be in 0..23"
  | .minute => "minute must be in 0..59"
  | .second => "second must be in 0..59"

/-- The value of an ASCII digit. -/
def digit? (c : Char) : Option Nat :=
  if 0x30 ≤ c.toNat ∧ c.toNat ≤ 0x39 then some (c.toNat - 0x30) else none

/-- Whether a character is an ASCII digit. -/
def isDigit (c : Char) : Bool :=
  (digit? c).isSome

/-- Exactly `width` digits at the start of a list. -/
def readFixed? : Nat → Nat → List Char → Option (Nat × List Char)
  | 0, acc, cs => some (acc, cs)
  | _ + 1, _, [] => none
  | width + 1, acc, c :: rest =>
    match digit? c with
    | some d => readFixed? width (10 * acc + d) rest
    | none => none

/-- A given character at the start of a list. -/
def readChar? (c : Char) : List Char → Option (List Char)
  | [] => none
  | d :: rest => if c = d then some rest else none

/-- What reads as the character at a place of a text. -/
def charAt (cs : List Char) (place : Nat) : Char :=
  cs.getD place '\x00'

/-- Where the date of a text ends: a date has seven, eight or ten characters.
    A hyphen behind a week is taken for the end of the date if a digit follows
    the next character, and a day behind a week without hyphens is there if
    the digits from there on are odd in number. -/
def separatorPlace? (cs : List Char) : Option Nat :=
  if cs.length = 7 then some 7
  else if charAt cs 4 = '-' then
    if charAt cs 5 = 'W' then
      if cs.length < 8 then none
      else if 8 < cs.length ∧ charAt cs 8 = '-' then
        if cs.length = 9 then none
        else if isDigit (charAt cs 10) then some 8
        else some 10
      else some 8
    else some 10
  else if charAt cs 4 = 'W' then
    -- Seven characters are year, mark and week; the digits behind them are those of
    -- the day, if there is one, and of the time.
    let digits := ((cs.drop 7).takeWhile isDigit).length
    if digits < 2 then some (7 + digits)
    else if digits % 2 = 1 then some 7
    else some 8
  else some 8

/-- The day number of the Monday of a year's first week, the one that holds
    the year's first Thursday. -/
def firstMonday (year : Nat) : Int :=
  let first := Date.daysBeforeYear year
  let weekday := first % 7
  if weekday ≤ 3 then (first : Int) - weekday else first - weekday + 7

/-- Whether a year has 53 weeks: its first day is a Thursday, or a Wednesday
    of a leap year. -/
def hasLongWeeks (year : Nat) : Bool :=
  let weekday := Date.daysBeforeYear year % 7
  decide (1 ≤ year) && (weekday == 3 || weekday == 2 && Date.isLeap year)

/-- The date of a day of a week. The days before the first year belong to no
    month. -/
def dateOfWeek? (year week day : Nat) : Option Date :=
  if 1 ≤ week ∧ (week ≤ 52 ∨ week = 53 ∧ hasLongWeeks year) ∧ 1 ≤ day ∧ day ≤ 7 then
    -- The year zero has weeks but no dates; the month zero is refused later.
    if year = 0 then some ⟨1, 0, 0⟩
    else some (Date.ofDayNumber (firstMonday year + 7 * (week - 1) + (day - 1)).toNat)
  else none

/-- The day of a week behind its number, the first if there is none. -/
def readWeekday? (hyphens : Bool) (place : Nat) (cs : List Char) : Option Nat :=
  if (if hyphens then 8 else 7) < place then do
    let cs ← if hyphens then readChar? '-' cs else some cs
    (readFixed? 1 0 cs).map Prod.fst
  else some 1

/-- The date at the start of a text, which ends at `place`. -/
def readDate? (place : Nat) (cs : List Char) : Option Date := do
  let (year, cs) ← readFixed? 4 0 cs
  let hyphens := charAt cs 0 = '-'
  let cs := if hyphens then cs.drop 1 else cs
  if charAt cs 0 = 'W' then
    let (week, cs) ← readFixed? 2 0 (cs.drop 1)
    let day ← readWeekday? hyphens place cs
    dateOfWeek? year week day
  else
    let (month, cs) ← readFixed? 2 0 cs
    let cs ← if hyphens then readChar? '-' cs else some cs
    let (day, _) ← readFixed? 2 0 cs
    some ⟨year, month, day⟩

/-- A time of day, or a distance, as it is written. -/
structure Clock where
  hour : Nat
  minute : Nat
  second : Nat
  micros : Nat
  deriving DecidableEq, Inhabited

/-- The microseconds of a clock. -/
def Clock.total (c : Clock) : Nat :=
  (c.hour * 3600 + c.minute * 60 + c.second) * secondMicros + c.micros

/-- What follows two digits of a clock. -/
inductive AfterField
  /-- The clock ends; an ASCII character may be left that belongs to nothing. -/
  | done (left : Bool)
  /-- The next two digits follow. -/
  | field (cs : List Char)
  /-- A fraction follows. -/
  | fraction (cs : List Char)

/-- What follows two digits of a clock, given the character behind the
    clock. -/
def afterField? (colons : Bool) (stop : Char) (cs : List Char) : Option AfterField :=
  -- Behind the last character stands the one that ended the clock.
  let c := cs.headD stop
  if cs.length ≤ 1 && decide (c.toNat < 0x80) then some (.done (c != '\x00'))
  else if colons && c == ':' then some (.field (cs.drop 1))
  else if c == '.' || c == ',' then some (.fraction (cs.drop 1))
  else if !colons then some (.field cs)
  else none

/-- The fraction of a second at the end of a clock in microseconds, and whether
    anything but the end of the text follows it. -/
def readFraction? (stop : Char) (cs : List Char) : Option (Nat × Bool) := do
  let width := min cs.length 6
  let (n, cs) ← readFixed? width 0 cs
  some (n * tenTo (6 - width), (cs.dropWhile isDigit).headD stop != '\x00')

/-- A clock, and whether anything but the end of the text follows it. Behind
    the clock stands the character `stop`. -/
def readClock? (stop : Char) (cs : List Char) : Option (Clock × Bool) := do
  let (hour, cs) ← readFixed? 2 0 cs
  let colons := cs.headD stop == ':'
  match ← afterField? colons stop cs with
  | .done left => some (⟨hour, 0, 0, 0⟩, left)
  | .fraction cs => (readFraction? stop cs).map fun (f, left) => (⟨hour, 0, 0, f⟩, left)
  | .field cs =>
    let (minute, cs) ← readFixed? 2 0 cs
    match ← afterField? colons stop cs with
    | .done left => some (⟨hour, minute, 0, 0⟩, left)
    | .fraction cs => (readFraction? stop cs).map fun (f, left) => (⟨hour, minute, 0, f⟩, left)
    | .field cs =>
      let (second, cs) ← readFixed? 2 0 cs
      match ← afterField? colons stop cs with
      | .done left => some (⟨hour, minute, second, 0⟩, left)
      -- Behind the seconds whatever follows is read as a fraction.
      | .field cs | .fraction cs =>
        (readFraction? stop cs).map fun (f, left) => (⟨hour, minute, second, f⟩, left)

/-- Whether a character starts the distance from universal time. -/
def startsDistance (c : Char) : Bool :=
  c == '+' || c == '-' || c == 'Z'

/-- A time of day, with the distance from universal time in microseconds if
    there is one. A distance of less than a second counts as none at all. -/
def readTime? (cs : List Char) : Option (Clock × Option Int) := do
  let own := cs.takeWhile fun c => !startsDistance c
  match cs.dropWhile fun c => !startsDistance c with
  | [] =>
    let (clock, left) ← readClock? '\x00' own
    if left then none else some (clock, none)
  | mark :: rest =>
    -- The mark counts as left over behind the clock, so being left over says nothing here.
    let (clock, _) ← readClock? mark own
    if mark = 'Z' then
      if charAt rest 0 = '\x00' then some (clock, some 0) else none
    else
      let (distance, left) ← readClock? '\x00' rest
      let size : Int := if distance.total < secondMicros then 0 else distance.total
      if left then none else some (clock, some (if mark = '-' then -size else size))

/-- A date and a time of day as they are written. -/
structure Wall where
  date : Date
  clock : Clock
  ahead : Option Int
  deriving DecidableEq, Inhabited

/-- Date and time of day of a text. -/
def readWall? (cs : List Char) : Option Wall := do
  let place ← separatorPlace? cs
  let date ← readDate? place cs
  if cs.length ≤ place then some ⟨date, ⟨0, 0, 0, 0⟩, none⟩
  else
    let (clock, ahead) ← readTime? (cs.drop (place + 1))
    some ⟨date, clock, ahead⟩

/-- The timestamp of a date and a time of day, if their numbers allow one. -/
def Wall.timestamp (w : Wall) : Except IsoRefusal Timestamp := do
  let distance := w.ahead.getD 0
  -- The order of the checks decides which refusal a text with several faults gets.
  if (dayMicros : Int) ≤ distance.natAbs then throw (.distance distance)
  if w.date.year < 1 ∨ 9999 < w.date.year then throw (.year w.date.year)
  if w.date.month < 1 ∨ 12 < w.date.month then throw .month
  if w.date.day < 1 ∨ Date.monthLength w.date.year w.date.month < w.date.day then throw .day
  if 24 ≤ w.clock.hour then throw .hour
  if 60 ≤ w.clock.minute then throw .minute
  if 60 ≤ w.clock.second then throw .second
  return ⟨w.date, w.clock.total, w.ahead⟩

/-- The places at which a date can end. -/
def separatorPlaces : List Nat := [7, 8, 10]

/-- The characters of a text in which a lone half at one of the places where a
    date can end reads as a separator. -/
def wallChars? (t : Text) : Option (List Char) :=
  let isHalf (place : Nat) : Bool :=
    match t.points[place]? with
    | some (.half _) => true
    | _ => false
  match separatorPlaces.find? isHalf with
  | some place => Text.chars? ⟨t.points.set place (.char 'T')⟩
  | none => t.chars?

end Time

open Time

namespace Timestamp

/-- The timestamp that a text denotes, or why it denotes none. -/
def readIso (t : Text) : Except IsoRefusal Timestamp :=
  match (wallChars? t).bind readWall? with
  | some w => w.timestamp
  | none => .error (.malformed t)

end Timestamp

end Outreach
