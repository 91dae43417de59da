import Outreach.Input.Lenient
import Outreach.Number.Arithmetic
import Outreach.Time.Iso.Reader

/-!
# Timestamps in Inputs

The reader of timestamps in an input. A timestamp is a text or a number.

A text has a date, one of `T`, `t`, `_` and a blank, and a time of day, whose
seconds may be left out or have a fraction behind a point or a comma, of which
six digits count. A distance from universal time may follow. A date alone
means midnight.

A number counts seconds from the start of 1970, or milliseconds if it is
beyond `millisecondsFrom`. Its fraction is rounded to microseconds. The text
of a number is read in the same way.

## Main definitions

* `Moment.ofChars?`: The timestamp that a text denotes.
* `Moment.ofInt`, `Moment.ofDouble`: The timestamp of a number.
* `Lenient.timestamp`: The reader.
-/

namespace Outreach

namespace Moment

open Time

/-- A date at the start of a list. The year zero is read too. -/
def readDate? (cs : List Char) : Option (Date × List Char) := do
  let (year, cs) ← readFixed? 4 0 cs
  let cs ← readChar? '-' cs
  let (month, cs) ← readFixed? 2 0 cs
  let cs ← readChar? '-' cs
  let (day, cs) ← readFixed? 2 0 cs
  if 1 ≤ day ∧ day ≤ Date.monthLength year month then some (⟨year, month, day⟩, cs) else none

/-- The microseconds that the digits of a fraction denote. -/
def fractionMicros (ds : List Nat) : Nat :=
  ofDigits (ds.take 6 ++ List.replicate (6 - ds.length) 0)

/-- A fraction of a second at the start of a list, in microseconds; zero if
    there is none. -/
def readFraction? : List Char → Option (Nat × List Char)
  | c :: rest =>
    if c == '.' || c == ',' then
      match (rest.takeWhile isDigit).filterMap digit? with
      | [] => none
      | d :: ds => some (fractionMicros (d :: ds), rest.dropWhile isDigit)
    else some (0, c :: rest)
  | [] => some (0, [])

/-- Seconds behind a colon, in microseconds; zero if there is no colon. -/
def readSeconds? : List Char → Option (Nat × List Char)
  | ':' :: rest => do
    let (s, rest) ← readFixed? 2 0 rest
    let (f, rest) ← readFraction? rest
    if s < 60 then some (s * secondMicros + f, rest) else none
  | cs => some (0, cs)

/-- A time of day at the start of a list, in microseconds. -/
def readClock? (cs : List Char) : Option (Nat × List Char) := do
  let (h, cs) ← readFixed? 2 0 cs
  let cs ← readChar? ':' cs
  let (m, cs) ← readFixed? 2 0 cs
  let (s, cs) ← readSeconds? cs
  if h < 24 ∧ m < 60 then some ((h * 3600 + m * 60) * secondMicros + s, cs) else none

/-- Whether a sign is negative. Besides the hyphen, the minus sign proper is a
    negative sign. -/
def signOf? (c : Char) : Option Bool :=
  if c == '+' then some false
  else if c == '-' || c == '\u2212' then some true
  else none

/-- A colon at the start of a list left out. -/
def skipColon : List Char → List Char
  | ':' :: rest => rest
  | cs => cs

/-- The rest of a timestamp behind its time of day. -/
def readAhead? : List Char → Option (Option Int)
  | [] => some none
  | [c] => if c == 'Z' || c == 'z' then some (some 0) else none
  | c :: rest => do
    let negative ← signOf? c
    let (h, rest) ← readFixed? 2 0 rest
    let (m, rest) ← readFixed? 2 0 (skipColon rest)
    if h < 24 ∧ m < 60 ∧ rest.isEmpty then
      some (some (Double.signed negative ((h * 3600 + m * 60) * secondMicros)))
    else none

/-- The characters that may stand between date and time of day. -/
def separators : List Char := ['T', 't', ' ', '_']

/-- The timestamp of a text with date and time of day. -/
def ofChars? (cs : List Char) : Option Timestamp := do
  let (date, cs) ← readDate? cs
  match cs with
  | [] => none
  | c :: rest =>
    if separators.contains c then
      let (time, rest) ← readClock? rest
      let ahead ← readAhead? rest
      some ⟨date, time, ahead⟩
    else none

/-- The timestamp of a text with a date alone. -/
def ofDateChars? (cs : List Char) : Option Timestamp := do
  match ← readDate? cs with
  | (date, []) => some ⟨date, 0, none⟩
  | _ => none

/-- The greatest magnitude that counts seconds; beyond it, milliseconds are
    meant. -/
def millisecondsFrom : Int := 20000000000

/-- What a clock of universal time shows at the start of 1970. -/
def epoch : Int := 719162 * dayMicros

/-- The timestamp of a count of microseconds from the start of 1970. -/
def ofMicros (micros : Int) : Except IssueKind Timestamp :=
  match Timestamp.ofWall? (epoch + micros) (some 0) with
  | some t => .ok t
  | none => .error .timestampUnreadable

/-- The timestamp of a whole number. -/
def ofWhole (n : Int) : Except IssueKind Timestamp :=
  ofMicros (n * if millisecondsFrom < n.natAbs then 1000 else secondMicros)

/-- A double that is not negative, rounded to the nearest integer, a half
    going up. -/
def roundHalfUp (x : Double) : Nat :=
  (Int.fdiv (2 * x.scaled + Double.unit) (2 * Double.unit)).toNat

/-- The timestamp of a double. What is above the next lower integer is counted
    in microseconds. -/
def ofDouble (x : Double) : Except IssueKind Timestamp :=
  if x.isFinite then
    let scale : Nat :=
      if millisecondsFrom * Double.unit < x.scaled.natAbs then 1000 else secondMicros
    -- The fraction is taken from below, also for a negative number.
    let whole := Int.fdiv x.scaled Double.unit
    let above := (x.sub (Double.ofInt whole)).mul (Double.ofInt scale)
    ofMicros (whole * scale + roundHalfUp above)
  else .error .timestampUnreadable

/-- The timestamp of the text of a number. -/
def ofNumeral? (cs : List Char) : Option Timestamp :=
  let (negative, body) := readSign cs
  let whole := body.takeWhile isDigit
  match body.dropWhile isDigit with
  | [] =>
    let n := Double.signed negative (ofDigits (whole.filterMap digit?))
    if whole.isEmpty || !Lenient.isWord n then none else (ofWhole n).toOption
  | '.' :: _ =>
    match Lenient.doubleOfPlain? cs with
    | some x => (ofDouble x).toOption
    | none => none
  | _ => none

/-- A timestamp whose year is not zero. -/
def ensureYear (t : Timestamp) : Except IssueKind Timestamp :=
  if t.date.year = 0 then .error .timestampUnreadable else .ok t

/-- The timestamp that a text denotes. -/
def ofText (cs : List Char) : Except IssueKind Timestamp :=
  -- The year is looked at last, so a text with the year zero is not tried as a number.
  match ((ofChars? cs).or (ofNumeral? cs)).or (ofDateChars? cs) with
  | some t => ensureYear t
  | none => .error .dateUnreadable

/-- The timestamp of an integer. One beyond a machine word is taken as a
    double. -/
def ofInt (n : Int) : Except IssueKind Timestamp :=
  if Lenient.isWord n then ofWhole n
  else
    let x := Double.ofInt n
    if x.isInfinite then .error .notTimestamp else ofDouble x

end Moment

namespace Lenient

/-- A timestamp. -/
def timestamp : Json → Except IssueKind Timestamp
  | .text t =>
    match t.chars? with
    | some cs => Moment.ofText cs
    | none => .error .textNotUnicode
  | .int n => Moment.ofInt n
  | .double x => Moment.ofDouble x
  | _ => .error .notTimestamp

end Lenient

end Outreach
