import Outreach.Number.Double
import Outreach.Text.Blank
import Outreach.Text.Digit
import Outreach.Text.Basic

/-!
# Number Literals

The texts that denote numbers. Digits may come from any script, and a single
underscore may stand between two digits.

A whole number is an optional sign and a run of digits, at most
`wholeDigitLimit` of them. Too long a run is reported as such whatever
follows it, except an underscore out of place. A decimal is an optional sign,
digits with an optional point and fraction, at least one digit among them, and
an optional exponent; the words for infinity and NaN, in any case, are also
read.

## Main definitions

* `readDigits`: The run of digits at the start of a list.
* `WholeRefusal`: Why a text is no whole number.
* `readWhole`: The reader of whole numbers.
* `readDecimal?`: The reader of decimals.
* `Decimal.toDouble`: The double nearest to a decimal.
* `Text.readInt`, `Text.readDouble?`: The numbers that texts denote.
-/

namespace Outreach

open Text

/-- Whether a list starts with a digit. -/
def startsWithDigit : List Char → Bool
  | [] => false
  | c :: _ => (digitValue? c).isSome

/-- The digits at the start of a list and what follows the last of them. After
    a digit, an underscore that another digit follows is skipped. -/
def readRun (afterDigit : Bool) : List Char → List Nat × List Char
  | [] => ([], [])
  | c :: rest =>
    match digitValue? c with
    | some d =>
      let (ds, tail) := readRun true rest
      (d :: ds, tail)
    | none =>
      -- Behind an underscore another one may not follow, hence `false`.
      if afterDigit && c == '_' && startsWithDigit rest then readRun false rest
      else ([], c :: rest)

/-- The run of digits at the start of a list, single underscores between them
    skipped. -/
def readDigits (cs : List Char) : List Nat × List Char :=
  readRun false cs

/-- The number that digits denote, highest first. -/
def ofDigits (ds : List Nat) : Nat :=
  ds.foldl (fun n d => 10 * n + d) 0

/-- A sign at the start of a list, true for minus. -/
def readSign : List Char → Bool × List Char
  | '-' :: rest => (true, rest)
  | '+' :: rest => (false, rest)
  | cs => (false, cs)

/-- The most digits that a whole number may have. -/
def wholeDigitLimit : Nat := 4300

/-- Why a text is no whole number. -/
inductive WholeRefusal
  /-- It is not written as one. -/
  | malformed
  /-- It has too many digits. -/
  | tooLong (digits : Nat)
  deriving DecidableEq, Inhabited

/-- The integer that a text of a whole number denotes. -/
def readWhole (cs : List Char) : Except WholeRefusal Int :=
  let (negative, body) := readSign cs
  let (ds, rest) := readDigits body
  -- An underscore that was not skipped is noticed before the digits are counted.
  if ds.isEmpty || rest.head? == some '_' then .error .malformed
  else if wholeDigitLimit < ds.length then .error (.tooLong ds.length)
  else if rest.isEmpty then .ok (Double.signed negative (ofDigits ds))
  else .error .malformed

/-- A decimal: a sign, digits and the place of the last digit. -/
structure Decimal where
  negative : Bool
  digits : List Nat
  place : Int
  deriving DecidableEq

/-- What a text of a number denotes. -/
inductive Numeral
  | finite (d : Decimal)
  | infinite (negative : Bool)
  | nan
  deriving DecidableEq

/-- The digits behind a decimal point at the start of a list. -/
def readFraction : List Char → List Nat × List Char
  | '.' :: rest => readDigits rest
  | cs => ([], cs)

/-- An exponent at the start of a list, zero if there is none. -/
def readExponent? : List Char → Option (Int × List Char)
  | c :: rest =>
    if c == 'e' || c == 'E' then
      let (negative, body) := readSign rest
      match readDigits body with
      | ([], _) => none
      | (ds, tail) => some (Double.signed negative (ofDigits ds), tail)
    else some (0, c :: rest)
  | [] => some (0, [])

/-- The words for infinity and NaN. -/
def readWord? (negative : Bool) (cs : List Char) : Option Numeral :=
  let word := String.ofList (cs.map fun c => if c.toNat < 0x80 then c.toLower else c)
  if word == "inf" || word == "infinity" then some (.infinite negative)
  else if word == "nan" then some .nan
  else none

/-- The number that a text denotes. -/
def readDecimal? (cs : List Char) : Option Numeral :=
  let (negative, body) := readSign cs
  let (whole, afterWhole) := readDigits body
  let (fraction, afterFraction) := readFraction afterWhole
  -- A point alone is no number either, and no word begins with one.
  if whole.isEmpty && fraction.isEmpty then readWord? negative body
  else
    match readExponent? afterFraction with
    | some (exponent, []) =>
      some (.finite ⟨negative, whole ++ fraction, exponent - fraction.length⟩)
    | _ => none

/-- The double nearest to `n * 10 ^ place`. A number of `10 ^ 400` and more is
    beyond every double, and one below `10 ^ (-400)` is nearest to zero, so
    the power is only formed between those bounds. -/
def nearestDouble (negative : Bool) (n : Nat) (place : Int) (length : Nat) : Double :=
  if n = 0 then .ofRank negative 0
  else if 400 < length + place then .infinity negative
  else if length + place < -400 then .ofRank negative 0
  else
    match place with
    | .ofNat p => .ofRatio negative (n * tenTo p) 1
    | .negSucc p => .ofRatio negative n (tenTo (p + 1))

/-- The double nearest to a decimal. -/
def Decimal.toDouble (d : Decimal) : Double :=
  -- Leading zeros would spoil the bounds, which count the digits.
  let significant := d.digits.dropWhile (· == 0)
  nearestDouble d.negative (ofDigits significant) d.place significant.length

/-- The double nearest to what a text denotes. -/
def Numeral.toDouble : Numeral → Double
  | .finite d => d.toDouble
  | .infinite negative => .infinity negative
  | .nan => .nan

namespace Text

/-- The characters of a text that is read as a number. White space around it
    does not count, and a lone half is no part of any number. -/
def literal (t : Text) : List Char :=
  t.trim.points.map fun p => (p.char?).getD '?'

/-- The double that a text denotes. -/
def readDouble? (t : Text) : Option Double :=
  (readDecimal? t.literal).map Numeral.toDouble

/-- The integer that a text denotes. -/
def readInt (t : Text) : Except WholeRefusal Int :=
  readWhole t.literal

end Text

end Outreach
