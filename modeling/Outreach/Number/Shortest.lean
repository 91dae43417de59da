import Outreach.Number.Double

/-!
# Shortest Decimal Texts

A double is written with the fewest significant digits that read back as the
same double, and among those with the digits nearest to it.

A decimal reads back as the double of rank `r` when it lies between the
midpoints to the ranks `r - 1` and `r + 1`, a midpoint itself counting when
`r` is even. For one digit, two digits and so on the two decimals next to the
exact value are tried; the first count with a hit is taken. Seventeen digits
always suffice.

The digits are written positionally when the first one stands between the
fourth place behind the point and the sixteenth before it, and with an
exponent otherwise.

## Main definitions

* `readsBack`: Whether a decimal rounds to a rank.
* `digitCount`: How many decimal digits a number has.
* `pointPlace`: Where the decimal point of a rank stands.
* `nearestDecimal?`: The decimal of a given length that rounds to a rank.
* `shortestDecimal`: The shortest such decimal.
* `Double.text`: The text of a double.
-/

namespace Outreach

/-- A ratio of natural numbers. -/
structure Ratio where
  num : Nat
  den : Nat
  deriving DecidableEq, Inhabited

/-- `digits * 10 ^ place` as a ratio of units. -/
def decimalUnits (digits : Nat) (place : Int) : Ratio :=
  match place with
  | .ofNat p => ⟨digits * tenTo p * Double.unit, 1⟩
  | .negSucc p => ⟨digits * Double.unit, tenTo (p + 1)⟩

/-- Whether a ratio of units rounds to a positive rank: it lies between the
    midpoints to both neighbours, which count for an even rank. -/
def readsBack (rank : Nat) (x : Ratio) : Bool :=
  let low := (units (rank - 1) + units rank) * x.den
  let high := (units rank + units (rank + 1)) * x.den
  let twice := 2 * x.num
  if rank % 2 = 0 then decide (low ≤ twice) && decide (twice ≤ high)
  else decide (low < twice) && decide (twice < high)

/-- How many decimal digits a number has; zero has none. -/
def digitCount (n : Nat) : Nat :=
  if h : n = 0 then 0 else digitCount (n / 10) + 1
termination_by n
decreasing_by exact Nat.div_lt_self (Nat.pos_of_ne_zero h) (by decide)

/-- The place of the decimal point of a positive rank: `p` such that the value
    is at least `10 ^ (p - 1)` and below `10 ^ p`. Every positive double is
    at least `10 ^ (-400)`. -/
def pointPlace (rank : Nat) : Int :=
  digitCount (units rank * tenTo 400 / Double.unit) - 400

/-- The distance of two ratios, as a ratio with the product of their
    denominators. -/
def distance (x y : Ratio) : Nat :=
  ((x.num * y.den : Int) - y.num * x.den).natAbs

/-- A decimal of the given length that rounds to a rank: the decimal below the
    exact value or the one above it, the nearer when both do. The result is
    the whole number of units of the last place. -/
def nearestDecimal? (rank : Nat) (length : Nat) : Option Nat :=
  let place := pointPlace rank - length
  let below :=
    match place with
    | .ofNat p => units rank / (tenTo p * Double.unit)
    | .negSucc p => units rank * tenTo (p + 1) / Double.unit
  let exact : Ratio := ⟨units rank, 1⟩
  let low := decimalUnits below place
  let high := decimalUnits (below + 1) place
  -- If neither neighbour reads back, no decimal of this length does.
  match readsBack rank low && decide (0 < below), readsBack rank high with
  | true, true =>
    let dl := distance low exact
    let dh := distance high exact
    if dl < dh ∨ (dl = dh ∧ below % 2 = 0) then some below else some (below + 1)
  | true, false => some below
  | false, true => some (below + 1)
  | false, false => none

/-- The first length of `length`, `length + 1`, ... with a decimal that rounds
    to the rank, looking at `fuel` lengths: the decimal and its last place. -/
def shortestFrom (rank : Nat) : Nat → Nat → Nat × Int
  | 0, length => ((nearestDecimal? rank length).getD 0, pointPlace rank - length)
  | fuel + 1, length =>
    match nearestDecimal? rank length with
    | some digits => (digits, pointPlace rank - length)
    | none => shortestFrom rank fuel (length + 1)

/-- The shortest decimal that rounds to a positive rank: digits and the place
    of the last one. -/
def shortestDecimal (rank : Nat) : Nat × Int :=
  shortestFrom rank 16 1

/-- The decimal digits of a number, highest first. -/
def decimalDigits (n : Nat) : List Char :=
  Nat.toDigits 10 n

/-- Digits without the zeros at their end. -/
def trimZeros (ds : List Char) : List Char :=
  (ds.reverse.dropWhile (· == '0')).reverse

/-- A number of zeros. -/
def zeroDigits (n : Nat) : List Char :=
  List.replicate n '0'

/-- The text of a decimal with significant digits `ds` and the decimal point
    `point` places behind the first digit's left edge. -/
def layout (ds : List Char) (point : Int) : List Char :=
  let exponent := point - 1
  -- The bounds are those of the exponent, which is one less than the place of the point.
  if -4 ≤ exponent ∧ exponent < 16 then
    if point ≤ 0 then
      '0' :: '.' :: (zeroDigits (-point).toNat ++ ds)
    else if ds.length ≤ point.toNat then
      ds ++ zeroDigits (point.toNat - ds.length) ++ ['.', '0']
    else
      ds.take point.toNat ++ '.' :: ds.drop point.toNat
  else
    let digits := decimalDigits exponent.natAbs
    let fraction :=
      match ds with
      | [] => []
      | [d] => [d]
      | d :: rest => d :: '.' :: rest
    fraction ++ 'e' :: (if exponent < 0 then '-' else '+') ::
      (if digits.length < 2 then '0' :: digits else digits)

/-- The text of a positive finite rank. -/
def rankText (rank : Nat) : List Char :=
  let (digits, place) := shortestDecimal rank
  let all := decimalDigits digits
  layout (trimZeros all) (place + all.length)

/-- The text of a double. -/
def Double.text : Double → String
  | .nan => "nan"
  | .number negative rank _ =>
    let sign := if negative then ['-'] else []
    if rank = infinityRank then String.ofList (sign ++ ['i', 'n', 'f'])
    else if rank = 0 then String.ofList (sign ++ ['0', '.', '0'])
    else String.ofList (sign ++ rankText rank)

end Outreach
