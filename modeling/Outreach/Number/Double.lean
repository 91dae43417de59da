import Outreach.Number.Power

/-!
# Doubles

Binary floating-point numbers of 64 bits, as a sign and a rank. The rank of a
magnitude counts the smaller magnitudes: zero has rank `0`, the smallest
positive double rank `1`, and infinity the last rank. The order of doubles is
then the order of signed ranks, and the bit pattern is the rank with the sign
in front.

Every finite double is a whole number of units of `2 ^ -1074`. `units` gives
that number, and every exact statement about a double is one about integers.
The number it gives for infinity, `2 ^ 1024`, is where the next double would
stand; it bounds the values that round to the largest finite double.

## Main definitions

* `Double`: A double.
* `units`: The magnitude of a rank, in units.
* `rankNearest`: The rank nearest to a ratio of units.
* `Double.ofRatio`: The double nearest to a ratio.
* `Double.scaled`: A finite double in signed units.
* `Double.position?`: The place of a double in the order, NaN having none.
* `Double.lt`, `Double.le`, `Double.eq`: The comparisons.
* `Double.compareInt?`: The exact comparison of an integer with a double.
* `Double.bits`: The bit pattern.
-/

namespace Outreach

/-- The rank of infinity. -/
def infinityRank : Nat := 2047 * twoTo 52

/-- A binary floating-point number of 64 bits. All NaNs are one. -/
inductive Double
  | nan
  | number (negative : Bool) (rank : Nat) (rank_le : rank ≤ infinityRank)
  deriving DecidableEq

/-- The magnitude of a rank in units of `2 ^ -1074`. -/
def units (rank : Nat) : Nat :=
  if rank < twoTo 53 then rank
  else (twoTo 52 + rank % twoTo 52) * twoTo (rank / twoTo 52 - 1)

/-- The quotient rounded to the nearest integer, a half going to the even
    neighbour. -/
def roundHalfEven (num den : Nat) : Nat :=
  let q := num / den
  let r := num % den
  if 2 * r < den then q
  else if den < 2 * r then q + 1
  else q + q % 2

/-- How many binary places a ratio of units loses: none below `2 ^ 53`, and
    otherwise as many as leave a significand of 53 bits. -/
def excess (num den : Nat) : Nat :=
  if num / den < twoTo 53 then 0 else Nat.log2 (num / den) - 52

/-- The rank nearest to `num / den` units, a half going to the even rank. It
    is not bounded by the rank of infinity. -/
def rankNearest (num den : Nat) : Nat :=
  let s := excess num den
  -- A significand that is rounded up to `2 ^ 53` carries into the exponent by itself.
  s * twoTo 52 + roundHalfEven num (den * twoTo s)

namespace Double

/-- The units in one. -/
def unit : Nat := twoTo 1074

/-- The double with a sign and a rank, ranks beyond infinity counting as
    infinity. -/
def ofRank (negative : Bool) (rank : Nat) : Double :=
  .number negative (min rank infinityRank) (Nat.min_le_right _ _)

/-- The double nearest to `num / den` units. -/
def ofUnits (negative : Bool) (num den : Nat) : Double :=
  ofRank negative (rankNearest num den)

/-- The double nearest to `num / den`, a half going to the even neighbour. -/
def ofRatio (negative : Bool) (num den : Nat) : Double :=
  ofUnits negative (num * unit) den

/-- The double nearest to an integer. -/
def ofInt (n : Int) : Double :=
  ofRatio (decide (n < 0)) n.natAbs 1

/-- Zero. -/
def zero : Double := ofRank false 0

/-- Infinity of either sign. -/
def infinity (negative : Bool) : Double := .number negative infinityRank (Nat.le_refl _)

instance : Inhabited Double := ⟨zero⟩

def isNaN : Double → Bool
  | .nan => true
  | .number .. => false

def isInfinite : Double → Bool
  | .nan => false
  | .number _ rank _ => rank == infinityRank

def isFinite (x : Double) : Bool :=
  !x.isNaN && !x.isInfinite

/-- An integer with the given sign. -/
def signed (negative : Bool) (n : Nat) : Int :=
  if negative then -(n : Int) else n

/-- A double in signed units. NaN counts as nothing, infinity as the double
    behind the last one. -/
def scaled : Double → Int
  | .nan => 0
  | .number negative rank _ => signed negative (units rank)

/-- The place of a double in the order. -/
def position? : Double → Option Int
  | .nan => none
  | .number negative rank _ => some (signed negative rank)

/-- A relation of places, false as soon as NaN takes part. -/
def related (r : Int → Int → Bool) (x y : Double) : Bool :=
  match x.position?, y.position? with
  | some a, some b => r a b
  | _, _ => false

def lt (x y : Double) : Bool := related (fun a b => decide (a < b)) x y

def le (x y : Double) : Bool := related (fun a b => decide (a ≤ b)) x y

/-- Equality as numbers: the zeros are equal, NaN is equal to nothing. -/
def eq (x y : Double) : Bool := related (fun a b => decide (a = b)) x y

/-- How an integer stands to a double, compared exactly. -/
def compareInt? (n : Int) (x : Double) : Option Ordering :=
  match x with
  | .nan => none
  | .number negative rank _ =>
    -- The integer is not rounded, so it needs no double of its own.
    if rank = infinityRank then some (if negative then .gt else .lt)
    else some (compare (n * unit) (signed negative (units rank)))

/-- A finite double that is a whole number. -/
def isIntegral (x : Double) : Bool :=
  x.isFinite && x.scaled % unit == 0

/-- The integer that is left when the fraction is cut off. -/
def truncate (x : Double) : Int :=
  Int.tdiv x.scaled unit

/-- The bit pattern: the sign, then the rank. -/
def bits : Double → Nat
  | .nan => 0x7FF8000000000000
  | .number negative rank _ => (if negative then twoTo 63 else 0) + rank

end Double

end Outreach
