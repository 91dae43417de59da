import Outreach.Number.Double
import Outreach.Number.Shortest

/-!
# Doubles with a Given Precision

A double rounded to a number of decimal places or of significant digits, ties
going to the even digit. The exact value of the double is rounded.

## Main definitions

* `fixedText`: A number of decimal places.
* `scientificText`: One digit before the point, a number of digits behind it,
  and an exponent of at least two digits.
* `generalText`: A number of significant digits, in the shorter of the two
  forms.
-/

namespace Outreach

/-- The decimal digits of a number, at least `width` of them. -/
def atLeastDigits (width n : Nat) : List Char :=
  let ds := decimalDigits n
  List.replicate (width - ds.length) '0' ++ ds

/-- Digits with a point before the last `places` of them. -/
def pointed (places : Nat) (keepPoint : Bool) (ds : List Char) : List Char :=
  let whole := ds.take (ds.length - places)
  let fraction := ds.drop (ds.length - places)
  if places = 0 then (if keepPoint then whole ++ ['.'] else whole)
  else whole ++ '.' :: fraction

/-- The magnitude of a double with `places` decimal places. -/
def fixedText (places : Nat) (keepPoint : Bool) (rank : Nat) : List Char :=
  let n := roundHalfEven (units rank * tenTo places) Double.unit
  pointed places keepPoint (atLeastDigits (places + 1) n)

/-- A magnitude in units over `10 ^ place`, rounded. -/
def roundedAt (rank : Nat) (place : Int) : Nat :=
  match place with
  | .ofNat p => roundHalfEven (units rank) (Double.unit * tenTo p)
  | .negSucc p => roundHalfEven (units rank * tenTo (p + 1)) Double.unit

/-- The place of the first significant digit of a magnitude. -/
def leadingPlace (rank : Nat) : Int :=
  if rank = 0 then 0 else pointPlace rank - 1

/-- The first `length` significant digits of a magnitude and the place of the
    first of them. -/
def significant (length rank : Nat) : Nat × Int :=
  let lead := leadingPlace rank
  let n := roundedAt rank (lead + 1 - length)
  if tenTo length ≤ n then (n / 10, lead + 1) else (n, lead)

/-- An exponent with its sign and at least two digits. -/
def exponentText (letter : Char) (e : Int) : List Char :=
  letter :: (if e < 0 then '-' else '+') :: atLeastDigits 2 e.natAbs

/-- The magnitude of a double with `places` digits behind the first. -/
def scientificText (letter : Char) (places : Nat) (keepPoint : Bool) (rank : Nat) : List Char :=
  let (n, e) := significant (places + 1) rank
  pointed places keepPoint (atLeastDigits (places + 1) n) ++ exponentText letter e

/-- Digits behind a point without zeros at their end. -/
def withoutTrailingZeros (ds : List Char) : List Char :=
  if ds.contains '.' then
    let kept := (ds.reverse.dropWhile (· == '0')).reverse
    if kept.getLast? = some '.' then kept.dropLast else kept
  else ds

/-- The magnitude of a double with `digits` significant digits. -/
def generalText (letter : Char) (digits : Nat) (keepZeros : Bool) (rank : Nat) : List Char :=
  let digits := max digits 1
  let (n, e) := significant digits rank
  if -4 ≤ e ∧ e < digits then
    let ds := fixedText (digits - 1 - e).toNat keepZeros rank
    if keepZeros then ds else withoutTrailingZeros ds
  else
    let ds := pointed (digits - 1) keepZeros (atLeastDigits digits n)
    (if keepZeros then ds else withoutTrailingZeros ds) ++ exponentText letter e

end Outreach
