import Outreach.Number.Double

/-!
# Arithmetic of Doubles

Each operation is the exact result rounded to the nearest double. Exact
results are integers: a sum of doubles is a sum of units, and a product is a
number of units of units.

## Main definitions

* `Double.add`, `Double.sub`, `Double.mul`: Sum, difference and product.
* `Double.ofQuotient?`: The quotient of two integers.
-/

namespace Outreach

namespace Double

/-- A double with the other sign. -/
def neg : Double → Double
  | .nan => .nan
  | .number negative rank h => .number (!negative) rank h

/-- The sum. Infinities of one sign stay, of both signs cancel to NaN; two
    zeros of one sign keep it, and every other exact zero is positive. -/
def add : Double → Double → Double
  | .nan, _ => .nan
  | _, .nan => .nan
  | .number s a ha, .number t b hb =>
    if a = infinityRank then
      if b = infinityRank ∧ s ≠ t then .nan else .number s a ha
    else if b = infinityRank then .number t b hb
    else
      let sum := signed s (units a) + signed t (units b)
      if sum = 0 then ofRank (s && t) 0
      else ofUnits (decide (sum < 0)) sum.natAbs 1

/-- The difference. -/
def sub (x y : Double) : Double :=
  x.add y.neg

/-- The product. Infinity times zero is NaN. -/
def mul : Double → Double → Double
  | .nan, _ => .nan
  | _, .nan => .nan
  | .number s a _, .number t b _ =>
    let negative := s != t
    if a = infinityRank ∨ b = infinityRank then
      if a = 0 ∨ b = 0 then .nan else infinity negative
    else ofUnits negative (units a * units b) unit

/-- The quotient of two integers, rounded once. There is none when the
    divisor is zero or the quotient rounds to infinity. -/
def ofQuotient? (num den : Int) : Option Double :=
  if den = 0 then none
  else
    let q := ofRatio (decide (num < 0) != decide (den < 0)) num.natAbs den.natAbs
    if q.isInfinite then none else some q

end Double

end Outreach
