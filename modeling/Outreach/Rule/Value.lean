import Outreach.Fault
import Outreach.Number.Literal

/-!
# Values of Rules

A rule on spend or visits has a number for its value, one on the last visit a
count of days. Blanks around a value do not matter.

## Main definitions

* `Rule.number`: The double that a value denotes, which must be finite.
* `Rule.dayCount`: The count of days that a value denotes.
* `Rule.parseNumber`, `Rule.parseDayCount`: The same for any value, with the
  value in the fault.
-/

namespace Outreach

namespace Rule

/-- The double that a text denotes, which must be finite. -/
def number (value : Text) : Except ValueProblem Double :=
  match readDecimal? value.strip.literal with
  | none => .error .notNumber
  | some numeral =>
    let x := numeral.toDouble
    if x.isFinite then .ok x else .error .notFinite

/-- The count of days that a text denotes. -/
def dayCount (value : Text) : Except ValueProblem Nat :=
  match readWhole value.strip.literal with
  | .error _ => .error .notWholeDays
  | .ok n => if n < 0 then .error .negativeDays else .ok n.toNat

/-- A problem as the fault of a value. -/
def blame {α : Type} (value : Json) : Except ValueProblem α → Except Fault α
  | .ok a => .ok a
  | .error problem => .error (.ruleValue value problem)

/-- The finite double that a value denotes by its text. -/
def parseNumber (value : Json) : Except Fault Double :=
  blame value (number value.plain)

/-- The count of days that a value denotes by its text. -/
def parseDayCount (value : Json) : Except Fault Nat :=
  blame value (dayCount value.plain)

end Rule

end Outreach
