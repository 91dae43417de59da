import Outreach.Audience.Predicate
import Outreach.Rule.Basic
import Outreach.Rule.Value

/-!
# Compiling Rules

A list of rules becomes one predicate.

A rule on spend or visits compares the attribute with the number. A rule on
the last visit counts days backwards from a reference time: more days ago is
an earlier timestamp, so its comparison is inverted.

Rules are read in order. A rule with logic `and` joins the current group, one
with logic `or` opens a new group; all groups must hold. A group of one rule
is its comparison, a list of one rule is that rule, and no rules at all hold
of every customer.

## Main definitions

* `Rule.Operator.direct`, `Rule.Operator.inverted`: The comparisons.
* `Rule.compileOne`: The comparison of one rule.
* `Rule.groups`: The comparisons of a list in their groups.
* `Rule.compile`: The predicate of a list.
-/

namespace Outreach

namespace Rule

/-- The comparison of a number. -/
def Operator.direct : Operator → Comparator
  | .greater => .gt
  | .less => .lt
  | .greaterEqual => .ge
  | .lessEqual => .le
  | .equal => .eq

/-- The comparison of a timestamp when the operator counts days backwards. -/
def Operator.inverted : Operator → Comparator
  | .greater => .lt
  | .less => .gt
  | .greaterEqual => .le
  | .lessEqual => .ge
  | .equal => .eq

/-- The attribute that a field stands for. -/
def Field.attribute : Field → Attribute
  | .totalSpends => .totalSpends
  | .visits => .visits
  | .lastVisit => .lastVisit

/-- The reference time of a rule on the last visit. -/
def reference (value : Text) (now : Timestamp) : Except ValueProblem Timestamp := do
  let days ← dayCount value
  match now.minusDays? days with
  | some t => .ok t
  | none => .error .outOfRange

/-- The comparison of one rule. -/
def compileOne (now : Timestamp) (r : Rule) : Except Fault Predicate :=
  match r.field with
  | .lastVisit => do
    let t ← blame (.text r.value) (reference r.value now)
    .ok (.compare r.field.attribute r.operator.inverted (.time t))
  | _ => do
    let x ← blame (.text r.value) (number r.value)
    .ok (.compare r.field.attribute r.operator.direct (.double x))

/-- The groups of comparisons, given the open group in reverse. -/
def groups (current : List Predicate) : List (Logic × Predicate) → List (List Predicate)
  | [] => [current.reverse]
  | (.or, p) :: rest => current.reverse :: groups [p] rest
  | (.and, p) :: rest => groups (p :: current) rest

/-- A group as one condition. -/
def collapse : List Predicate → Predicate
  | [p] => p
  | ps => .and ps

/-- The predicate of the comparisons of a list, with the logic of each rule. -/
def assemble : List (Logic × Predicate) → Predicate
  | [] => .all
  | [(_, p)] => p
  | (_, p) :: rest => .and ((groups [p] rest).map collapse)

/-- The predicate of a list of rules at a reference time. -/
def compile (rules : List Rule) (now : Timestamp) : Except Fault Predicate := do
  let comparisons ← rules.mapM (compileOne now)
  .ok (assemble ((rules.map Rule.logic).zip comparisons))

end Rule

end Outreach
