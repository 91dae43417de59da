import Outreach.Audience.Predicate
import Outreach.Customer.Basic

/-!
# Matching Customers

Whether a customer satisfies a predicate. Numbers are compared exactly,
whether they are whole numbers or doubles, and timestamps as instants. Values
of different types are never equal and cannot be ordered; neither can
timestamps of which only one is aware.

## Main definitions

* `Fact`: What a customer says about an attribute.
* `Customer.fact?`: The facts of a customer.
* `Fact.order?`: How a fact stands to an operand.
* `Predicate.matches`: Whether a customer satisfies a predicate.
-/

namespace Outreach

/-- What a customer says about an attribute. -/
inductive Fact
  | int (n : Int)
  | double (x : Double)
  | time (t : Timestamp)
  /-- A value that no operand is comparable with. -/
  | foreign
  deriving DecidableEq

/-- The names of what a customer does. -/
def Customer.operations : List String := ["record_order", "to_dict"]

/-- The words whose reserved names a customer answers to, beside the common
    ones. -/
def Customer.reservedWords : List String :=
  ["dataclass_fields", "dataclass_params", "match_args", "post_init"]

/-- What a value says. -/
def Fact.ofJson : Json → Fact
  | .int n => .int n
  | .bool b => .int (if b then 1 else 0)
  | .double x => .double x
  | _ => .foreign

/-- What a customer says about an attribute, if it has it. What it does, and
    what every record is, are no values. -/
def Customer.fact? (c : Customer) : Attribute → Option Fact
  | .id => some .foreign
  | .name => some .foreign
  | .email => some .foreign
  | .phone => some (.ofJson c.phone)
  | .totalSpends => some (.double c.totalSpends)
  | .visits => some (.int c.visits)
  | .lastVisit => some (.time c.lastVisit)
  | .createdAt => some (.time c.createdAt)
  | .updatedAt => none
  | .other label =>
    if (Attribute.other label).isAmong Customer.operations Customer.reservedWords then
      some .foreign
    else none

/-- How two values stand to each other. -/
inductive Standing
  /-- They are ordered. -/
  | ordered (o : Ordering)
  /-- One of them is NaN: no comparison holds. -/
  | unordered
  /-- Their types differ: they are not equal and cannot be ordered. -/
  | mismatched
  deriving DecidableEq

/-- The standing that an optional order means when there is none for NaN. -/
def Standing.ofOrder? : Option Ordering → Standing
  | some o => .ordered o
  | none => .unordered

/-- The order of two doubles. -/
def Double.compare? (x y : Double) : Option Ordering :=
  match x.position?, y.position? with
  | some a, some b => some (compare a b)
  | _, _ => none

/-- How a fact stands to an operand. -/
def Fact.standing : Fact → Operand → Standing
  | .int n, .int m => .ordered (compare n m)
  | .int n, .double y => .ofOrder? (Double.compareInt? n y)
  | .double x, .int m => .ofOrder? ((Double.compareInt? m x).map Ordering.swap)
  | .double x, .double y => .ofOrder? (x.compare? y)
  | .time s, .time t =>
    match s.compare? t with
    | some o => .ordered o
    | none => .mismatched
  | _, _ => .mismatched

/-- Whether a comparison holds, given how its sides stand to each other. -/
def Comparator.decide (c : Comparator) : Standing → Except Fault Bool
  | .ordered o => .ok (c.accepts o)
  | .unordered => .ok false
  | .mismatched => if c = .eq then .ok false else .error .wrongType

mutual

/-- Whether a customer satisfies a predicate. The terms of a conjunction are
    looked at in order, up to the first that does not hold. -/
def Predicate.matches (c : Customer) : Predicate → Except Fault Bool
  | .all => .ok true
  | .compare subject comparator value =>
    match c.fact? subject with
    | some fact => comparator.decide (fact.standing value)
    | none => .error .noAttribute
  | .and terms => Predicate.allMatch c terms
  | .unsupported => .error .noAttribute

/-- Whether a customer satisfies every term. -/
def Predicate.allMatch (c : Customer) : List Predicate → Except Fault Bool
  | [] => .ok true
  | term :: rest =>
    match Predicate.matches c term with
    | .ok true => Predicate.allMatch c rest
    | other => other

end

end Outreach
