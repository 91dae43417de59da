import Outreach.Audience.Predicate
import Outreach.Json.Decode

/-!
# Predicates on the Wire

A predicate as a JSON object: `all` for every customer, `and` with a list of
terms, or a comparison with its attribute, its comparator and its value. A
timestamp is an object with its text; an integer stays an integer, and any
other number is a double or its text.

## Main definitions

* `Predicate.toJson`, `Predicate.ofJson`: The passage to and from objects.
-/

namespace Outreach

/-- An operand as a value. -/
def Operand.toJson : Operand → Json
  | .int n => .int n
  | .double x => .double x
  | .time t => .record [("time", .string t.iso)]

/-- The operand of a value. -/
def Operand.ofJson (v : Json) : Except Fault Operand :=
  match v with
  | .int n => .ok (.int n)
  | .object _ => do
    let t ← v.member "time"
    return .time (← t.asTime)
  | v => return .double (← v.asDouble)

namespace Predicate

/-- A predicate as an object. -/
def toJson : Predicate → Json
  | .all => .record [("all", .bool true)]
  | .compare subject comparator value =>
    .record [("attr", .text subject.text), ("cmp", .string comparator.text),
      ("value", value.toJson)]
  | .and terms => .record [("and", .list (termsToJson terms))]
  | .unsupported => .null
where
  /-- The terms of a conjunction. -/
  termsToJson : List Predicate → List Json
    | [] => []
    | p :: rest => p.toJson :: termsToJson rest

/-- The comparison of an object. -/
def comparisonOfJson (v : Json) : Except Fault Predicate := do
  let subject ← (← v.member "attr").asText
  let word ← v.member "cmp"
  let comparator ←
    match ((v.word? "cmp").bind Text.string?).bind Comparator.ofText? with
    | some c => pure c
    | none => throw (.unknownWord word .comparator)
  let value ← Operand.ofJson (← v.member "value")
  return .compare (Attribute.ofText subject) comparator value

/-- The predicate of an object, which is at most `depth` conjunctions deep. -/
def ofJsonWithin : Nat → Json → Except Fault Predicate
  | 0, _ => .error .wrongType
  | depth + 1, v =>
    if (v.member? "all").isSome then .ok .all
    else
      match v.member? "and" with
      | some terms => return .and (← terms.asList.mapM (ofJsonWithin depth))
      | none => if (v.member? "unsupported").isSome then .ok .unsupported else comparisonOfJson v

mutual

/-- How deep a value is nested. -/
def depthOf : Json → Nat
  | .list items => depthOfItems items + 1
  | .object members => depthOfMembers members + 1
  | _ => 1

/-- How deep the items of a list are nested. -/
def depthOfItems : List Json → Nat
  | [] => 0
  | v :: rest => max (depthOf v) (depthOfItems rest)

/-- How deep the members of an object are nested. -/
def depthOfMembers : List (Text × Json) → Nat
  | [] => 0
  | (_, v) :: rest => max (depthOf v) (depthOfMembers rest)

end

/-- The predicate of an object. -/
def ofJson (v : Json) : Except Fault Predicate :=
  ofJsonWithin (depthOf v) v

end Predicate

end Outreach
