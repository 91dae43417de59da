import Outreach.Fault
import Outreach.Rule.Basic

/-!
# Rules on the Wire

A rule travels as an object with the members `field`, `operator`, `value` and
`logic`. The first two are required. A logic that counts as absent means that
the rule joins its predecessors, and an absent value is the empty text; a
value of another type is kept by its text.

## Main definitions

* `Rule.ofJson`: The rule of an object.
* `Rule.toJson`: The object of a rule.
* `Rule.listOfJson`, `Rule.listToJson`: The same for lists.
* `Rule.listOfValue`: The rules of any value.
-/

namespace Outreach

namespace Rule

/-- The word that a value is looked up as; only texts are words. -/
def wordOf? (word : Json) : Option String :=
  match word with
  | .text t => t.string?
  | _ => none

/-- Look a member of a rule's object up in a vocabulary. -/
def lookUp {α : Type} (wire word : Json) (vocabulary : Vocabulary) (find : String → Option α) :
    Except Fault α :=
  match (wordOf? word).bind find with
  | some a => .ok a
  | none => .error (.ruleWord wire word vocabulary)

/-- A required member of a rule's object. -/
def required (wire : Json) (members : List (Text × Json)) (name : String) :
    Except Fault Json :=
  match Json.find? members (Text.ofString name) with
  | some value => .ok value
  | none => .error (.ruleMember wire name)

/-- The logic that a rule's object asks for. -/
def logicWord (members : List (Text × Json)) : Json :=
  match Json.find? members (Text.ofString "logic") with
  | some word => if word.isEmptyLike then .string Logic.and.text else word
  | none => .string Logic.and.text

/-- The text of a rule's value. -/
def valueText (members : List (Text × Json)) : Text :=
  match Json.find? members (Text.ofString "value") with
  | some value => value.plain
  | none => Text.ofString ""

/-- The rule of an object. -/
def ofJson (wire : Json) : Except Fault Rule :=
  match wire with
  | .object members => do
    let word ← required wire members "field"
    let field ← lookUp wire word .ruleField Field.ofText?
    let word ← required wire members "operator"
    let operator ← lookUp wire word .ruleOperator Operator.ofText?
    let logic ← lookUp wire (logicWord members) .ruleLogic Logic.ofText?
    .ok ⟨field, operator, valueText members, logic⟩
  | _ => .error .wrongType

/-- The object of a rule. -/
def toJson (r : Rule) : Json :=
  .record [("field", .string r.field.text), ("operator", .string r.operator.text),
    ("value", .text r.value), ("logic", .string r.logic.text)]

/-- The rules of a list of objects. -/
def listOfJson (wires : List Json) : Except Fault (List Rule) :=
  wires.mapM ofJson

/-- The rules of any value. A text or an object holds items too, but none that
    is a rule's object. -/
def listOfValue : Json → Except Fault (List Rule)
  | .list wires => listOfJson wires
  | .text t => if t.points.isEmpty then .ok [] else .error .wrongType
  | .object members => if members.isEmpty then .ok [] else .error .wrongType
  | _ => .error .wrongType

/-- The objects of a list of rules. -/
def listToJson (rules : List Rule) : List Json :=
  rules.map toJson

end Rule

end Outreach
