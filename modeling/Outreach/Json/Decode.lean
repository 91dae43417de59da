import Outreach.Fault
import Outreach.Number.Literal
import Outreach.Time.Iso

/-!
# Decoding JSON

Values of an expected type out of JSON values, and members out of objects. A
member that is null counts as one that is not given.

## Main definitions

* `Json.asText`, `Json.asDouble`, `Json.asInt`, `Json.asTime`, `Json.asUuid`,
  `Json.asList`: Values of a type.
* `Json.member`, `Json.given?`, `Json.givenAs?`, `Json.items`, `Json.flag`:
  Members of an object.
-/

namespace Outreach

namespace Json

/-- A text. -/
def asText : Json → Except Fault Text
  | .text t => .ok t
  | _ => .error .wrongType

/-- A double: a number, or its text. -/
def asDouble : Json → Except Fault Double
  | .double x => .ok x
  | .int n =>
    let x := Double.ofInt n
    if x.isInfinite then .error .integerRange else .ok x
  | .bool b => .ok (Double.ofInt (if b then 1 else 0))
  | .text t =>
    match t.readDouble? with
    | some x => .ok x
    | none => .error (.notADouble t)
  | _ => .error .wrongType

/-- An integer. -/
def asInt : Json → Except Fault Int
  | .int n => .ok n
  | .bool b => .ok (if b then 1 else 0)
  | _ => .error .wrongType

/-- A timestamp. -/
def asTime (v : Json) : Except Fault Timestamp := do
  match Timestamp.readIso (← v.asText) with
  | .ok t => return t
  | .error r => throw (.notATimestamp r)

/-- An identifier, by the loose reader. -/
def asUuid (v : Json) : Except Fault Uuid := do
  match Uuid.readLoose (← v.asText) with
  | .ok u => return u
  | .error r => throw (.identifier r)

/-- The items of a list; another value has none. -/
def asList : Json → List Json
  | .list vs => vs
  | _ => []

/-- The members of an object; another value has none. -/
def asMembers : Json → List (Text × Json)
  | .object ms => ms
  | _ => []

/-- A member that must be there. -/
def member (v : Json) (name : String) : Except Fault Json :=
  match v.member? name with
  | some m => .ok m
  | none => .error .noMember

/-- A member that is there and not null. -/
def given? (v : Json) (name : String) : Option Json :=
  match v.member? name with
  | some .null => none
  | m => m

/-- A member of a type, if it is given. -/
def givenAs? {α : Type} (v : Json) (name : String) (read : Json → Except Fault α) :
    Except Fault (Option α) :=
  (v.given? name).mapM read

/-- A member of a type, or a default. -/
def givenOr {α : Type} (v : Json) (name : String) (read : Json → Except Fault α) (default : α) :
    Except Fault α :=
  return (← v.givenAs? name read).getD default

/-- The items of a member. -/
def items (v : Json) (name : String) : List Json :=
  ((v.member? name).map asList).getD []

/-- The text of a member, if it is one. -/
def word? (v : Json) (name : String) : Option Text :=
  match v.member? name with
  | some (.text t) => some t
  | _ => none

/-- Whether a member is true. -/
def flag (v : Json) (name : String) : Bool :=
  match v.member? name with
  | some (.bool b) => b
  | _ => false

end Json

end Outreach
