import Outreach.Number.Double
import Outreach.Text.Basic

/-!
# JSON Values

JSON as it is exchanged: integers of any size are kept apart from doubles,
NaN and the infinities may occur, the members of an object keep their order,
and a text may hold lone halves of surrogate pairs.

## Main definitions

* `Json`: A value.
* `Json.member?`: A member of an object.
* `Json.putMember`: An object's members with one set.
* `Json.isEmptyLike`: The values that count as absent.
-/

namespace Outreach

/-- A JSON value. -/
inductive Json
  | null
  | bool (b : Bool)
  | int (n : Int)
  | double (x : Double)
  | text (t : Text)
  | list (items : List Json)
  | object (members : List (Text × Json))
  deriving Inhabited

namespace Json

/-- A string as a value. -/
def string (s : String) : Json :=
  .text (Text.ofString s)

instance : Coe String Json := ⟨string⟩

/-- The value of a member with the given name. -/
def find? (members : List (Text × Json)) (name : Text) : Option Json :=
  (members.find? fun m => m.1 = name).map Prod.snd

/-- The value of an object's member. -/
def member? (value : Json) (name : String) : Option Json :=
  match value with
  | .object members => find? members (Text.ofString name)
  | _ => none

/-- Members with one set: a name that is present keeps its place, and a new
    name comes last. -/
def putMember (members : List (Text × Json)) (name : Text) (value : Json) :
    List (Text × Json) :=
  if members.any fun m => m.1 = name then
    members.map fun m => if m.1 = name then (name, value) else m
  else members ++ [(name, value)]

/-- An object with named members. -/
def record (members : List (String × Json)) : Json :=
  .object (members.map fun m => (Text.ofString m.1, m.2))

/-- The values that count as absent: null, false, zero, and whatever is
    empty. -/
def isEmptyLike : Json → Bool
  | .null => true
  | .bool b => !b
  | .int n => n == 0
  | .double x => x.eq Double.zero
  | .text t => t.points.isEmpty
  | .list items => items.isEmpty
  | .object members => members.isEmpty

end Json

end Outreach
