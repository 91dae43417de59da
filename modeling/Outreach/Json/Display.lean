import Outreach.Json.Basic
import Outreach.Number.Shortest
import Outreach.Text.Quoted

/-!
# Values inside Messages

How a JSON value is shown inside a message: `None`, `True` and `False`,
numbers by their digits, texts in quotes, lists in brackets and objects in
braces. As a plain text, a value is shown the same way, except that a text
stands without quotes.

## Main definitions

* `Json.shown`: A value as it is shown.
* `Json.plain`: A value as a text.
-/

namespace Outreach

/-- Texts joined with commas. -/
def commaJoined (parts : List String) : String :=
  ", ".intercalate parts

namespace Json

/-- A value as it is shown inside a message. -/
def shown : Json → String
  | .null => "None"
  | .bool true => "True"
  | .bool false => "False"
  | .int n => toString n
  | .double x => x.text
  | .text t => Text.quoted t
  | .list items => "[" ++ commaJoined (shownItems items) ++ "]"
  | .object members => "\x7b" ++ commaJoined (shownMembers members) ++ "\x7d"
where
  /-- The items of a list. -/
  shownItems : List Json → List String
    | [] => []
    | item :: rest => item.shown :: shownItems rest
  /-- The members of an object. -/
  shownMembers : List (Text × Json) → List String
    | [] => []
    | (name, value) :: rest =>
      (Text.quoted name ++ ": " ++ value.shown) :: shownMembers rest

/-- A value as a text. -/
def plain : Json → Text
  | .text t => t
  | value => Text.ofString value.shown

end Json

end Outreach
