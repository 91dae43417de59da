import Outreach.Text.Basic

/-!
# Audience Rules

A rule compares one attribute of a customer with a value. The value is kept
as it was entered and is read when the rule is compiled. The rules of a list
stand in order; the logic of each rule after the first says how it joins the
rules before it.

## Main definitions

* `Rule.Field`: What a rule compares.
* `Rule.Operator`: How it compares.
* `Rule.Logic`: How it joins the rules before it.
* `Rule`: A rule.
-/

namespace Outreach

namespace Rule

/-- The attribute that a rule compares. -/
inductive Field
  | totalSpends
  | visits
  | lastVisit
  deriving DecidableEq, Inhabited

/-- The wire text of a field. -/
def Field.text : Field → String
  | .totalSpends => "totalSpends"
  | .visits => "visits"
  | .lastVisit => "lastVisit"

/-- The field with a wire text. -/
def Field.ofText? (s : String) : Option Field :=
  [Field.totalSpends, .visits, .lastVisit].find? fun f => f.text == s

/-- The comparison that a rule makes. -/
inductive Operator
  | greater
  | less
  | greaterEqual
  | lessEqual
  | equal
  deriving DecidableEq, Inhabited

/-- The wire text of an operator. -/
def Operator.text : Operator → String
  | .greater => ">"
  | .less => "<"
  | .greaterEqual => ">="
  | .lessEqual => "<="
  | .equal => "="

/-- The operator with a wire text. -/
def Operator.ofText? (s : String) : Option Operator :=
  [Operator.greater, .less, .greaterEqual, .lessEqual, .equal].find? fun o => o.text == s

/-- How a rule joins the rules before it. -/
inductive Logic
  | and
  | or
  deriving DecidableEq, Inhabited

/-- The wire text of a logic. -/
def Logic.text : Logic → String
  | .and => "AND"
  | .or => "OR"

/-- The logic with a wire text. -/
def Logic.ofText? (s : String) : Option Logic :=
  [Logic.and, .or].find? fun l => l.text == s

theorem Field.ofText?_text (f : Field) : Field.ofText? f.text = some f := by
  cases f <;> decide

theorem Operator.ofText?_text (o : Operator) : Operator.ofText? o.text = some o := by
  cases o <;> decide

theorem Logic.ofText?_text (l : Logic) : Logic.ofText? l.text = some l := by
  cases l <;> decide

end Rule

/-- An audience rule. -/
structure Rule where
  field : Rule.Field
  operator : Rule.Operator
  value : Text
  logic : Rule.Logic
  deriving DecidableEq, Inhabited

end Outreach
