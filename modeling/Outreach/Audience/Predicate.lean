import Outreach.Number.Double
import Outreach.Text.Basic
import Outreach.Time.Timestamp

/-!
# Audience Predicates

What a list of rules is compiled to: a tree of comparisons that does not
depend on how customers are stored.

## Main definitions

* `Comparator`: The comparisons.
* `Operand`: What is compared.
* `Attribute`: What a customer can be asked for.
* `Attribute.reservedName`: The names that say what a record is.
* `Predicate`: The tree.
* `Operand.holds`: The outcome of a comparison of two operands.
-/

namespace Outreach

/-- A comparison. -/
inductive Comparator
  | gt
  | lt
  | ge
  | le
  | eq
  deriving DecidableEq, Inhabited

namespace Comparator

/-- The text of a comparator. -/
def text : Comparator → String
  | .gt => "gt"
  | .lt => "lt"
  | .ge => "ge"
  | .le => "le"
  | .eq => "eq"

/-- The comparator with a text. -/
def ofText? (s : String) : Option Comparator :=
  [gt, lt, ge, le, eq].find? fun c => c.text == s

/-- Whether a comparison accepts how its left side stands to its right side. -/
def accepts : Comparator → Ordering → Bool
  | .gt, o => o == .gt
  | .lt, o => o == .lt
  | .ge, o => o != .lt
  | .le, o => o != .gt
  | .eq, o => o == .eq

theorem ofText?_text (c : Comparator) : ofText? c.text = some c := by
  cases c <;> decide

end Comparator

/-- The right side of a comparison: a whole number, a double or a
    timestamp. -/
inductive Operand
  | int (n : Int)
  | double (x : Double)
  | time (t : Timestamp)
  deriving DecidableEq, Inhabited

/-- What a customer can be asked for. -/
inductive Attribute
  | id
  | name
  | email
  | phone
  | totalSpends
  | visits
  | lastVisit
  | createdAt
  | updatedAt
  | other (label : Text)
  deriving DecidableEq, Inhabited

namespace Attribute

/-- The text of an attribute. -/
def text : Attribute → Text
  | .id => "id"
  | .name => "name"
  | .email => "email"
  | .phone => "phone"
  | .totalSpends => "total_spends"
  | .visits => "visits"
  | .lastVisit => "last_visit"
  | .createdAt => "created_at"
  | .updatedAt => "updated_at"
  | .other label => label

/-- The attributes with a meaning. -/
def known : List Attribute :=
  [.id, .name, .email, .phone, .totalSpends, .visits, .lastVisit, .createdAt, .updatedAt]

/-- The attribute with a text. -/
def ofText (t : Text) : Attribute :=
  (known.find? fun a => a.text == t).getD (.other t)

/-- The name that is kept for a word: names of this form say what a record is
    and how it is handled, whatever it holds. -/
def reservedName (word : String) : String := "__" ++ word ++ "__"

/-- The words whose reserved names every record answers to. -/
def commonWords : List String :=
  ["annotations", "class", "delattr", "dict", "dir", "doc", "eq", "format", "ge", "getattribute",
    "getstate", "gt", "hash", "init", "init_subclass", "le", "lt", "module", "ne", "new", "reduce",
    "reduce_ex", "repr", "setattr", "sizeof", "str", "subclasshook", "weakref"]

/-- Whether an attribute is one of some names, or the reserved name of a common
    word or of one of some further words. -/
def isAmong (a : Attribute) (names words : List String) : Bool :=
  (names ++ (commonWords ++ words).map reservedName).any fun name => a.text = (name : Text)

end Attribute

/-- A condition on customers. -/
inductive Predicate
  /-- Every customer. -/
  | all
  /-- One comparison of an attribute. -/
  | compare (subject : Attribute) (comparator : Comparator) (value : Operand)
  /-- Every term at once. -/
  | and (terms : List Predicate)
  /-- Something else in the place of a condition. -/
  | unsupported
  deriving Inhabited

end Outreach
