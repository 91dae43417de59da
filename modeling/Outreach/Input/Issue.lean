import Outreach.Fault

/-!
# Issues with an Input

What is wrong with an input that was expected to have a certain form: a list
of issues, each with the place in the input. All issues of an input are found,
not only the first. A default value that cannot be computed is a fault, which
ends the reading at once.

## Main definitions

* `Bound`: A bound of a number.
* `IssueKind`: What can be wrong with a value.
* `Issue`: A problem and its place.
* `Flaw`: Why an input is refused.
* `Checked`: What was read from an input.
* `Checked.ap`: Two parts of an input, one after the other.
* `readMember`, `given`, `readAlias`: Members of an object.
-/

namespace Outreach

/-- A bound of a number. -/
inductive Bound
  /-- The number is an integer. -/
  | whole (n : Int)
  /-- The number is a double. -/
  | real (n : Int)
  deriving DecidableEq, Inhabited

namespace Bound

/-- A bound as it is worded. -/
def text : Bound → String
  | .whole n | .real n => toString n

/-- A bound as a value. -/
def toJson : Bound → Json
  | .whole n => .int n
  | .real n => .double (Double.ofInt n)

end Bound

/-- What can be wrong with a value. -/
inductive IssueKind
  | missing
  | notText
  | textTooShort (least : Nat)
  | textTooLong (most : Nat)
  /-- The text has a lone half of a surrogate pair. -/
  | textNotUnicode
  | notInteger
  | integerUnreadable
  | integerTooLarge
  | integerFraction
  | notFinite
  | notNumber
  | numberUnreadable
  | notAbove (bound : Bound)
  | belowLeast (least : Bound)
  | aboveGreatest (most : Bound)
  | notBoolean
  | booleanUnreadable
  /-- The value is none of some words. -/
  | notChoice (words : List String)
  | notIdentifier
  | identifierUnreadable
  | notList
  | notObject
  /-- The body of a request is no object. -/
  | notBodyObject
  | notTimestamp
  | timestampUnreadable
  | dateUnreadable
  /-- The body of a request is no JSON document. -/
  | malformed
  /-- The value has the right form, but a rule forbids it. -/
  | forbidden (reason : String)
  deriving DecidableEq, Inhabited

/-- The name of a kind of issue. -/
def IssueKind.text : IssueKind → String
  | .missing => "missing"
  | .notText => "string_type"
  | .textTooShort _ => "string_too_short"
  | .textTooLong _ => "string_too_long"
  | .textNotUnicode => "string_unicode"
  | .notInteger => "int_type"
  | .integerUnreadable => "int_parsing"
  | .integerTooLarge => "int_parsing_size"
  | .integerFraction => "int_from_float"
  | .notFinite => "finite_number"
  | .notNumber => "float_type"
  | .numberUnreadable => "float_parsing"
  | .notAbove _ => "greater_than"
  | .belowLeast _ => "greater_than_equal"
  | .aboveGreatest _ => "less_than_equal"
  | .notBoolean => "bool_type"
  | .booleanUnreadable => "bool_parsing"
  | .notChoice _ => "enum"
  | .notIdentifier => "uuid_type"
  | .identifierUnreadable => "uuid_parsing"
  | .notList => "list_type"
  | .notObject => "model_type"
  | .notBodyObject => "model_attributes_type"
  | .notTimestamp => "datetime_type"
  | .timestampUnreadable => "datetime_parsing"
  | .dateUnreadable => "datetime_from_date_parsing"
  | .malformed => "json_invalid"
  | .forbidden _ => "value_error"

/-- A number of characters. -/
def characterCount (n : Nat) : String :=
  toString n ++ (if n = 1 then " character" else " characters")

/-- Words to choose from, in quotes. -/
def choiceText : List String → String
  | [] => ""
  | [word] => "'" ++ word ++ "'"
  | [first, last] => "'" ++ first ++ "' or '" ++ last ++ "'"
  | word :: rest => "'" ++ word ++ "', " ++ choiceText rest

/-- The wording of a kind of issue. -/
def IssueKind.message : IssueKind → String
  | .missing => "Field required"
  | .notText => "Input should be a valid string"
  | .textTooShort least => "String should have at least " ++ characterCount least
  | .textTooLong most => "String should have at most " ++ characterCount most
  | .textNotUnicode =>
    "Input should be a valid string, unable to parse raw data as a unicode string"
  | .notInteger => "Input should be a valid integer"
  | .integerUnreadable => "Input should be a valid integer, unable to parse string as an integer"
  | .integerTooLarge => "Unable to parse input string as an integer, exceeded maximum size"
  | .integerFraction => "Input should be a valid integer, got a number with a fractional part"
  | .notFinite => "Input should be a finite number"
  | .notNumber => "Input should be a valid number"
  | .numberUnreadable => "Input should be a valid number, unable to parse string as a number"
  | .notAbove bound => "Input should be greater than " ++ bound.text
  | .belowLeast least => "Input should be greater than or equal to " ++ least.text
  | .aboveGreatest most => "Input should be less than or equal to " ++ most.text
  | .notBoolean => "Input should be a valid boolean"
  | .booleanUnreadable => "Input should be a valid boolean, unable to interpret input"
  | .notChoice words => "Input should be " ++ choiceText words
  | .notIdentifier => "UUID input should be a string, bytes or UUID object"
  | .identifierUnreadable => "Input should be a valid UUID"
  | .notList => "Input should be a valid list"
  | .notObject => "Input should be a valid dictionary"
  | .notBodyObject => "Input should be a valid dictionary or object to extract fields from"
  | .notTimestamp => "Input should be a valid datetime"
  | .timestampUnreadable => "Input should be a valid datetime"
  | .dateUnreadable => "Input should be a valid datetime or date"
  | .malformed => "JSON decode error"
  | .forbidden reason => "Value error, " ++ reason

/-- What a kind of issue measures a value against, if its wording names
    it. -/
def IssueKind.measure? : IssueKind → Option (String × Json)
  | .textTooShort least => some ("min_length", .int least)
  | .textTooLong most => some ("max_length", .int most)
  | .notAbove bound => some ("gt", bound.toJson)
  | .belowLeast least => some ("ge", least.toJson)
  | .aboveGreatest most => some ("le", most.toJson)
  | .notChoice words => some ("expected", .string (choiceText words))
  | _ => none

/-- A step into an input: to a member or to an item. -/
inductive PathStep
  | member (name : String)
  | item (index : Nat)
  deriving DecidableEq, Inhabited

/-- A problem and its place, from the outside inwards. -/
structure Issue where
  kind : IssueKind
  path : List PathStep
  deriving DecidableEq, Inhabited

/-- An issue seen from further outside. -/
def Issue.under (step : PathStep) (i : Issue) : Issue :=
  { i with path := step :: i.path }

/-- A step as a value. -/
def PathStep.toJson : PathStep → Json
  | .member name => .string name
  | .item index => .int index

/-- An issue as an object: its kind, its place and its wording. -/
def Issue.toJson (i : Issue) : Json :=
  .record [("type", .string i.kind.text), ("loc", .list (i.path.map PathStep.toJson)),
    ("msg", .string i.kind.message)]

/-- Why an input is refused. -/
inductive Flaw
  | issues (is : List Issue)
  | fault (f : Fault)

/-- The flaw of an input whose first part has one flaw and whose second part
    has the other. -/
def Flaw.and : Flaw → Flaw → Flaw
  | .issues is, .issues js => .issues (is ++ js)
  | .issues _, .fault f => .fault f
  | .fault f, _ => .fault f

/-- A flaw seen from further outside. -/
def Flaw.under (step : PathStep) : Flaw → Flaw
  | .issues is => .issues (is.map (Issue.under step))
  | .fault f => .fault f

/-- What was read from an input. -/
inductive Checked (α : Type)
  | value (a : α)
  | flawed (flaw : Flaw)

namespace Checked

variable {α β : Type}

/-- A value that has one issue. -/
def issue (kind : IssueKind) : Checked α :=
  .flawed (.issues [⟨kind, []⟩])

/-- What was read, seen from further outside. -/
def under (step : PathStep) : Checked α → Checked α
  | .value a => .value a
  | .flawed flaw => .flawed (flaw.under step)

/-- What a reader with at most one issue has read. -/
def ofValue : Except IssueKind α → Checked α
  | .ok a => .value a
  | .error kind => issue kind

/-- A function of what was read. -/
def map (f : α → β) : Checked α → Checked β
  | .value a => .value (f a)
  | .flawed flaw => .flawed flaw

/-- Two parts of an input, one after the other. The flaws of both are
    reported. -/
def ap : Checked (α → β) → Checked α → Checked β
  | .value f, .value a => .value (f a)
  | .value _, .flawed flaw => .flawed flaw
  | .flawed flaw, .value _ => .flawed flaw
  | .flawed first, .flawed second => .flawed (first.and second)

/-- What was read, if a further condition holds of it. -/
def andThen (x : Checked α) (check : α → Checked β) : Checked β :=
  match x with
  | .value a => check a
  | .flawed flaw => .flawed flaw

/-- What was read, if it satisfies a condition. -/
def require (x : Checked α) (condition : α → Bool) (kind : IssueKind) : Checked α :=
  x.andThen fun a => if condition a then .value a else issue kind

/-- Items of a list, each with its place. -/
def items (read : Json → Checked α) (first : Nat) : List Json → Checked (List α)
  | [] => .value []
  | v :: rest => (((read v).under (.item first)).map List.cons).ap (items read (first + 1) rest)

end Checked

/-- The member of an object with a name, or a default. -/
def readMember {α : Type} (members : List (Text × Json)) (name : String)
    (read : Json → Checked α) (default : Checked α) : Checked α :=
  match Json.find? members (Text.ofString name) with
  | some v => (read v).under (.member name)
  | none => default

/-- A given value of a single form, or a default. -/
def given {α : Type} (members : List (Text × Json)) (name : String)
    (read : Json → Except IssueKind α) (default : Checked α) : Checked α :=
  readMember members name (fun v => Checked.ofValue (read v)) default

/-- What is missing. -/
def Checked.missing {α : Type} (name : String) : Checked α :=
  (Checked.issue .missing).under (.member name)

/-- The member of an object with the first of two names or else with the
    second, or a default. -/
def readAlias {α : Type} (members : List (Text × Json)) (name other : String)
    (read : Json → Checked α) (default : Checked α) : Checked α :=
  readMember members name read (readMember members other read default)

end Outreach
