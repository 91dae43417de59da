import Outreach.Audience.Match
import Outreach.Number.Fixed
import Outreach.Time.Iso

/-!
# SQL Expressions

The part of SQL that the store's statements are made of: columns, named
parameters, sums, one form of `CASE` and comparisons. An expression has a text
and a value on a row. A comparison with an unknown side is unknown and selects
nothing.

Timestamps are stored by what their clock shows.

## Main definitions

* `SqlValue`: What a column holds and a parameter stands for.
* `SqlExpr`, `SqlCondition`: Expressions and conditions.
* `SqlExpr.text`, `SqlCondition.text`: Their texts.
* `SqlExpr.value`, `SqlCondition.holds`: Their meaning on a row.
* `SqlExpr.parameters`: The parameters of an expression.
-/

namespace Outreach

/-- What a column holds and a parameter stands for. -/
inductive SqlValue
  | null
  | int (n : Int)
  | double (x : Double)
  | text (t : Text)
  | time (t : Timestamp)
  | id (u : Uuid)
  deriving DecidableEq, Inhabited

namespace SqlValue

/-- A value as it is shown. -/
def toJson : SqlValue → Json
  | .null => .null
  | .int n => .int n
  | .double x => .double x
  | .text t => .text t
  | .time t => .string t.iso
  | .id u => .string u.text

/-- A double as a column holds it: NaN is no value. -/
def ofDouble (x : Double) : SqlValue :=
  if x.isNaN then .null else .double x

/-- The type that a parameter is cast to. -/
def cast : SqlValue → String
  | .null => ""
  | .int _ => "::INTEGER"
  | .double _ => ""
  | .text _ => "::VARCHAR"
  | .time _ => "::TIMESTAMP WITH TIME ZONE"
  | .id _ => "::UUID"

/-- The text that a value other than a number is stored as. -/
def storedText : SqlValue → Text
  | .text t => t
  | .time t => t.naive.iso
  | .id u => u.text
  | _ => ""

/-- Digits with a point after the whole part, where they have none. -/
def withPoint (ds : List Char) : List Char :=
  if ds.contains '.' then ds
  else
    -- An exponent stays behind the point.
    let whole := ds.takeWhile Char.isDigit
    whole ++ ['.', '0'] ++ ds.drop whole.length

/-- The most significant digits of a number beside a text. -/
def significantDigits : Nat := 15

/-- The text that a double counts as beside a text: the significant digits,
    always with a point. Zero has no sign. -/
def doubleText : Double → String
  | .nan => ""
  | .number negative rank _ =>
    let digits :=
      if rank = infinityRank then "Inf".toList
      else withPoint (generalText 'e' significantDigits false rank)
    String.ofList (if negative && rank != 0 then '-' :: digits else digits)

/-- How one value stands to another, if both are known. Numbers come before
    everything else; beside a text they count as texts. -/
def order? : SqlValue → SqlValue → Option Ordering
  | .null, _ => none
  | _, .null => none
  | .int n, .int m => some (compare n m)
  | .int n, .double y => Double.compareInt? n y
  | .double x, .int m => (Double.compareInt? m x).map Ordering.swap
  | .double x, .double y => x.compare? y
  | .time s, .time t => some (compare s.wall t.wall)
  | .id u, .id v => some (compare u.toNat v.toNat)
  | .text s, .int n => some (s.order (toString n))
  | .text s, .double x => some (s.order (doubleText x))
  | .int n, .text s => some (Text.order (toString n) s)
  | .double x, .text s => some (Text.order (doubleText x) s)
  -- Beside a time or an identifier a number stays a number and comes first.
  | .int _, _ => some .lt
  | .double _, _ => some .lt
  | _, .int _ => some .gt
  | _, .double _ => some .gt
  | a, b => some (a.storedText.order b.storedText)

/-- The sum of two values; unknown unless both are numbers. Whole numbers have no bound
    here: counts are taken to stay within those that a column can hold. -/
def add : SqlValue → SqlValue → SqlValue
  | .int n, .int m => .int (n + m)
  | .int n, .double y => ofDouble ((Double.ofInt n).add y)
  | .double x, .int m => ofDouble (x.add (Double.ofInt m))
  | .double x, .double y => ofDouble (x.add y)
  | _, _ => .null

/-- Whether a comparison of two values holds for sure. -/
def satisfies (c : Comparator) (a b : SqlValue) : Bool :=
  (order? a b).any c.accepts

end SqlValue

/-- The text of a comparison. -/
def Comparator.sql : Comparator → String
  | .gt => ">"
  | .lt => "<"
  | .ge => ">="
  | .le => "<="
  | .eq => "="

/-- A SQL expression. -/
inductive SqlExpr
  | column (table name : String)
  | parameter (name : String) (value : SqlValue)
  | sum (a b : SqlExpr)
  /-- One of two expressions, by a comparison. -/
  | choose (left : SqlExpr) (comparator : Comparator) (right yes no : SqlExpr)
  /-- The time on the clock. -/
  | clock
  deriving Inhabited

namespace SqlExpr

/-- The text of an expression. -/
def text : SqlExpr → String
  | column table name => table ++ "." ++ name
  | parameter name value => "%(" ++ name ++ ")s" ++ value.cast
  | sum a b => a.text ++ " + " ++ b.text
  | choose left c right yes no =>
    "CASE WHEN (" ++ left.text ++ " " ++ c.sql ++ " " ++ right.text ++ ") THEN " ++ yes.text ++
      " ELSE " ++ no.text ++ " END"
  | clock => "now()"

/-- The value of an expression on a row, given by its columns. -/
def value (row : String → SqlValue) (now : Timestamp) : SqlExpr → SqlValue
  | column _ name => row name
  | parameter _ v => v
  | sum a b => (a.value row now).add (b.value row now)
  | choose left c right yes no =>
    if SqlValue.satisfies c (left.value row now) (right.value row now) then yes.value row now
    else no.value row now
  | clock => .time now

/-- The parameters of an expression, in the order of its text. -/
def parameters : SqlExpr → List (String × SqlValue)
  | column .. => []
  | parameter name value => [(name, value)]
  | sum a b => a.parameters ++ b.parameters
  | choose left _ right yes no =>
    left.parameters ++ right.parameters ++ yes.parameters ++ no.parameters
  | clock => []

end SqlExpr

/-- A condition on rows. -/
inductive SqlCondition
  | always
  | never
  | compare (left : SqlExpr) (comparator : Comparator) (right : SqlExpr)
  deriving Inhabited

namespace SqlCondition

/-- The text of a condition. -/
def text : SqlCondition → String
  | always => "true"
  | never => "false"
  | compare left c right => left.text ++ " " ++ c.sql ++ " " ++ right.text

/-- Whether a condition holds of a row for sure. -/
def holds (row : String → SqlValue) (now : Timestamp) : SqlCondition → Bool
  | always => true
  | never => false
  | compare left c right => SqlValue.satisfies c (left.value row now) (right.value row now)

/-- The parameters of a condition. -/
def parameters : SqlCondition → List (String × SqlValue)
  | always | never => []
  | compare left _ right => left.parameters ++ right.parameters

end SqlCondition

/-- Conditions that must all hold, as a text. -/
def conditionsText (cs : List SqlCondition) : String :=
  " AND ".intercalate (cs.map SqlCondition.text)

end Outreach
