import Outreach.Input.Issue
import Outreach.Number.Literal

/-!
# Lenient Readers

Readers of single values of an input that also take a value of another type
where its meaning is clear: numbers and truth values as texts, truth values as
numbers, and whole doubles as integers. Texts and lists are only taken as they
are; words and identifiers are texts.

The text of an integer may have white space around it, a sign, leading zeros,
single underscores between digits and a fraction of zeros. One that has none
of these and too many digits is reported as too large. The text of a double is
a decimal or one of the words for infinity and NaN; it may have white space
around it or single underscores inside, but not both.

## Main definitions

* `Lenient.text`, `Lenient.integer`, `Lenient.double`, `Lenient.boolean`,
  `Lenient.list`, `Lenient.choice`, `Lenient.identifier`: The readers.
-/

namespace Outreach

namespace Lenient

/-- A text. -/
def text : Json → Except IssueKind Text
  | .text t => .ok t
  | _ => .error .notText

/-- A text of characters. -/
def string (v : Json) : Except IssueKind String := do
  match (← text v).string? with
  | some s => return s
  | none => throw .textNotUnicode

/-- Whether a character is an ASCII digit. -/
def isDigit (c : Char) : Bool := decide (0x30 ≤ c.toNat) && decide (c.toNat ≤ 0x39)

/-- A text with single underscores between its other characters, without
    them. -/
def withoutUnderscores? (cs : List Char) : Option (List Char) :=
  -- Two underscores in a row spoil the numeral, as do those at its ends.
  let isLone (i : Nat) : Bool :=
    (cs.drop i).head? != some '_' || (cs.drop (i + 1)).head? != some '_'
  if cs.contains '_' && cs.head? != some '_' && cs.getLast? != some '_' &&
      (List.range cs.length).all isLone then
    some (cs.filter (· != '_'))
  else none

/-- An integer without leading zeros; zero keeps one. A minus sign may stand
    behind them. -/
def withoutLeadingZeros? (cs : List Char) : Option (List Char) :=
  match cs with
  | '0' :: _ =>
    match cs.dropWhile fun c => c == '0' || c == '_' with
    -- Of nothing but zeros the last character stays.
    | [] => some (cs.drop (cs.length - 1))
    | c :: rest =>
      if isDigit c || c == '-' then some (c :: rest)
      else if c == '.' then
        -- The character before the point stays as the whole part.
        some ((cs.drop (cs.length - rest.length - 2)).take 1 ++ c :: rest)
      else none
  | c :: _ => if isDigit c || c == '-' then some cs else none
  | [] => none

/-- An integer without a fraction of zeros. -/
def withoutZeroFraction (cs : List Char) : List Char :=
  let whole := cs.takeWhile (· != '.')
  let fraction := cs.drop (whole.length + 1)
  if !fraction.isEmpty && fraction.all (· == '0') then whole else cs

/-- The integer of a plain numeral: an optional minus sign and digits without
    a leading zero. Too long a run of digits is reported as such whatever
    follows it. -/
def plainInteger (cs : List Char) : Except IssueKind Int :=
  let (negative, body) :=
    match cs with
    | '-' :: body => (true, body)
    | body => (false, body)
  let ds := body.takeWhile isDigit
  -- The length is checked before what follows the digits, so a text that is too
  -- long and flawed counts as too long.
  if ds.isEmpty || (ds.head? == some '0' && ds.length != 1) then .error .integerUnreadable
  else if wholeDigitLimit < ds.length then .error .integerTooLarge
  else if ds.length != body.length then .error .integerUnreadable
  else .ok (Double.signed negative (ofDigits (ds.map fun c => c.toNat - 0x30)))

/-- A sign at the start of a list, and whether the minus sign. A minus sign
    may not follow a plus sign. -/
def takeSign? : List Char → Option (Bool × List Char)
  | '+' :: '-' :: _ => none
  | '+' :: rest => some (false, rest)
  | '-' :: rest => some (true, rest)
  | cs => some (false, cs)

/-- The plain numeral that a numeral stands for. -/
def plainNumeral? (cs : List Char) : Option (List Char) := do
  let (negative, body) ← takeSign? cs
  let body := withoutZeroFraction (← withoutLeadingZeros? body)
  let digits := (withoutUnderscores? body).getD body
  some (if negative then '-' :: digits else digits)

/-- The integer that a text denotes. -/
def integerOfText (t : Text) : Except IssueKind Int := do
  let some cs := t.chars? | throw .textNotUnicode
  -- Only a text that is no plain numeral is cleaned up and tried again; one that is
  -- too long is not.
  match plainInteger cs with
  | .error .integerUnreadable =>
    match (t.trim.chars?.bind plainNumeral?).map plainInteger with
    | some (.ok n) => return n
    | _ => throw .integerUnreadable
  | outcome => outcome

/-- The integer that a double stands for. -/
def integerOfDouble (x : Double) : Except IssueKind Int :=
  if !x.isFinite then .error .notFinite
  else if !x.isIntegral then .error .integerFraction
  else if -wordLimit < x.truncate ∧ x.truncate < wordLimit then .ok x.truncate
  else .error .integerTooLarge

/-- An integer. -/
def integer : Json → Except IssueKind Int
  | .int n => .ok n
  | .bool b => .ok (if b then 1 else 0)
  | .double x => integerOfDouble x
  | .text t => integerOfText t
  | _ => .error .notInteger

/-- The double that a text without underscores denotes. -/
def doubleOfPlain? (cs : List Char) : Option Double :=
  if cs.all (fun c => decide (c.toNat < 0x80) && c != '_') then
    (readDecimal? cs).map Numeral.toDouble
  else none

/-- The double that a text denotes. -/
def doubleOfText (t : Text) : Except IssueKind Double := do
  let some cs := t.chars? | throw .textNotUnicode
  -- White space is trimmed only here, so it cannot go with underscores.
  match t.trim.chars?.bind doubleOfPlain? with
  | some x => return x
  | none =>
    match (withoutUnderscores? cs).bind doubleOfPlain? with
    | some x => return x
    | none => throw .numberUnreadable

/-- A double. -/
def double : Json → Except IssueKind Double
  | .double x => .ok x
  | .int n =>
    let x := Double.ofInt n
    if x.isInfinite then .error .notNumber else .ok x
  | .bool b => .ok (Double.ofInt (if b then 1 else 0))
  | .text t => doubleOfText t
  | _ => .error .notNumber

/-- The words for false and true. -/
def falseWords : List String := ["0", "off", "f", "false", "n", "no"]

/-- The words for true. -/
def trueWords : List String := ["1", "on", "t", "true", "y", "yes"]

/-- Whether an integer fits into a machine word. -/
def isWord (n : Int) : Bool :=
  decide (-wordLimit ≤ n) && decide (n < wordLimit)

/-- The truth value of an integer. -/
def booleanOfInteger (n : Int) : Except IssueKind Bool :=
  if n = 0 then .ok false else if n = 1 then .ok true else .error .booleanUnreadable

/-- A truth value. -/
def boolean : Json → Except IssueKind Bool
  | .bool b => .ok b
  | .text t =>
    match t.string? with
    | some s =>
      -- Case is folded in ASCII only.
      let word := String.ofList (s.toList.map fun c => if c.toNat < 0x80 then c.toLower else c)
      if falseWords.contains word then .ok false
      else if trueWords.contains word then .ok true
      else .error .booleanUnreadable
    | none => .error .textNotUnicode
  | .int n => if isWord n then booleanOfInteger n else .error .notBoolean
  | .double x =>
    match integerOfDouble x with
    | .ok n => booleanOfInteger n
    | .error _ => .error .notBoolean
  | _ => .error .notBoolean

/-- The items of a list. -/
def list : Json → Except IssueKind (List Json)
  | .list items => .ok items
  | _ => .error .notList

/-- A word that stands for something. -/
def choice {α : Type} (words : List String) (find : String → Option α) :
    Json → Except IssueKind α
  | .text t =>
    match t.string? with
    | some s =>
      match find s with
      | some a => .ok a
      | none => .error (.notChoice words)
    | none => .error .textNotUnicode
  | _ => .error (.notChoice words)

/-- An identifier. -/
def identifier : Json → Except IssueKind Uuid
  | .text t =>
    match t.string? with
    | some s =>
      match Uuid.readStrict? s with
      | some u => .ok u
      | none => .error .identifierUnreadable
    | none => .error .textNotUnicode
  | _ => .error .notIdentifier

end Lenient

end Outreach
