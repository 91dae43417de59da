import Outreach.Json.Basic
import Outreach.Number.Shortest
import Outreach.Text.Quoted

/-!
# Writing JSON

Documents are written on one line in ASCII: whatever is no printable ASCII
character is escaped, characters beyond the first plane as a surrogate pair.

## Main definitions

* `Json.Spacing`: What stands between items and behind names.
* `Json.escapedPoint`: A point of a text as it is written.
* `Json.write`: The document of a value.
-/

namespace Outreach

namespace Json

/-- What is written between items and between a name and its value. -/
structure Spacing where
  betweenItems : List Char
  behindName : List Char

/-- A blank behind every comma and colon. -/
def airy : Spacing := ⟨", ".toList, ": ".toList⟩

/-- No blanks. -/
def tight : Spacing := ⟨[','], [':']⟩

/-- An escape by code. -/
def unicodeEscape (n : Nat) : List Char :=
  '\\' :: 'u' :: Text.hexDigits 4 n

/-- A point of a text as it is written. -/
def escapedPoint : Point → List Char
  | .half k => unicodeEscape (Point.half k).code
  | .char c =>
    let n := c.toNat
    if c == '"' then ['\\', '"']
    else if c == '\\' then ['\\', '\\']
    else if c == '\n' then ['\\', 'n']
    else if c == '\r' then ['\\', 'r']
    else if c == '\t' then ['\\', 't']
    else if n == 0x08 then ['\\', 'b']
    else if n == 0x0C then ['\\', 'f']
    else if 0x20 ≤ n ∧ n ≤ 0x7E then [c]
    else if n < 0x10000 then unicodeEscape n
    else
      unicodeEscape (0xD800 + (n - 0x10000) / 0x400) ++
        unicodeEscape (0xDC00 + (n - 0x10000) % 0x400)

/-- A text as it is written. -/
def writtenText (t : Text) : List Char :=
  '"' :: (t.points.flatMap escapedPoint ++ ['"'])

/-- A double as it is written. -/
def writtenDouble (x : Double) : List Char :=
  if x.isNaN then "NaN".toList
  else if x.isInfinite then
    if x.lt Double.zero then "-Infinity".toList else "Infinity".toList
  else x.text.toList

/-- Parts joined by a separator. -/
def joined (gap : List Char) : List (List Char) → List Char
  | [] => []
  | [part] => part
  | part :: rest => part ++ gap ++ joined gap rest

/-- The characters of a document. -/
def writeChars (sp : Spacing) : Json → List Char
  | .null => "null".toList
  | .bool true => "true".toList
  | .bool false => "false".toList
  | .int n => (toString n).toList
  | .double x => writtenDouble x
  | .text t => writtenText t
  | .list items => '[' :: (joined sp.betweenItems (writeItems items) ++ [']'])
  | .object members => '\x7b' :: (joined sp.betweenItems (writeMembers members) ++ ['\x7d'])
where
  /-- The items of a list. -/
  writeItems : List Json → List (List Char)
    | [] => []
    | item :: rest => writeChars sp item :: writeItems rest
  /-- The members of an object. -/
  writeMembers : List (Text × Json) → List (List Char)
    | [] => []
    | (name, value) :: rest =>
      (writtenText name ++ sp.behindName ++ writeChars sp value) :: writeMembers rest

/-- The document of a value. -/
def write (sp : Spacing) (value : Json) : String :=
  String.ofList (writeChars sp value)

end Json

end Outreach
