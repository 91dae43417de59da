import Outreach.Text.Printable
import Outreach.Text.Basic

/-!
# Quoted Texts

How a text is shown inside a message. It stands between single quotes, or
between double quotes when it holds a single quote and no double quote.
Backslash and the quote in use are preceded by a backslash; tab, line feed
and carriage return have escapes of one letter; every other unprintable
character is shown by its code point in hexadecimal digits, in the shortest
of the three forms that holds it.

## Main definitions

* `hexDigits`: A number in a fixed count of hexadecimal digits.
* `quoteMark`: The quote a text is shown between.
* `showPoint`: A point of a text between quotes.
* `quoted`: A text as it is shown.
* `quotedWithin`: The same, cut off at a length.
-/

namespace Outreach

namespace Text

/-- The lower case hexadecimal digit of a number below sixteen. -/
def hexDigit (n : Nat) : Char :=
  if n < 10 then Char.ofNat (0x30 + n) else Char.ofNat (0x57 + n)

/-- The lowest `width` hexadecimal digits of a number, highest first. -/
def hexDigits : Nat → Nat → List Char
  | 0, _ => []
  | width + 1, n => hexDigits width (n / 16) ++ [hexDigit (n % 16)]

/-- The quote that a text is shown between. -/
def quoteMark (points : List Point) : Char :=
  if points.contains (.char '\'') && !points.contains (.char '"') then '"' else '\''

/-- An escape by code point. -/
def showCode (n : Nat) : List Char :=
  if n ≤ 0xFF then '\\' :: 'x' :: hexDigits 2 n
  else if n ≤ 0xFFFF then '\\' :: 'u' :: hexDigits 4 n
  else '\\' :: 'U' :: hexDigits 8 n

/-- A point of a text as it is shown between the given quotes. -/
def showPoint (mark : Char) : Point → List Char
  | .half k => showCode (Point.half k).code
  | .char c =>
    if c == mark || c == '\\' then ['\\', c]
    else if c == '\t' then ['\\', 't']
    else if c == '\n' then ['\\', 'n']
    else if c == '\r' then ['\\', 'r']
    else if isPrintable c then [c]
    else showCode c.toNat

/-- A text as it is shown inside a message. -/
def quoted (t : Text) : String :=
  let mark := quoteMark t.points
  String.ofList (mark :: (t.points.flatMap (showPoint mark) ++ [mark]))

/-- The most characters of a number's text that a message shows. -/
def literalLimit : Nat := 200

/-- The first characters of a text as it is shown, at most `limit` of them. -/
def quotedWithin (limit : Nat) (t : Text) : String :=
  String.ofList (t.quoted.toList.take limit)

end Text

end Outreach
