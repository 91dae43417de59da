import Outreach.Json.Reader
import Outreach.Text.Utf8

/-!
# Encodings of Documents

A document may travel in units of one, two or four bytes. As it starts with
ASCII characters, the zeros among its first bytes tell the size of the units
and which byte of a unit comes first. Units of one byte are UTF-8, with a mark
that may stand at the start.

## Main definitions

* `Json.Width`: The sizes of units.
* `Json.widthOf`: The size of the units of a document and their order.
* `Json.charsOf?`: The characters of some bytes.
* `Json.readBytes?`: The value of a document that is not trusted.
-/

namespace Outreach

namespace Json

/-- The size of the units of a document, and whether their first byte is the
    highest. -/
inductive Width
  | bytes
  | pairs (highFirst : Bool)
  | quads (highFirst : Bool)
  deriving DecidableEq, Inhabited

/-- The units of a document. -/
def widthOf (bs : List Nat) : Width :=
  match bs with
  | [a, b] =>
    if a = 0 then .pairs true else if b = 0 then .pairs false else .bytes
  | a :: b :: c :: d :: _ =>
    if a = 0 then if b = 0 then .quads true else .pairs true
    else if b = 0 then if c = 0 ∧ d = 0 then .quads false else .pairs false
    else .bytes
  | _ => .bytes

/-- The number that some bytes denote. -/
def unitOf (highFirst : Bool) (bs : List Nat) : Nat :=
  (if highFirst then bs else bs.reverse).foldl (fun n b => 256 * n + b) 0

/-- The units of two bytes each. -/
def pairUnits? (highFirst : Bool) : List Nat → Option (List Nat)
  | [] => some []
  | a :: b :: rest => (pairUnits? highFirst rest).map (unitOf highFirst [a, b] :: ·)
  | [_] => none

/-- The units of four bytes each. -/
def quadUnits? (highFirst : Bool) : List Nat → Option (List Nat)
  | [] => some []
  | a :: b :: c :: d :: rest =>
    (quadUnits? highFirst rest).map (unitOf highFirst [a, b, c, d] :: ·)
  | _ => none

/-- The character with a code, if it is one. -/
def charOf? (n : Nat) : Option Char :=
  if h : n.isValidChar then some (Char.ofNatAux n h) else none

/-- The characters of units of two bytes, two halves of a pair being joined. -/
def joinPairs? : List Nat → Option (List Char)
  | [] => some []
  | high :: low :: rest =>
    if isHighHalf high && isLowHalf low then do
      let c ← charOf? (0x10000 + (high - 0xD800) * 0x400 + (low - 0xDC00))
      return c :: (← joinPairs? rest)
    else do
      let c ← charOf? high
      return c :: (← joinPairs? (low :: rest))
  | [n] => return [← charOf? n]

/-- A text without the mark that may stand at the start of a document. -/
def withoutMark (cs : List Char) : List Char :=
  match cs with
  | '\uFEFF' :: rest => rest
  | _ => cs

/-- The characters of some bytes. -/
def charsOf? (bs : List Nat) : Option (List Char) :=
  match widthOf bs with
  | .bytes => some (withoutMark (Text.decodeChars bs))
  | .pairs highFirst => (pairUnits? highFirst bs).bind joinPairs?
  | .quads highFirst => (quadUnits? highFirst bs).bind fun units => units.mapM charOf?

/-- The value of a document that is not trusted, if its bytes denote a text. -/
def readBytes? (bs : List Nat) : Option (Except Refusal Json) :=
  (charsOf? bs).map readChars

end Json

end Outreach
