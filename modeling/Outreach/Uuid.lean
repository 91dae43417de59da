import Outreach.Number.Literal
import Outreach.Text.Quoted
import Outreach.Text.Substitute

/-!
# Identifiers

Universally unique identifiers: 128 bits, ordered as numbers, written as five
groups of lower case hexadecimal digits.

There are two readers. The strict one takes 32 digits, or the five groups,
alone, in braces or behind `urn:uuid:`. The loose one first removes the words
`urn:` and `uuid:`, braces at the ends and all dashes, and then reads 32
characters as a hexadecimal number, which may have a plus sign, a leading
`0x`, white space around it and single underscores between digits.

## Main definitions

* `Uuid`: An identifier.
* `Uuid.text`: Its canonical text.
* `Uuid.readStrict?`: The strict reader.
* `Uuid.readLoose`: The loose reader, with the reason for a refusal.
-/

namespace Outreach

open Text

/-- An identifier. -/
structure Uuid where
  bits : BitVec 128
  deriving DecidableEq, Inhabited

namespace Uuid

/-- The identifier with a number. -/
def ofNat (n : Nat) : Uuid := ⟨BitVec.ofNat 128 n⟩

/-- The number of an identifier. -/
def toNat (u : Uuid) : Nat := u.bits.toNat

instance : Ord Uuid := ⟨fun a b => compare a.toNat b.toNat⟩

/-- The identifier all of whose bits are zero. -/
def nil : Uuid := ofNat 0

/-- The groups of digits of an identifier, as written. -/
def grouped (ds : List Char) : List Char :=
  ds.take 8 ++ '-' :: (ds.drop 8).take 4 ++ '-' :: (ds.drop 12).take 4 ++
    '-' :: (ds.drop 16).take 4 ++ '-' :: ds.drop 20

/-- The characters of the canonical text. -/
def chars (u : Uuid) : List Char :=
  grouped (hexDigits 32 u.toNat)

/-- The canonical text of an identifier. -/
def text (u : Uuid) : String :=
  String.ofList u.chars

instance : ToString Uuid := ⟨text⟩

/-- The value of a hexadecimal digit of either case. -/
def hexValue? (c : Char) : Option Nat :=
  let n := c.toNat
  if 0x30 ≤ n ∧ n ≤ 0x39 then some (n - 0x30)
  else if 0x61 ≤ n ∧ n ≤ 0x66 then some (n - 0x57)
  else if 0x41 ≤ n ∧ n ≤ 0x46 then some (n - 0x37)
  else none

/-- The number that hexadecimal digits denote, if all are digits. -/
def ofHex? (cs : List Char) : Option Nat :=
  cs.foldlM (fun n c => (hexValue? c).map fun d => 16 * n + d) 0

/-- The digits of five groups, if the dashes stand where they belong. -/
def ungrouped? (cs : List Char) : Option (List Char) :=
  let ds := cs.filter (· != '-')
  -- Grouping the digits again says where the dashes have to be.
  if cs.length = 36 ∧ ds.length = 32 ∧ grouped ds = cs then some ds else none

/-- The strict reader. -/
def readStrict? (s : String) : Option Uuid := do
  let cs := s.toList
  let ds ←
    if cs.length = 32 then some cs
    else if cs.length = 36 then ungrouped? cs
    else if cs.length = 38 ∧ cs.head? = some '\x7b' ∧ cs.getLast? = some '\x7d' then
      ungrouped? ((cs.drop 1).take 36)
    else if cs.length = 45 ∧ cs.take 9 = "urn:uuid:".toList then ungrouped? (cs.drop 9)
    else none
  (ofHex? ds).map ofNat

/-- Why the loose reader refuses a text. -/
inductive Refusal
  /-- There are not 32 characters left. -/
  | malformed
  /-- The characters are no hexadecimal number. -/
  | notHexadecimal (literal : Text)
  deriving DecidableEq

/-- The wording of a refusal. -/
def Refusal.message : Refusal → String
  | .malformed => "badly formed hexadecimal UUID string"
  | .notHexadecimal literal =>
    "invalid literal for int() with base 16: " ++ literal.quotedWithin literalLimit

/-- The value of a hexadecimal digit, decimal digits of any script included. -/
def wideHexValue? (c : Char) : Option Nat :=
  (hexValue? c).orElse fun _ => digitValue? c

/-- The number that digits denote with single underscores between them; there
    must be a digit at both ends. -/
def readHexRun? (n : Nat) (afterDigit : Bool) : List Char → Option Nat
  | [] => if afterDigit then some n else none
  | c :: rest =>
    if c == '_' then
      if afterDigit then readHexRun? n false rest else none
    else
      match wideHexValue? c with
      | some d => readHexRun? (16 * n + d) true rest
      | none => none

/-- The digits behind a leading `0x`, which an underscore may follow. -/
def dropHexMark : List Char → List Char
  | z :: x :: rest =>
    if digitValue? z = some 0 ∧ (x = 'x' ∨ x = 'X') then
      match rest with
      | '_' :: more => more
      | _ => rest
    else z :: x :: rest
  | cs => cs

/-- The number that a hexadecimal literal denotes. -/
def readHexLiteral? (cs : List Char) : Option Nat :=
  match cs with
  | '+' :: rest => readHexRun? 0 false (dropHexMark rest)
  | body => readHexRun? 0 false (dropHexMark body)

/-- A brace. -/
def isBrace (c : Char) : Bool :=
  c == '\x7b' || c == '\x7d'

/-- What is left of a text without its ornaments. -/
def bare (t : Text) : Text :=
  -- Both are left out wherever they stand, and so is every dash.
  let t := (t.substitute "urn:" .empty).substitute "uuid:" .empty
  ⟨(t.stripBy isBrace).points.filter (· != .char '-')⟩

/-- The loose reader. -/
def readLoose (t : Text) : Except Refusal Uuid :=
  let body := bare t
  if body.length ≠ 32 then .error .malformed
  else
    match readHexLiteral? body.literal with
    | none => .error (.notHexadecimal body)
    | some n => .ok (ofNat n)

end Uuid

end Outreach
