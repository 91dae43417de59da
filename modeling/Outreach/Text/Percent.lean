import Outreach.Text.Utf8

/-!
# Percent-Encoded Texts

Texts inside an address. A byte may be written as a percent sign and two
hexadecimal digits; a percent sign that no such digits follow stands for
itself. Bytes are only written inside ASCII characters: the bytes of each run
of ASCII characters are read as UTF-8 on their own, and other points stand
for themselves.

## Main definitions

* `hexByte?`: The value of a hexadecimal digit.
* `percentBytes`: Bytes with their percent signs resolved.
* `percentDecode`: The text that a percent-encoded text stands for.
* `percentEncode`: A text with all but some characters written as bytes.
-/

namespace Outreach

namespace Text

/-- The value of the byte of a hexadecimal digit. -/
def hexByte? (b : Nat) : Option Nat :=
  if 0x30 ≤ b ∧ b ≤ 0x39 then some (b - 0x30)
  else if 0x61 ≤ b ∧ b ≤ 0x66 then some (b - 0x57)
  else if 0x41 ≤ b ∧ b ≤ 0x46 then some (b - 0x37)
  else none

/-- Bytes with their percent signs resolved. -/
def percentBytes : List Nat → List Nat
  | [] => []
  | [a] => [a]
  | [a, b] => [a, b]
  | a :: b :: c :: rest =>
    match hexByte? b, hexByte? c with
    | some high, some low =>
      if a = 0x25 then (16 * high + low) :: percentBytes rest
      else a :: percentBytes (b :: c :: rest)
    | _, _ => a :: percentBytes (b :: c :: rest)

/-- The code point of an ASCII character. -/
def asciiByte? (p : Point) : Option Nat :=
  match p with
  | .char c => if c.toNat < 0x80 then some c.toNat else none
  | .half _ => none

/-- The points that a run of bytes stands for. -/
def decodedRun (run : List Nat) : List Point :=
  (decodeChars (percentBytes run)).map .char

/-- The points that some points stand for behind a run of bytes, which is given
    in reverse. -/
def decodeRuns (run : List Nat) : List Point → List Point
  | [] => decodedRun run.reverse
  | p :: rest =>
    match asciiByte? p with
    | some b => decodeRuns (b :: run) rest
    | none => decodedRun run.reverse ++ p :: decodeRuns [] rest

/-- The text that a percent-encoded text stands for. -/
def percentDecode (t : Text) : Text :=
  ⟨decodeRuns [] t.points⟩

/-- A byte as a percent sign and two digits. -/
def percentByte (b : Nat) : List Char :=
  '%' :: (hexDigits 2 b).map Char.toUpper

/-- Characters with all but those of a class written as bytes. -/
def percentEncodeChars (keep : Char → Bool) (cs : List Char) : List Char :=
  cs.flatMap fun c => if keep c then [c] else (bytesOf c).flatMap percentByte

/-- A text with all but the characters of a class written as bytes. -/
def percentEncode (keep : Char → Bool) (s : String) : String :=
  String.ofList (percentEncodeChars keep s.toList)

end Text

end Outreach
