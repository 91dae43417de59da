import Outreach.Text.Quoted

/-!
# Texts as Bytes

Texts in UTF-8. A lone half of a surrogate pair has no bytes. Where bytes that
belong to no character may occur, the upper 128 halves from `0xDC80` on can
stand for the bytes from `0x80` on instead.

Bytes are read in pieces: the bytes of a character, or as many bytes as could
begin a character and do not.

## Main definitions

* `Unencodable`: The place of halves that have no bytes.
* `encode`: The bytes of a text.
* `Piece`, `pieces`: Bytes cut into characters and remains.
* `decode`: The text of bytes, remains being replaced.
* `roundTrip`: A text that passed through bytes.
-/

namespace Outreach

namespace Text

/-- A run of halves that have no bytes. -/
structure Unencodable where
  /-- The first of them. -/
  first : Point
  /-- Its position. -/
  start : Nat
  /-- The position behind the last one. -/
  stop : Nat
  deriving DecidableEq, Inhabited

/-- The wording of a run. -/
def Unencodable.message (u : Unencodable) : String :=
  if u.stop = u.start + 1 then
    "'utf-8' codec can't encode character '" ++ String.ofList (showCode u.first.code) ++
      "' in position " ++ toString u.start ++ ": surrogates not allowed"
  else
    "'utf-8' codec can't encode characters in position " ++ toString u.start ++ "-" ++
      toString (u.stop - 1) ++ ": surrogates not allowed"

/-- The bytes of a character. -/
def bytesOf (c : Char) : List Nat :=
  (String.utf8EncodeChar c).map UInt8.toNat

/-- Whether a point is a lone half. -/
def isHalf : Point → Bool
  | .half _ => true
  | .char _ => false

/-- The byte that a half stands for where halves can stand for bytes. -/
def escapedByte? (p : Point) : Option Nat :=
  match p with
  | .half k => if 0x480 ≤ k.val ∧ k.val ≤ 0x4FF then some (k.val - 0x400) else none
  | .char _ => none

/-- The bytes of the points from a position on; `escape` says whether halves
    can stand for bytes. -/
def encodeFrom (escape : Bool) (position : Nat) : List Point → Except Unencodable (List Nat)
  | [] => .ok []
  | .char c :: rest => return bytesOf c ++ (← encodeFrom escape (position + 1) rest)
  | p :: rest =>
    match if escape then escapedByte? p else none with
    | some b => return b :: (← encodeFrom escape (position + 1) rest)
    | none => .error ⟨p, position, position + 1 + (rest.takeWhile isHalf).length⟩

/-- The bytes of a text. -/
def encode (t : Text) : Except Unencodable (List Nat) :=
  encodeFrom false 0 t.points

/-- The bytes of a text in which halves can stand for bytes. -/
def encodeEscaped (t : Text) : Except Unencodable (List Nat) :=
  encodeFrom true 0 t.points

/-- How many bytes follow the first byte of a character, and between which
    bounds the next one lies. -/
def lead? (b : Nat) : Option (Nat × Nat × Nat) :=
  if b < 0xC2 then none
  else if b < 0xE0 then some (1, 0x80, 0xBF)
  else if b < 0xF0 then
    -- The narrower bounds keep out longer forms than needed and halves of pairs.
    some (2, if b = 0xE0 then 0xA0 else 0x80, if b = 0xED then 0x9F else 0xBF)
  else if b < 0xF5 then
    some (3, if b = 0xF0 then 0x90 else 0x80, if b = 0xF4 then 0x8F else 0xBF)
  else none

/-- The bytes at the start of a list that continue a character, at most
    `more` of them, the first of which lies between `low` and `high`. -/
def followers : Nat → Nat → Nat → List Nat → List Nat
  | more + 1, low, high, b :: rest =>
    if low ≤ b ∧ b ≤ high then b :: followers more 0x80 0xBF rest else []
  | _, _, _, _ => []

/-- Bytes that belong together. -/
structure Piece where
  bytes : List Nat
  /-- The character that they denote, if they do. -/
  char? : Option Char
  deriving DecidableEq, Inhabited

/-- The character of a first byte, of which `more` follow, and the others. -/
def charOf (b more : Nat) (others : List Nat) : Char :=
  -- The marks in front of the payload are taken off; every other byte gives six bits.
  let first := b - (if more = 1 then 0xC0 else if more = 2 then 0xE0 else 0xF0)
  Char.ofNat (others.foldl (fun n o => 64 * n + (o - 0x80)) first)

/-- The piece at the start of some bytes. -/
def firstPiece (b : Nat) (rest : List Nat) : Piece :=
  if b < 0x80 then ⟨[b], some (Char.ofNat b)⟩
  else
    match lead? b with
    | none => ⟨[b], none⟩
    | some (more, low, high) =>
      let others := followers more low high rest
      ⟨b :: others, if others.length = more then some (charOf b more others) else none⟩

/-- Bytes in pieces. -/
def pieces : List Nat → List Piece
  | [] => []
  | b :: rest =>
    let piece := firstPiece b rest
    piece :: pieces (rest.drop (piece.bytes.length - 1))
termination_by bs => bs.length
decreasing_by
  simp only [List.length_drop, List.length_cons]
  omega

/-- The characters of bytes, with a replacement for every piece that denotes
    none. -/
def decodeChars (bs : List Nat) : List Char :=
  (pieces bs).map fun piece => piece.char?.getD '\uFFFD'

/-- The text of bytes. -/
def decode (bs : List Nat) : String :=
  String.ofList (decodeChars bs)

/-- The half that stands for a byte. -/
def halfOf (b : Nat) : Point :=
  .half ⟨(b + 0x400) % 2048, Nat.mod_lt _ (by decide)⟩

/-- The text of bytes in which halves can stand for bytes. -/
def decodeEscaped (bs : List Nat) : Text :=
  ⟨(pieces bs).flatMap fun piece =>
    match piece.char? with
    | some c => [.char c]
    | none => piece.bytes.map halfOf⟩

/-- A text that passed through bytes: halves that stand for bytes can join to
    characters. -/
def roundTrip (t : Text) : Except Unencodable Text :=
  return decodeEscaped (← t.encodeEscaped)

end Text

end Outreach
