/-!
# Punycode

Texts of any characters as ASCII letters, digits and hyphens. The ASCII
characters come first, as they are. The others follow in increasing order of
their codes, each as the distance from its predecessor, counted over all
places at which it could stand. A distance is written in digits of base 36
whose weights adapt to the distances seen so far.

## Main definitions

* `Punycode.threshold`, `Punycode.adapt`: The weights of digits.
* `Punycode.digits`: A distance in digits.
* `Punycode.encode`: The form of a text.
-/

namespace Outreach

namespace Punycode

/-- A digit of base 36: the letters and then the decimal digits. -/
def digit (d : Nat) : Char :=
  if d < 26 then Char.ofNat (0x61 + d) else Char.ofNat (0x30 + d - 26)

/-- The least value at a position that is not the last digit of a distance. -/
def threshold (bias position : Nat) : Nat :=
  if position ≤ bias then 1 else if bias + 26 ≤ position then 26 else position - bias

theorem threshold_pos (bias position : Nat) : 0 < threshold bias position := by
  unfold threshold
  split <;> try split
  all_goals omega

/-- A distance in digits, given the bias and the position of the first. -/
def digits (bias position q : Nat) : List Char :=
  let t := threshold bias position
  if q < t then [digit q]
  else digit (t + (q - t) % (36 - t)) :: digits bias (position + 36) ((q - t) / (36 - t))
termination_by q
decreasing_by
  have := threshold_pos bias position
  have := Nat.div_le_self (q - threshold bias position) (36 - threshold bias position)
  omega

/-- How often a distance is reduced until it is small, 36 for each time, and
    what it is then. -/
def reduce (count distance : Nat) : Nat × Nat :=
  if 455 < distance then reduce (count + 36) (distance / 35) else (count, distance)
termination_by distance
decreasing_by exact Nat.div_lt_self (by omega) (by omega)

/-- The bias behind a distance, given how many characters have been written and
    whether the distance is the first. -/
def adapt (distance written : Nat) (isFirst : Bool) : Nat :=
  -- The first distance is large by nature and says least about those to come.
  let halved := if isFirst then distance / 700 else distance / 2
  let (count, rest) := reduce 0 (halved + halved / written)
  count + 36 * rest / (rest + 38)

/-- What has been written of the characters beyond ASCII. -/
structure Progress where
  output : List Char
  distance : Nat
  bias : Nat
  /-- How many characters have been written, those in ASCII included. -/
  written : Nat

/-- A place of the text is passed while the characters with a code are
    written. -/
def pass (ascii code : Nat) (p : Progress) (c : Char) : Progress :=
  if c.toNat < code then { p with distance := p.distance + 1 }
  else if c.toNat = code then
    ⟨p.output ++ digits p.bias 36 p.distance, 0,
      adapt p.distance (p.written + 1) (p.written == ascii), p.written + 1⟩
  else p

/-- The characters with some codes are written, in increasing order. `next` is
    the least code that may occur. -/
def write (cs : List Char) (ascii : Nat) : List Nat → Nat → Progress → Progress
  | [], _, p => p
  | code :: rest, next, p =>
    -- Every code that is skipped counts once for each place it could have stood at.
    let begun := { p with distance := p.distance + (code - next) * (p.written + 1) }
    let done := cs.foldl (pass ascii code) begun
    write cs ascii rest (code + 1) { done with distance := done.distance + 1 }

/-- Whether a character is in ASCII. -/
def isAscii (c : Char) : Bool :=
  decide (c.toNat < 0x80)

/-- The form of a text. -/
def encode (cs : List Char) : List Char :=
  let ascii := cs.filter isAscii
  let others := (cs.filter fun c => !isAscii c).map Char.toNat
  let codes := (others.mergeSort fun a b => decide (a ≤ b)).eraseDups
  let last := write cs ascii.length codes 0x80 ⟨[], 0, 72, ascii.length⟩
  (if ascii.isEmpty then [] else ascii ++ ['-']) ++ last.output

end Punycode

end Outreach
