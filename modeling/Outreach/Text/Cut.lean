import Outreach.Text.Basic

/-!
# Cutting Texts

Texts cut at characters.

## Main definitions

* `Text.isOneOf`: A point that is one of some characters.
* `Text.cut`: What stands before the first of some characters, and the rest.
* `Text.behind?`: What follows a character.
* `Text.lastCut?`: What stands before and behind the last occurrence of a
  character.
* `Text.splitOn`: A text cut at every occurrence of a character.

## Theorems

* `Text.cut_append`: Nothing is lost in a cut.
-/

namespace Outreach

namespace Text

/-- Whether a point is one of some characters. -/
def isOneOf (marks : List Char) (p : Point) : Bool :=
  p.isIn marks.contains

/-- The points before the first of some characters, and the rest. -/
def cut (marks : List Char) (ps : List Point) : List Point × List Point :=
  (ps.takeWhile fun p => !isOneOf marks p, ps.dropWhile fun p => !isOneOf marks p)

theorem cut_append (marks : List Char) (ps : List Point) :
    (cut marks ps).1 ++ (cut marks ps).2 = ps :=
  List.takeWhile_append_dropWhile

/-- What follows a given character at the start of a list. -/
def behind? (c : Char) : List Point → Option (List Point)
  | .char d :: rest => if c = d then some rest else none
  | _ => none

/-- What stands before and behind the last occurrence of a character. -/
def lastCut? (c : Char) (ps : List Point) : Option (List Point × List Point) :=
  if ps.contains (.char c) then
    let tail := (ps.reverse.takeWhile fun p => p ≠ .char c).reverse
    some (ps.take (ps.length - tail.length - 1), tail)
  else none

/-- The parts of a list between the occurrences of a character, behind a part
    that is given in reverse. -/
def splitFrom (c : Char) (part : List Point) : List Point → List Text
  | [] => [⟨part.reverse⟩]
  | p :: rest => if p = .char c then ⟨part.reverse⟩ :: splitFrom c [] rest
    else splitFrom c (p :: part) rest

/-- A text cut at every occurrence of a character. -/
def splitOn (c : Char) (t : Text) : List Text :=
  splitFrom c [] t.points

end Text

end Outreach
