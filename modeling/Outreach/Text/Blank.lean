import Outreach.Text.Basic

/-!
# Blank Characters

The characters that count as white space at the ends of a text: those whose
bidirectional class is white space or a separator, or whose category is a
space separator. The four information separators `0x1C` to `0x1F` are among
them.

## Main definitions

* `isBlank`: The white space characters.
* `isSpace`: The same without the information separators.
* `stripBy`: A text without the characters of a class at either end.
* `strip`, `trim`: A text without its leading and trailing white space.
* `isBlankText`: A text that is empty or holds blanks only.
-/

namespace Outreach

namespace Text

/-- The white space characters of Unicode, the information separators
    included. -/
def isBlank (c : Char) : Bool :=
  let n := c.toNat
  (decide (9 ≤ n) && decide (n ≤ 13)) || (decide (28 ≤ n) && decide (n ≤ 32)) ||
    n == 0x85 || n == 0xA0 || n == 0x1680 || (decide (0x2000 ≤ n) && decide (n ≤ 0x200A)) ||
    n == 0x2028 || n == 0x2029 || n == 0x202F || n == 0x205F || n == 0x3000

/-- The white space characters other than the information separators. -/
def isSpace (c : Char) : Bool :=
  isBlank c && !(decide (28 ≤ c.toNat) && decide (c.toNat ≤ 31))

/-- A text without the characters of a class at either end. -/
def stripBy (p : Char → Bool) (t : Text) : Text :=
  ⟨((t.points.dropWhile (Point.isIn p)).reverse.dropWhile (Point.isIn p)).reverse⟩

/-- A text without the blanks at either end. -/
def strip (t : Text) : Text :=
  t.stripBy isBlank

/-- A text without the white space at either end, information separators being
    no white space. -/
def trim (t : Text) : Text :=
  t.stripBy isSpace

/-- A text that is empty or consists of blanks. -/
def isBlankText (t : Text) : Bool :=
  t.points.all (Point.isIn isBlank)

end Text

end Outreach
