/-!
# Texts

A text is a sequence of points. A point is a character or one half of a
surrogate pair that lacks the other half: a JSON document can name such a
half, and then it is stored, compared and shown like any character. It has
no encoding, so a text that holds one cannot leave as UTF-8.

Texts that hold characters only, such as fixed words and numerals, are kept
as a `String` and become a text where one is asked for.

## Main definitions

* `Point`: A character or a lone half of a surrogate pair.
* `Text`: A sequence of points.
* `Text.ofString`, `Text.chars?`: Passage from and to characters.
* `Text.order`: The order by code points.

## Theorems

* `Text.chars?_ofChars`: A text of characters is read back unchanged.
* `Text.eq_ofChars_of_chars?`: Only a text of characters has characters.
-/

namespace Outreach

/-- One point of a text: a character, or a lone half of a surrogate pair. The
    half with index `k` is the code point `0xD800 + k`. -/
inductive Point
  | char (c : Char)
  | half (index : Fin 2048)
  deriving DecidableEq, Inhabited

/-- The code point of a point. -/
def Point.code : Point → Nat
  | .char c => c.toNat
  | .half k => 0xD800 + k.val

/-- The point with a code point. -/
def Point.ofCode (n : Nat) : Point :=
  if 0xD800 ≤ n ∧ n ≤ 0xDFFF then .half (Fin.ofNat 2048 (n - 0xD800)) else .char (Char.ofNat n)

/-- The character of a point, if it is one. -/
def Point.char? : Point → Option Char
  | .char c => some c
  | .half _ => none

/-- Whether a point is a character of a class. -/
def Point.isIn (p : Char → Bool) : Point → Bool
  | .char c => p c
  | .half _ => false

/-- A text. -/
structure Text where
  /-- The points, in order. -/
  points : List Point
  deriving DecidableEq, Inhabited

namespace Text

/-- The text of a list of characters. -/
def ofChars (cs : List Char) : Text :=
  ⟨cs.map .char⟩

/-- A string as a text. -/
def ofString (s : String) : Text :=
  ofChars s.toList

instance : Coe String Text := ⟨ofString⟩

/-- The text without points. -/
def empty : Text := ⟨[]⟩

/-- Whether a text has no points. -/
def isEmpty (t : Text) : Bool := t.points.isEmpty

/-- The number of points. -/
def length (t : Text) : Nat := t.points.length

/-- The characters of a text without lone halves. -/
def chars? (t : Text) : Option (List Char) :=
  t.points.mapM Point.char?

/-- The string of a text without lone halves. -/
def string? (t : Text) : Option String :=
  t.chars?.map String.ofList

/-- A text joined to another. -/
def append (s t : Text) : Text :=
  ⟨s.points ++ t.points⟩

instance : Append Text := ⟨append⟩

/-- Texts joined, with another between each two. -/
def join (between : Text) : List Text → Text
  | [] => empty
  | [t] => t
  | t :: rest => t ++ between ++ join between rest

/-- The code points of a text. -/
def codes (t : Text) : List Nat :=
  t.points.map Point.code

/-- How a text stands to another by their code points. -/
def order (s t : Text) : Ordering :=
  compareLex s.codes t.codes
where
  /-- How a list of numbers stands to another, the first difference being
      decisive. -/
  compareLex : List Nat → List Nat → Ordering
    | [], [] => .eq
    | [], _ :: _ => .lt
    | _ :: _, [] => .gt
    | a :: as, b :: bs => if a = b then compareLex as bs else compare a b

theorem mapM_char? (cs : List Char) : (cs.map Point.char).mapM Point.char? = some cs := by
  induction cs with
  | nil => rfl
  | cons c rest ih => simp [Point.char?, ih]

@[simp]
theorem chars?_ofChars (cs : List Char) : (ofChars cs).chars? = some cs :=
  mapM_char? cs

theorem eq_ofChars_of_chars? {t : Text} {cs : List Char} (h : t.chars? = some cs) :
    t = ofChars cs := by
  rcases t with ⟨points⟩
  simp only [chars?] at h
  simp only [ofChars, mk.injEq]
  induction points generalizing cs with
  | nil => simp at h; simp [← h]
  | cons p rest ih =>
      cases p with
      | half k => simp [Point.char?] at h
      | char c =>
          simp only [List.mapM_cons, Point.char?, Option.pure_def, Option.bind_eq_bind,
            Option.bind_some, Option.bind_eq_some_iff] at h
          rcases h with ⟨ds, hds, hcs⟩
          simp only [Option.some.injEq] at hcs
          subst hcs
          simp [ih hds]

end Text

end Outreach
