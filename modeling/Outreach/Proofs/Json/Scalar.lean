import Mathlib.Tactic.IntervalCases
import Outreach.Json.Writer
import Outreach.Json.Reader
import Outreach.Proofs.Number.Shortest
import Outreach.Proofs.Text.Identifier
import Outreach.Proofs.Text.Normal

/-!
# Texts, Numbers and Words Read Back

Some characters are read as a value if they are so wherever they stand.

A character may be spelled in several ways inside a text: as it is, by a letter behind
a backslash, by its code, or by the codes of its two halves. Each of them is read as the
character, so a text without lone halves is read back however its characters are spelled.

Integers and finite doubles are read back from their digits, as long as these end there.

## Main definitions

* `Json.Spelling`: What may stand for a character inside a text.
* `Json.ReadsText`: Characters that are read as a text once they stand in quotes.
* `Json.EndsNumber`: A list at which a number ends.
* `Json.Reads`: Characters that are read as a value wherever they stand.

## Theorems

* `Json.Spelling.read`: What stands for a character is read as the character.
* `Json.readsText_flatMap`: A text is read if each of its characters is spelled in some way.
* `Json.spelling_escapedPoint`: What is written for a character stands for it.
* `Json.readNumber?_int`, `Json.readNumber?_layout`: Numbers are read back.
* `Json.reads_text`, `Json.reads_int`, `Json.reads_double`: So are values.
-/

namespace Outreach

namespace Json

open Text

/-! ## Escapes -/

/-- Four hexadecimal digits denote the number whose digits they are. -/
theorem readHex4?_hexDigits {n : Nat} (h : n < 0x10000) : readHex4? (hexDigits 4 n) = some n := by
  have hdigit : ∀ d < 16,
      (0x30 ≤ (hexDigit d).toNat ∧ (hexDigit d).toNat ≤ 0x39 ∧ (hexDigit d).toNat - 0x30 = d) ∨
        (0x61 ≤ (hexDigit d).toNat ∧ (hexDigit d).toNat ≤ 0x66 ∧
          (hexDigit d).toNat - 0x57 = d) := by decide
  have hstep : ∀ m d, d < 16 →
      (if 0x30 ≤ (hexDigit d).toNat ∧ (hexDigit d).toNat ≤ 0x39 then
        some (16 * m + ((hexDigit d).toNat - 0x30))
      else if 0x61 ≤ (hexDigit d).toNat ∧ (hexDigit d).toNat ≤ 0x66 then
        some (16 * m + ((hexDigit d).toNat - 0x57))
      else if 0x41 ≤ (hexDigit d).toNat ∧ (hexDigit d).toNat ≤ 0x46 then
        some (16 * m + ((hexDigit d).toNat - 0x37))
      else none) = some (16 * m + d) := by
    intro m d hd
    rcases hdigit d hd with ⟨hlow, hhigh, hvalue⟩ | ⟨hlow, hhigh, hvalue⟩
    · rw [if_pos ⟨hlow, hhigh⟩, hvalue]
    · rw [if_neg (by omega), if_pos ⟨hlow, hhigh⟩, hvalue]
  have hlt : ∀ m, m % 16 < 16 := fun m => Nat.mod_lt m (by decide)
  have hvalue : 16 * (16 * (16 * (16 * 0 + n / 16 / 16 / 16 % 16) + n / 16 / 16 % 16) +
      n / 16 % 16) + n % 16 = n := by omega
  simp only [hexDigits, List.nil_append, List.cons_append, readHex4?, List.foldlM_cons,
    List.foldlM_nil, hstep _ _ (hlt _), Option.bind_eq_bind, Option.bind_some, Option.pure_def,
    hvalue]

theorem take_hexDigits (n : Nat) (rest : List Char) :
    (hexDigits 4 n ++ rest).take 4 = hexDigits 4 n := by
  rw [List.take_left' (length_hexDigits 4 n)]

theorem drop_hexDigits (n : Nat) (rest : List Char) :
    (hexDigits 4 n ++ rest).drop 4 = rest := by
  rw [List.drop_left' (length_hexDigits 4 n)]

theorem not_length_lt {n : Nat} {rest : List Char} (h : rest ≠ []) :
    ¬(hexDigits 4 n ++ rest).length < 5 := by
  have hpos := List.length_pos_iff.2 h
  rw [List.length_append, length_hexDigits]
  omega

/-- An escape by the code of a character. -/
theorem readCode_of_char {c : Char} (h : c.toNat < 0x10000) (position : Nat) {rest : List Char}
    (hrest : rest ≠ []) :
    readCode position (hexDigits 4 c.toNat ++ rest) = .ok (.char c, 4) := by
  have hvalid : c.toNat < 0xD800 ∨ 0xDFFF < c.toNat ∧ c.toNat < 0x110000 := c.valid
  have hhigh : isHighHalf c.toNat = false := by
    rw [isHighHalf, Bool.and_eq_false_iff, decide_eq_false_iff_not, decide_eq_false_iff_not]
    omega
  have hpoint : Point.ofCode c.toNat = .char c := by
    rw [Point.ofCode, if_neg (by omega), Char.ofNat_toNat]
  rw [readCode, if_neg (not_length_lt hrest), take_hexDigits, readHex4?_hexDigits h]
  simp only [hhigh, hpoint, Bool.false_eq_true, if_false]

/-- The escapes by code of the two halves of a character. -/
theorem readCode_of_pair {c : Char} (h : 0x10000 ≤ c.toNat) (position : Nat) {rest : List Char}
    (hrest : rest ≠ []) :
    readCode position (hexDigits 4 (0xD800 + (c.toNat - 0x10000) / 0x400) ++
      (unicodeEscape (0xDC00 + (c.toNat - 0x10000) % 0x400) ++ rest)) = .ok (.char c, 10) := by
  have hvalid : c.toNat < 0xD800 ∨ 0xDFFF < c.toNat ∧ c.toNat < 0x110000 := c.valid
  have hhigh : isHighHalf (0xD800 + (c.toNat - 0x10000) / 0x400) = true := by
    rw [isHighHalf, Bool.and_eq_true, decide_eq_true_eq, decide_eq_true_eq]
    omega
  have hlow : isLowHalf (0xDC00 + (c.toNat - 0x10000) % 0x400) = true := by
    rw [isLowHalf, Bool.and_eq_true, decide_eq_true_eq, decide_eq_true_eq]
    omega
  have hpair : lowHalf? (unicodeEscape (0xDC00 + (c.toNat - 0x10000) % 0x400) ++ rest) =
      some (0xDC00 + (c.toNat - 0x10000) % 0x400) := by
    rw [unicodeEscape, List.cons_append, List.cons_append, lowHalf?, if_neg (not_length_lt hrest),
      take_hexDigits, readHex4?_hexDigits (by omega), Option.bind_some, if_pos hlow]
  have hcode : 0x10000 + (0xD800 + (c.toNat - 0x10000) / 0x400 - 0xD800) * 0x400 +
      (0xDC00 + (c.toNat - 0x10000) % 0x400 - 0xDC00) = c.toNat := by omega
  rw [readCode, if_neg (not_length_lt (List.append_ne_nil_of_right_ne_nil _ hrest)), take_hexDigits,
    drop_hexDigits,
    readHex4?_hexDigits (by omega)]
  simp only [hhigh, if_true, hpair, hcode, Char.ofNat_toNat]

/-! ## Texts -/

/-- What may stand for a character inside a text. -/
inductive Spelling : Char → List Char → Prop
  | plain {c : Char} (hlow : 0x20 ≤ c.toNat) (hquote : c ≠ '"') (hslash : c ≠ '\\') : Spelling c [c]
  | letter {c e : Char} (h : escaped? e = some c) : Spelling c ['\\', e]
  | code {c : Char} (h : c.toNat < 0x10000) : Spelling c (unicodeEscape c.toNat)
  | pair {c : Char} (h : 0x10000 ≤ c.toNat) :
      Spelling c (unicodeEscape (0xD800 + (c.toNat - 0x10000) / 0x400) ++
        unicodeEscape (0xDC00 + (c.toNat - 0x10000) % 0x400))

theorem readText_unicodeEscape {opening position : Nat} {acc : List Point} {n : Nat}
    {rest : List Char} {point : Point} {width : Nat}
    (h : readCode (position + 1) (hexDigits 4 n ++ rest) = .ok (point, width)) :
    readText opening position acc (unicodeEscape n ++ rest) =
      readText opening (position + 2 + width) (point :: acc)
        ((hexDigits 4 n ++ rest).drop width) := by
  rw [unicodeEscape, List.cons_append, List.cons_append, readText]
  simp only [h]

/-- What stands for a character is read as the character. -/
theorem Spelling.read {c : Char} {cs : List Char} (h : Spelling c cs) (opening position : Nat)
    (acc : List Point) {rest : List Char} (hrest : rest ≠ []) :
    ∃ q, readText opening position acc (cs ++ rest) =
      readText opening q (.char c :: acc) rest := by
  cases h with
  | plain hlow hquote hslash =>
      refine ⟨position + 1, ?_⟩
      rw [List.singleton_append, readText]
      · exact if_neg (Nat.not_lt.2 hlow)
      · exact hquote
      · exact fun h _ => hslash h
      · exact fun _ h _ => hslash h
      · exact fun _ _ h _ => hslash h
  | @letter e h =>
      refine ⟨position + 2, ?_⟩
      rw [List.cons_append, List.cons_append, List.nil_append, readText]
      · simp only [h]
      · rintro rfl
        cases h
  | code h =>
      refine ⟨position + 2 + 4, ?_⟩
      rw [readText_unicodeEscape (readCode_of_char h _ hrest), drop_hexDigits]
  | pair h =>
      have hdrop : ∀ high low,
          (hexDigits 4 high ++ (unicodeEscape low ++ rest)).drop 10 = rest := by
        intro high low
        rw [show 10 = 4 + (4 + 1 + 1) from rfl, ← List.drop_drop, drop_hexDigits, unicodeEscape,
          List.cons_append, List.cons_append, List.drop_succ_cons, List.drop_succ_cons,
          drop_hexDigits]
      refine ⟨position + 2 + 10, ?_⟩
      rw [List.append_assoc, readText_unicodeEscape (readCode_of_pair h _ hrest), hdrop]

/-- Every character is written as something that stands for it. -/
theorem spelling_escapedPoint (c : Char) : Spelling c (escapedPoint (.char c)) := by
  simp only [escapedPoint, beq_iff_eq]
  split
  · next h => exact .letter (by rw [h]; rfl)
  split
  · next h => exact .letter (by rw [h]; rfl)
  split
  · next h => exact .letter (by rw [h]; rfl)
  split
  · next h => exact .letter (by rw [h]; rfl)
  split
  · next h => exact .letter (by rw [h]; rfl)
  have hcode : ∀ {d : Char}, c.toNat = d.toNat → c = d := fun h => Char.toNat_inj.1 h
  split
  · next h => exact .letter (by rw [hcode (d := '\x08') h]; rfl)
  split
  · next h => exact .letter (by rw [hcode (d := '\x0c') h]; rfl)
  split
  · next hquote hslash _ _ _ _ _ h => exact .plain h.1 hquote hslash
  split
  · next h => exact .code h
  · next h => exact .pair (Nat.not_lt.1 h)

/-- Characters that are read as a text once they stand in quotes. -/
def ReadsText (t : Text) (cs : List Char) : Prop :=
  ∀ opening position rest, ∃ q,
    readText opening position [] (cs ++ '"' :: rest) = .ok (t, ⟨q, rest⟩)

/-- A text is read if each of its characters is spelled in some way. -/
theorem readsText_flatMap {t : Text} (h : t.Whole) {spell : Point → List Char}
    (hspell : ∀ c, Spelling c (spell (.char c))) : ReadsText t (t.points.flatMap spell) := by
  have hpoints : ∀ (ps : List Point) (position : Nat) (acc : List Point),
      (∀ p ∈ ps, isHalf p = false) → ∀ opening rest,
        ∃ q, readText opening position acc (ps.flatMap spell ++ '"' :: rest) =
          .ok (⟨acc.reverse ++ ps⟩, ⟨q, rest⟩) := by
    intro ps
    induction ps with
    | nil =>
        intro position acc _ opening rest
        refine ⟨position + 1, ?_⟩
        rw [List.flatMap_nil, List.nil_append, readText, List.append_nil]
    | cons p ps ih =>
        intro position acc hwhole opening rest
        rw [List.forall_mem_cons] at hwhole
        cases p with
        | half k => cases hwhole.1
        | char c =>
            have hrest : ps.flatMap spell ++ '"' :: rest ≠ [] :=
              List.append_ne_nil_of_right_ne_nil _ (List.cons_ne_nil _ _)
            rcases (hspell c).read opening position acc hrest with ⟨q, hq⟩
            rcases ih q (.char c :: acc) hwhole.2 opening rest with ⟨q', hq'⟩
            refine ⟨q', ?_⟩
            rw [List.flatMap_cons, List.append_assoc, hq, hq', List.reverse_cons,
              List.append_assoc, List.singleton_append]
  exact fun opening position rest => hpoints t.points position [] h opening rest

/-! ## Numbers -/

/-- A list at which a number ends. -/
def EndsNumber (rest : List Char) : Prop :=
  ∀ c ∈ rest.head?, isDigit c = false ∧ c ≠ '.' ∧ c ≠ 'e' ∧ c ≠ 'E'

theorem endsNumber_cons {c : Char} {rest : List Char}
    (h : isDigit c = false ∧ c ≠ '.' ∧ c ≠ 'e' ∧ c ≠ 'E') : EndsNumber (c :: rest) := by
  intro d hd
  rwa [← Option.some.inj hd]

theorem isDigit_digitChar {d : Nat} (h : d < 10) : isDigit (Nat.digitChar d) = true := by
  have hall : ∀ d < 10, isDigit (Nat.digitChar d) = true := by decide
  exact hall d h

theorem isDigit_of_mem {ds : List Nat} (h : ∀ d ∈ ds, d < 10) :
    ∀ c ∈ digitChars ds, isDigit c = true := by
  intro c hc
  rcases List.mem_map.1 hc with ⟨d, hd, rfl⟩
  exact isDigit_digitChar (h d hd)

/-- A run of digits is taken whole. -/
theorem span_digits {ds : List Nat} (h : ∀ d ∈ ds, d < 10) {rest : List Char}
    (hrest : ∀ c ∈ rest.head?, isDigit c = false) :
    (digitChars ds ++ rest).takeWhile isDigit = digitChars ds ∧
      (digitChars ds ++ rest).dropWhile isDigit = rest := by
  have hdigits := isDigit_of_mem h
  rw [List.takeWhile_append_of_pos hdigits, List.dropWhile_append_of_pos hdigits]
  cases rest with
  | nil => exact ⟨List.append_nil _, rfl⟩
  | cons c rest =>
      have hc := hrest c rfl
      rw [List.takeWhile_cons_of_neg (by rw [hc]; exact Bool.false_ne_true),
        List.dropWhile_cons_of_neg (by rw [hc]; exact Bool.false_ne_true)]
      exact ⟨List.append_nil _, rfl⟩

theorem exists_digitChars {ds : List Nat} (hne : ds ≠ []) (h : ∀ d ∈ ds, d < 10) :
    ∃ d more, ds = d :: more ∧ d < 10 ∧ digitChars ds = Nat.digitChar d :: digitChars more := by
  cases ds with
  | nil => exact absurd rfl hne
  | cons d more => exact ⟨d, more, rfl, h d List.mem_cons_self, rfl⟩

/-- The whole part of a number is taken, unless it has a zero in front. -/
theorem scanWhole?_digits {ds : List Nat} (hne : ds ≠ []) (h : ∀ d ∈ ds, d < 10)
    (hfirst : ds.head? = some 0 → ds = [0]) {rest : List Char}
    (hrest : ∀ c ∈ rest.head?, isDigit c = false) :
    scanWhole? (digitChars ds ++ rest) = some (digitChars ds, rest) := by
  rcases exists_digitChars hne h with ⟨d, more, rfl, hd, hchars⟩
  by_cases hzero : d = 0
  · subst hzero
    rw [hfirst rfl]
    rfl
  · have hspan := span_digits h hrest
    rw [hchars, List.cons_append] at hspan
    have hne : Nat.digitChar d ≠ '0' := fun heq => hzero ((digitChar_eq_zero hd).1 heq)
    rw [hchars, List.cons_append, scanWhole?]
    · rw [if_pos (isDigit_digitChar hd), hspan.1, hspan.2]
    · exact hne

theorem scanFraction_point {ds : List Nat} (hne : ds ≠ []) (h : ∀ d ∈ ds, d < 10)
    {rest : List Char} (hrest : ∀ c ∈ rest.head?, isDigit c = false) :
    scanFraction ('.' :: (digitChars ds ++ rest)) = ('.' :: digitChars ds, rest) := by
  rcases exists_digitChars hne h with ⟨d, more, rfl, hd, hchars⟩
  have hspan := span_digits h hrest
  rw [hchars, List.cons_append] at hspan
  rw [hchars, List.cons_append, scanFraction, if_pos (isDigit_digitChar hd), hspan.1, hspan.2]

theorem scanFraction_of_ne {cs : List Char} (h : ∀ c ∈ cs.head?, c ≠ '.') :
    scanFraction cs = ([], cs) := by
  unfold scanFraction
  split
  · exact absurd rfl (h _ rfl)
  · rfl

theorem scanExponent_digits (negative : Bool) {ds : List Nat} (hne : ds ≠ [])
    (h : ∀ d ∈ ds, d < 10) {rest : List Char} (hrest : ∀ c ∈ rest.head?, isDigit c = false) :
    scanExponent ('e' :: (if negative then '-' else '+') :: (digitChars ds ++ rest)) =
      ('e' :: (if negative then '-' else '+') :: digitChars ds, rest) := by
  rcases exists_digitChars hne h with ⟨d, more, rfl, hd, hchars⟩
  have hspan := span_digits h hrest
  rw [hchars, List.cons_append] at hspan
  cases negative <;> simp [scanExponent, hspan, hchars]

theorem scanExponent_of_ne {cs : List Char} (h : ∀ c ∈ cs.head?, c ≠ 'e' ∧ c ≠ 'E') :
    scanExponent cs = ([], cs) := by
  unfold scanExponent
  split
  · next c rest =>
    have hc := h c rfl
    rw [if_neg]
    simp [hc.1, hc.2]
  · rfl

/-- What a literal with a fraction and an exponent, or none of them, is read as. -/
def literalValue (fraction power literal : List Char) : Except Refusal Json :=
  if fraction.isEmpty && power.isEmpty then
    match readWhole literal with
    | .ok n => .ok (.int n)
    | .error _ => .error .tooManyDigits
  else
    match readDecimal? literal with
    | some x => .ok (.double x.toDouble)
    | none => .error .tooManyDigits

/-- A number is taken part by part. -/
theorem readNumber?_parts (negative : Bool) {ds : List Nat} (hne : ds ≠ []) (h : ∀ d ∈ ds, d < 10)
    (hfirst : ds.head? = some 0 → ds = [0]) (fraction power : List Char) {rest : List Char}
    (hmore : ∀ c ∈ (fraction ++ (power ++ rest)).head?, isDigit c = false)
    (hfraction : scanFraction (fraction ++ (power ++ rest)) = (fraction, power ++ rest))
    (hpower : scanExponent (power ++ rest) = (power, rest)) :
    readNumber? (Double.signChars negative ++ (digitChars ds ++ (fraction ++ (power ++ rest)))) =
      some (literalValue fraction power
        (Double.signChars negative ++ (digitChars ds ++ (fraction ++ power))),
        (Double.signChars negative ++ (digitChars ds ++ (fraction ++ power))).length) := by
  have hwhole := scanWhole?_digits hne h hfirst hmore
  cases negative with
  | true =>
      simp only [readNumber?, Double.signChars, if_true, List.cons_append, List.nil_append, hwhole,
        hfraction, hpower, Option.bind_eq_bind, Option.bind_some, List.append_assoc]
      rfl
  | false =>
      rcases exists_digitChars hne h with ⟨d, more, -, hd, hchars⟩
      have hplus : Nat.digitChar d ≠ '-' := (ne_sign_of_digit (digitValue?_digitChar hd)).1
      rw [hchars, List.cons_append] at hwhole ⊢
      simp only [readNumber?, Double.signChars, Bool.false_eq_true, if_false, List.cons_append,
        List.nil_append, List.cons.injEq, hplus, false_and, imp_false, not_false_eq_true,
        implies_true, hwhole, hfraction, hpower, Option.bind_eq_bind, Option.bind_some,
        List.append_assoc]
      rfl

/-- An integer is read back from its digits, unless they are too many. -/
theorem readNumber?_int {n : Int} (hn : (decimalDigits n.natAbs).length ≤ wholeDigitLimit)
    {rest : List Char} (hrest : EndsNumber rest) :
    readNumber? ((toString n).toList ++ rest) =
      some (.ok (.int n), (toString n).toList.length) := by
  rcases exists_toString n with ⟨ds, htext, hlength, hne, hlt, hfirst, hsigned⟩
  have hread : readWhole (toString n).toList = .ok n := by
    rw [htext]
    exact readWhole_eq_ok_iff.2 ⟨_, ds, .mk (Double.signText_signChars _)
      (digitRun_digitChars hne hlt), hlength.trans_le hn, hsigned⟩
  have hparts := readNumber?_parts (decide (n < 0)) hne hlt hfirst [] []
    (fun c hc => (hrest c hc).1)
    (scanFraction_of_ne fun c hc => (hrest c hc).2.1)
    (scanExponent_of_ne fun c hc => (hrest c hc).2.2)
  simp only [List.nil_append, List.append_nil] at hparts
  rw [← List.append_assoc, ← htext] at hparts
  rw [hparts]
  simp only [literalValue, hread, List.isEmpty_nil, Bool.and_self, if_true]

/-- A decimal is read back from its layout. -/
theorem readNumber?_layout {negative : Bool} {cs : List Char} {digits : List Nat} {place : Int}
    (h : LayoutText cs digits place) {rest : List Char} (hrest : EndsNumber rest) :
    readNumber? (Double.signChars negative ++ cs ++ rest) =
      some (.ok (.double (Decimal.toDouble ⟨negative, digits, place⟩)),
        (Double.signChars negative ++ cs).length) := by
  have hread := readDecimal?_eq_finite_iff.2 (h.decimalText (Double.signText_signChars negative))
  have hvalue : ∀ fraction power, ¬(fraction = [] ∧ power = []) →
      literalValue fraction power (Double.signChars negative ++ cs) =
        .ok (.double (Decimal.toDouble ⟨negative, digits, place⟩)) := by
    intro fraction power hfilled
    rw [literalValue, if_neg, hread]
    · rfl
    · rwa [Bool.and_eq_true, List.isEmpty_iff, List.isEmpty_iff]
  have hend : ∀ c ∈ rest.head?, isDigit c = false := fun c hc => (hrest c hc).1
  have hpower : scanExponent rest = ([], rest) := scanExponent_of_ne fun c hc => (hrest c hc).2.2
  cases h with
  | @fixed whole fraction hwhole hfraction hlt hfirst =>
      rw [List.forall_mem_append] at hlt
      have hparts := readNumber?_parts negative hwhole hlt.1 hfirst
        ('.' :: digitChars fraction) [] (by rintro c ⟨⟩; decide)
        (scanFraction_point hfraction hlt.2 hend) hpower
      simp only [List.nil_append, List.append_nil] at hparts
      rw [← hvalue ('.' :: digitChars fraction) [] (by simp), ← hparts]
      simp only [List.append_assoc]
  | @exponent d fraction es minus hd hes hlt =>
      rw [List.cons_append, List.forall_mem_cons, List.forall_mem_append] at hlt
      have hfraction : ∀ tail, (∀ c ∈ tail.head?, isDigit c = false ∧ c ≠ '.') →
          scanFraction ((if fraction = [] then [] else '.' :: digitChars fraction) ++ tail) =
            (if fraction = [] then [] else '.' :: digitChars fraction, tail) := by
        intro tail htail
        split
        · exact scanFraction_of_ne fun c hc => (htail c hc).2
        · next hne => exact scanFraction_point hne hlt.2.1 fun c hc => (htail c hc).1
      have hparts := readNumber?_parts negative (List.cons_ne_nil d [])
        (List.forall_mem_singleton.2 hlt.1) (fun h => absurd (Option.some.inj h) hd)
        (if fraction = [] then [] else '.' :: digitChars fraction)
        ('e' :: (if minus = true then '-' else '+') :: digitChars es)
        (by split <;> (rintro c ⟨⟩; decide))
        (hfraction _ (by rintro c ⟨⟩; decide)) (scanExponent_digits minus hes hlt.2.2 hend)
      rw [hvalue _ _ (by simp)] at hparts
      rw [← hparts]
      simp only [List.append_assoc]

/-! ## Values -/

/-- Characters that are read as a value wherever they stand, where lists and objects may
    still stand so deep inside each other. -/
structure Reads (depth : Nat) (v : Json) (cs : List Char) : Prop where
  starts : ∃ c tail, cs = c :: tail ∧ isGap c = false ∧ c ≠ ']'
  reads : ∀ {fuel d position : Nat} {rest : List Char}, 2 * cs.length ≤ fuel + 1 → depth ≤ d →
    EndsNumber rest → ∃ q, readValue (fuel + 1) d ⟨position, cs ++ rest⟩ = .ok (v, ⟨q, rest⟩)

/-- What begins with neither a quote nor a bracket is a word or a number. -/
theorem readValue_scalar {c : Char} (hquote : c ≠ '"') (hbrace : c ≠ '\x7b') (hbracket : c ≠ '[')
    (fuel d position : Nat) (tail : List Char) :
    readValue (fuel + 1) d ⟨position, c :: tail⟩ = readScalar ⟨position, c :: tail⟩ := by
  rw [readValue.eq_def]
  dsimp only
  split
  · next heq => exact absurd (List.cons.inj heq).1 hquote
  · next heq => exact absurd (List.cons.inj heq).1 hbrace
  · next heq => exact absurd (List.cons.inj heq).1 hbracket
  · rfl

theorem reads_null (depth : Nat) (sp : Spacing) : Reads depth .null (writeChars sp .null) :=
  ⟨⟨_, _, rfl, rfl, by decide⟩, fun _ _ _ => ⟨_, rfl⟩⟩

theorem reads_bool (depth : Nat) (b : Bool) (sp : Spacing) :
    Reads depth (.bool b) (writeChars sp (.bool b)) := by
  cases b <;> exact ⟨⟨_, _, rfl, rfl, by decide⟩, fun _ _ _ => ⟨_, rfl⟩⟩

/-- A number is read if it is taken as one and begins like one. -/
theorem reads_number (depth : Nat) {v : Json} {negative : Bool} {cs literal : List Char}
    (hliteral : literal = Double.signChars negative ++ cs)
    (hdigit : ∃ d ds, cs = Nat.digitChar d :: ds ∧ d < 10)
    (hread : ∀ {rest}, EndsNumber rest →
      readNumber? (literal ++ rest) = some (.ok v, literal.length)) :
    Reads depth v literal := by
  rcases hdigit with ⟨d, ds, rfl, hd⟩
  obtain ⟨c, tail, hstart, hc⟩ : ∃ c tail, literal = c :: tail ∧
      isGap c = false ∧ c ≠ ']' ∧ c ≠ '"' ∧ c ≠ '\x7b' ∧ c ≠ '[' ∧
      ∀ rest, readWord? (c :: (tail ++ rest)) = none := by
    cases negative with
    | true =>
        refine ⟨'-', _, hliteral, rfl, by decide, by decide, by decide, by decide, fun rest => ?_⟩
        interval_cases d <;> rfl
    | false =>
        refine ⟨_, _, hliteral, ?_⟩
        interval_cases d <;>
          exact ⟨rfl, by decide, by decide, by decide, by decide, fun _ => rfl⟩
  rcases hc with ⟨hgap, hclose, hquote, hbrace, hbracket, hword⟩
  refine ⟨⟨c, tail, hstart, hgap, hclose⟩, fun {fuel d position rest} _ _ hrest =>
    ⟨position + literal.length, ?_⟩⟩
  have hnumber := hread hrest
  rw [hstart, List.cons_append] at hnumber ⊢
  rw [readValue_scalar hquote hbrace hbracket, readScalar]
  simp only [hword, hnumber, Input.drop]
  rw [← List.cons_append, List.drop_left' rfl]

theorem reads_int (depth : Nat) {n : Int} (hn : (decimalDigits n.natAbs).length ≤ wholeDigitLimit) :
    Reads depth (.int n) (toString n).toList := by
  rcases exists_toString n with ⟨ds, htext, -, hne, hlt, -, -⟩
  rcases exists_digitChars hne hlt with ⟨d, more, -, hd, hchars⟩
  exact reads_number depth htext ⟨d, _, hchars, hd⟩ (readNumber?_int hn)

theorem reads_double (depth : Nat) {x : Double} (hx : x.isFinite = true) :
    Reads depth (.double x) x.text.toList := by
  rcases Double.exists_text hx with ⟨cs, digits, place, htext, hlayout, hread⟩
  refine reads_number depth htext ?_ fun {rest} hrest => ?_
  · cases hlayout with
    | fixed hwhole _ hlt _ =>
        rw [List.forall_mem_append] at hlt
        rcases exists_digitChars hwhole hlt.1 with ⟨d, more, -, hd, hchars⟩
        exact ⟨d, _, by rw [hchars, List.cons_append], hd⟩
    | @exponent d fraction es minus _ _ hlt =>
        exact ⟨d, _, rfl, hlt d List.mem_cons_self⟩
  · rw [htext, readNumber?_layout hlayout hrest, hread]

theorem reads_text (depth : Nat) {t : Text} {cs : List Char} (h : ReadsText t cs) :
    Reads depth (.text t) ('"' :: (cs ++ ['"'])) := by
  refine ⟨⟨_, _, rfl, rfl, by decide⟩, fun {fuel d position rest} _ _ _ => ?_⟩
  rcases h position (position + 1) rest with ⟨q, hq⟩
  refine ⟨q, ?_⟩
  rw [List.cons_append, List.append_assoc, List.singleton_append, readValue.eq_def]
  simp only [hq]
  rfl

end Json

end Outreach
