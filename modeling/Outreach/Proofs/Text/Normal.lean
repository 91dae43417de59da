import Mathlib.Data.List.Basic
import Outreach.Customer.Basic
import Outreach.Delivery.Message
import Outreach.Text.Utf8

/-!
# Texts in Normal Form

Names are kept without blanks around them and emails in lower case too. What was
brought into such a form once is in it already: doing it again changes nothing.
For the lower case this is a fact about the table of lower case forms. The forms
that a run of characters has are no sources of another run, and none of them is
blank, so stripping after lowering finds nothing to strip.

A text without lone halves of surrogate pairs stays one in all of this, and such
texts have bytes.

## Main definitions

* `Text.Bare`: A text with no character of a class at its ends.
* `Text.Settled`: A character that is its own lower case form anywhere.
* `Text.exceptions`: The forms that a table of single characters does not give.
* `Text.Whole`: A text without lone halves.

## Theorems

* `Text.stripBy_stripBy`: A stripped text has nothing to strip.
* `Text.lowercase_lowercase`: A text in lower case is its own lower case form.
* `normalEmail_normalEmail`: An email in normal form is its own normal form.
* `Text.encode_of_whole`: A text without lone halves has bytes.
* `Text.whole_normalEmail`, `Text.whole_render`: What keeps it so.
-/

namespace Outreach

namespace Text

/-! ## Stripping -/

section Strip

variable {p : Char → Bool}

/-- A text with no character of a class at its ends. -/
structure Bare (p : Char → Bool) (t : Text) : Prop where
  first : ∀ q ∈ t.points.head?, q.isIn p = false
  last : ∀ q ∈ t.points.getLast?, q.isIn p = false

theorem dropWhile_of_head? {ps : List Point} (h : ∀ q ∈ ps.head?, q.isIn p = false) :
    ps.dropWhile (Point.isIn p) = ps := by
  cases ps with
  | nil => rfl
  | cons q rest => exact List.dropWhile_cons_of_neg (by rw [h q rfl]; decide)

theorem head?_dropWhile (ps : List Point) :
    ∀ q ∈ (ps.dropWhile (Point.isIn p)).head?, q.isIn p = false := by
  intro q hq
  have hfirst := List.head?_dropWhile_not (Point.isIn p) ps
  rw [hq] at hfirst
  exact hfirst

/-- Where nothing stands at the ends, nothing is stripped. -/
theorem Bare.stripBy_eq {t : Text} (h : t.Bare p) : t.stripBy p = t := by
  have hlast : ∀ q ∈ t.points.reverse.head?, q.isIn p = false := by
    rw [List.head?_reverse]
    exact h.last
  rw [stripBy, dropWhile_of_head? h.first, dropWhile_of_head? hlast, List.reverse_reverse]

/-- What is left after stripping starts and ends with something else. -/
theorem bare_stripBy (t : Text) : (t.stripBy p).Bare p := by
  refine ⟨fun q hq => ?_, fun q hq => ?_⟩
  · -- The rest after the second cut is a part at the start of the rest after the first one.
    have hfront : (t.stripBy p).points <+: t.points.dropWhile (Point.isIn p) := by
      rw [← List.reverse_suffix, stripBy, List.reverse_reverse]
      exact List.dropWhile_suffix _
    rcases hfront with ⟨others, hothers⟩
    refine head?_dropWhile t.points q ?_
    rw [← hothers, List.head?_append, Option.mem_def.1 hq]
    rfl
  · rw [stripBy, List.getLast?_reverse] at hq
    exact head?_dropWhile _ q hq

/-- A stripped text has nothing to strip. -/
theorem stripBy_stripBy (t : Text) : (t.stripBy p).stripBy p = t.stripBy p :=
  (bare_stripBy t).stripBy_eq

theorem mem_of_mem_stripBy {t : Text} {q : Point} (h : q ∈ (t.stripBy p).points) :
    q ∈ t.points := by
  rw [stripBy, List.mem_reverse] at h
  have hmem := (List.dropWhile_suffix _).subset h
  rw [List.mem_reverse] at hmem
  exact (List.dropWhile_suffix _).subset hmem

theorem mem_dropWhile {q : Point} (hq : q.isIn p = false) {ps : List Point} (h : q ∈ ps) :
    q ∈ ps.dropWhile (Point.isIn p) := by
  induction ps with
  | nil => cases h
  | cons r rest ih =>
      rw [List.dropWhile_cons]
      by_cases hr : r.isIn p = true
      · rw [if_pos hr]
        rcases List.mem_cons.1 h with rfl | h
        · rw [hq] at hr
          cases hr
        · exact ih h
      · rw [if_neg hr]
        exact h

/-- Only characters of the class are stripped. -/
theorem mem_stripBy {t : Text} {q : Point} (hq : q.isIn p = false) (h : q ∈ t.points) :
    q ∈ (t.stripBy p).points := by
  rw [stripBy, List.mem_reverse]
  exact mem_dropWhile hq (List.mem_reverse.2 (mem_dropWhile hq h))

end Strip

theorem strip_strip (t : Text) : t.strip.strip = t.strip :=
  stripBy_stripBy t

/-- A text that is not blank is not blank without the blanks around it. -/
theorem isBlankText_strip {t : Text} (h : t.isBlankText = false) : t.strip.isBlankText = false := by
  rw [isBlankText, List.all_eq_false] at h ⊢
  rcases h with ⟨q, hq, hblank⟩
  exact ⟨q, mem_stripBy (Bool.not_eq_true _ ▸ hblank) hq, hblank⟩

/-! ## Lower case -/

/-- A character that is its own lower case form anywhere. -/
structure Settled (c : Char) : Prop where
  notSigma : c.toNat ≠ 0x3A3
  notDotted : c.toNat ≠ 0x130
  single : lowerSingle c = c

namespace LowerRange

/-- The lower case forms of the first and of the last character of a run. -/
def lowest (r : LowerRange) : Nat := Int.toNat (r.1 + r.2.2.2)

def highest (r : LowerRange) : Nat := Int.toNat (r.2.1 + r.2.2.2)

/-- No form of a run lies between two code points. -/
def misses (r : LowerRange) (low high : Nat) : Bool :=
  Nat.blt (highest r) low || Nat.blt high (lowest r)

/-- No form of a run is a source of another run: the two lie apart, or between
    each other with sources and forms taking turns. -/
def avoids (r q : LowerRange) : Bool :=
  misses r q.1 q.2.1 ||
    (q.2.2.1 == 2 && (r.2.2.1 == 2 || r.1 == r.2.1) && (lowest r + q.1) % 2 == 1)

/-- The blank characters, by first and last code point. -/
def blanks : List (Nat × Nat) :=
  [(9, 13), (28, 32), (0x85, 0x85), (0xA0, 0xA0), (0x1680, 0x1680), (0x2000, 0x200A),
    (0x2028, 0x2029), (0x202F, 0x202F), (0x205F, 0x205F), (0x3000, 0x3000)]

/-- The forms of a run are characters, not blank, and no sources of any run. -/
def tidy (r : LowerRange) : Bool :=
  Nat.ble 1 r.2.2.1 && decide (0 ≤ (r.1 : Int) + r.2.2.2) &&
    (Nat.blt (highest r) 0xD800 || (Nat.blt 0xDFFF (lowest r) && Nat.blt (highest r) 0x110000)) &&
    misses r 0x130 0x130 && blanks.all (fun b => misses r b.1 b.2) &&
    lowerRanges.all (avoids r)

end LowerRange

/-- The table of lower case forms is tidy. -/
theorem tidy_lowerRanges : lowerRanges.all LowerRange.tidy = true := by
  decide +kernel

namespace LowerRange

/-- Whether a run has a character with a code point. -/
def covers (r : LowerRange) (n : Nat) : Bool :=
  decide (r.1 ≤ n) && decide (n ≤ r.2.1) && (n - r.1) % r.2.2.1 == 0

/-- The code point of the lower case form of a source. -/
def target (r : LowerRange) (n : Nat) : Nat := Int.toNat (n + r.2.2.2)

variable {r q : LowerRange} {n : Nat}

theorem between_of_covers (ht : r.tidy = true) (hn : r.covers n = true) :
    r.lowest ≤ r.target n ∧ r.target n ≤ r.highest := by
  rcases r with ⟨a, b, step, distance⟩
  simp only [tidy, covers, Bool.and_eq_true, decide_eq_true_eq] at ht hn
  simp only [lowest, highest, target]
  omega

/-- What no form of a run lies between is no form of it. -/
theorem outside_of_misses {low high m : Nat} (h : r.misses low high = true) (hlow : r.lowest ≤ m)
    (hhigh : m ≤ r.highest) : m < low ∨ high < m := by
  simp only [misses, Bool.or_eq_true, Nat.blt_eq] at h
  omega

/-- The form of a source of one run is no source of a run that it avoids. -/
theorem covers_target_of_avoids (ht : r.tidy = true) (hn : r.covers n = true)
    (havoids : r.avoids q = true) : q.covers (r.target n) = false := by
  rcases between_of_covers ht hn with ⟨hlow, hhigh⟩
  rw [← Bool.not_eq_true]
  intro hq
  simp only [avoids, Bool.or_eq_true, Bool.and_eq_true, beq_iff_eq] at havoids
  rcases havoids with hmisses | ⟨⟨htwo, hsteps⟩, hodd⟩
  · have houtside := outside_of_misses hmisses hlow hhigh
    simp only [covers, Bool.and_eq_true, decide_eq_true_eq] at hq
    omega
  · -- Sources of the other run and forms of this one take turns.
    rcases r with ⟨a, b, step, distance⟩
    rcases q with ⟨a', b', step', distance'⟩
    simp only [tidy, Bool.and_eq_true, decide_eq_true_eq] at ht
    simp only [covers, Bool.and_eq_true, decide_eq_true_eq, beq_iff_eq] at hn hq
    simp only [target] at hq
    simp only [lowest] at hodd htwo hsteps
    rcases hsteps with rfl | rfl <;> subst htwo <;> omega

end LowerRange

theorem tidy_of_mem {r : LowerRange} (h : r ∈ lowerRanges) : r.tidy = true :=
  List.all_eq_true.1 tidy_lowerRanges r h

/-- A character is its own lower case form, or a run of the table covers it. -/
theorem lowerSingle_cases (c : Char) :
    lowerSingle c = c ∨ ∃ r ∈ lowerRanges, LowerRange.covers r c.toNat = true ∧
      lowerSingle c = Char.ofNat (LowerRange.target r c.toNat) := by
  have hascii : ((0x41, 0x5a, 1, 32) : LowerRange) ∈ lowerRanges := List.mem_cons_self
  simp only [lowerSingle]
  by_cases hsmall : c.toNat < 0x80
  · rw [if_pos hsmall]
    by_cases hcapital : 0x41 ≤ c.toNat ∧ c.toNat ≤ 0x5A
    · refine Or.inr ⟨_, hascii, ?_, if_pos hcapital⟩
      simp only [LowerRange.covers, Nat.mod_one, hcapital, decide_true, Bool.and_self, BEq.rfl]
    · exact Or.inl (if_neg hcapital)
  · rw [if_neg hsmall]
    cases hfound : lowerRanges.find? fun r =>
        decide (r.1 ≤ c.toNat) && decide (c.toNat ≤ r.2.1) && (c.toNat - r.1) % r.2.2.1 == 0 with
    | none => exact Or.inl rfl
    | some r =>
        have hcovers : LowerRange.covers r c.toNat = true := by
          have hfirst := List.find?_some hfound
          exact hfirst
        exact Or.inr ⟨r, List.mem_of_find?_eq_some hfound, hcovers, rfl⟩

/-- A character that no run covers is its own lower case form. -/
theorem lowerSingle_of_uncovered {c : Char}
    (h : ∀ r ∈ lowerRanges, LowerRange.covers r c.toNat = false) : lowerSingle c = c := by
  rcases lowerSingle_cases c with hself | ⟨r, hr, hcovers, -⟩
  · exact hself
  · rw [h r hr] at hcovers
    cases hcovers

theorem isBlank_eq_false {c : Char}
    (h : ∀ b ∈ LowerRange.blanks, c.toNat < b.1 ∨ b.2 < c.toNat) : isBlank c = false := by
  simp only [LowerRange.blanks, List.forall_mem_cons, List.not_mem_nil, false_implies,
    implies_true, and_true] at h
  simp only [isBlank, Bool.or_eq_false_iff, Bool.and_eq_false_iff, decide_eq_false_iff_not,
    beq_eq_false_iff_ne, ne_eq]
  omega

/-- The form that the table has for a character is its own lower case form, and
    not blank. -/
theorem settled_target {r : LowerRange} (hr : r ∈ lowerRanges) {n : Nat}
    (hn : LowerRange.covers r n = true) :
    Settled (Char.ofNat (r.target n)) ∧ isBlank (Char.ofNat (r.target n)) = false := by
  have ht := tidy_of_mem hr
  rcases LowerRange.between_of_covers ht hn with ⟨hlow, hhigh⟩
  have htidy := ht
  simp only [LowerRange.tidy, Bool.and_eq_true, Bool.or_eq_true, Nat.blt_eq] at htidy
  rcases htidy with ⟨⟨⟨⟨-, hvalid⟩, hdotted⟩, hblanks⟩, havoids⟩
  have hcode : (Char.ofNat (r.target n)).toNat = r.target n := by
    have hchar : (r.target n).isValidChar := by
      rw [Nat.isValidChar]
      omega
    rw [Char.ofNat, dif_pos hchar]
    rfl
  have huncovered : ∀ q ∈ lowerRanges, LowerRange.covers q (r.target n) = false := fun q hq =>
    LowerRange.covers_target_of_avoids ht hn (List.all_eq_true.1 havoids q hq)
  refine ⟨⟨?_, ?_, ?_⟩, isBlank_eq_false fun b hb => ?_⟩
  · -- The sigma is covered itself.
    have hsigma : ((0x3a3, 0x3ab, 1, 32) : LowerRange) ∈ lowerRanges := by decide +kernel
    rw [hcode]
    intro heq
    have hnot := huncovered _ hsigma
    rw [heq] at hnot
    exact absurd hnot (by decide)
  · rw [hcode]
    have houtside := LowerRange.outside_of_misses hdotted hlow hhigh
    omega
  · exact lowerSingle_of_uncovered (by rw [hcode]; exact huncovered)
  · rw [hcode]
    exact LowerRange.outside_of_misses (List.all_eq_true.1 hblanks b hb) hlow hhigh

/-- The forms of the capital sigma and of the dotted capital I. -/
def exceptions : List Char :=
  [Char.ofNat 0x3C2, Char.ofNat 0x3C3, 'i', Char.ofNat 0x307]

/-- They are their own forms and not blank. -/
theorem settled_of_exception {d : Char} (h : d ∈ exceptions) :
    Settled d ∧ isBlank d = false := by
  have hall : exceptions.all (fun e => !isBlank e &&
      decide (e.toNat ≠ 0x3A3 ∧ e.toNat ≠ 0x130 ∧ lowerSingle e = e)) = true := by
    decide +kernel
  have hd := List.all_eq_true.1 hall d h
  rw [Bool.and_eq_true, Bool.not_eq_true', decide_eq_true_eq] at hd
  exact ⟨⟨hd.2.1, hd.2.2.1, hd.2.2.2⟩, hd.1⟩

/-- Every character of a lower case form is its own, and none is blank unless the
    character was. -/
theorem settled_of_mem_lowerAt {before after : List Point} {c d : Char}
    (h : d ∈ lowerAt before c after) : Settled d ∧ (isBlank c = false → isBlank d = false) := by
  rw [lowerAt] at h
  by_cases hsigma : c.toNat = 0x3A3
  · rw [if_pos hsigma, List.mem_singleton] at h
    have hmem : d ∈ exceptions := by
      rw [h, exceptions, List.mem_cons, List.mem_cons]
      split
      · exact Or.inl rfl
      · exact Or.inr (Or.inl rfl)
    exact (settled_of_exception hmem).imp_right fun hblank _ => hblank
  rw [if_neg hsigma] at h
  by_cases hdotted : c.toNat = 0x130
  · rw [if_pos hdotted] at h
    have hmem : d ∈ exceptions := List.mem_cons_of_mem _ (List.mem_cons_of_mem _ h)
    exact (settled_of_exception hmem).imp_right fun hblank _ => hblank
  rw [if_neg hdotted, List.mem_singleton] at h
  subst h
  rcases lowerSingle_cases c with hself | ⟨r, hr, hcovers, hform⟩
  · rw [hself]
    exact ⟨⟨hsigma, hdotted, hself⟩, id⟩
  · rw [hform]
    exact ⟨(settled_target hr hcovers).1, fun _ => (settled_target hr hcovers).2⟩

theorem lowerAt_ne_nil (before : List Point) (c : Char) (after : List Point) :
    lowerAt before c after ≠ [] := by
  rw [lowerAt]
  split
  · exact List.cons_ne_nil _ _
  · split <;> exact List.cons_ne_nil _ _

theorem lowerAt_of_settled {c : Char} (h : Settled c) (before after : List Point) :
    lowerAt before c after = [c] := by
  rw [lowerAt, if_neg h.notSigma, if_neg h.notDotted, h.single]

/-- Everything in a lower case form is its own lower case form. -/
theorem settled_of_mem_lowerFrom {ps : List Point} : ∀ {before : List Point} {c : Char},
    .char c ∈ lowerFrom before ps → Settled c := by
  induction ps with
  | nil => exact fun h => nomatch h
  | cons q rest ih =>
      intro before c h
      cases q with
      | char d =>
          rw [lowerFrom, List.mem_append, List.mem_map] at h
          rcases h with ⟨e, he, heq⟩ | h
          · cases heq
            exact (settled_of_mem_lowerAt he).1
          · exact ih h
      | half k =>
          rw [lowerFrom, List.mem_cons] at h
          rcases h with h | h
          · cases h
          · exact ih h

theorem lowerFrom_of_settled {ps : List Point} (h : ∀ c, .char c ∈ ps → Settled c) :
    ∀ before, lowerFrom before ps = ps := by
  induction ps with
  | nil => exact fun _ => rfl
  | cons q rest ih =>
      intro before
      have hrest := ih (fun c hc => h c (List.mem_cons_of_mem _ hc))
      cases q with
      | char c =>
          rw [lowerFrom, lowerAt_of_settled (h c List.mem_cons_self), hrest]
          rfl
      | half k => rw [lowerFrom, hrest]

/-- A text in lower case is its own lower case form. -/
theorem lowercase_lowercase (t : Text) : t.lowercase.lowercase = t.lowercase :=
  congrArg Text.mk (lowerFrom_of_settled (fun _ hc => settled_of_mem_lowerFrom hc) [])

/-- A point has at least one point in the lower case form, and no blank one unless
    it is blank. -/
theorem exists_lowerFrom_cons (before : List Point) (p : Point) (rest : List Point) :
    ∃ d ds, lowerFrom before (p :: rest) = d :: ds ++ lowerFrom (p :: before) rest ∧
      (p.isIn isBlank = false → ∀ q ∈ d :: ds, q.isIn isBlank = false) := by
  cases p with
  | half k =>
      refine ⟨.half k, [], rfl, fun _ q hq => ?_⟩
      rw [List.mem_singleton.1 hq]
      rfl
  | char c =>
      cases hforms : lowerAt before c rest with
      | nil => exact absurd hforms (lowerAt_ne_nil before c rest)
      | cons d ds =>
          refine ⟨.char d, ds.map .char, ?_, fun hc q hq => ?_⟩
          · rw [lowerFrom, hforms]
            rfl
          · rw [← List.map_cons, List.mem_map] at hq
            rcases hq with ⟨e, he, rfl⟩
            exact (settled_of_mem_lowerAt (hforms ▸ he)).2 hc

/-- A text that starts and ends with no blanks has none at the ends in lower case
    either. -/
theorem Bare.lowercase {t : Text} (h : t.Bare isBlank) : t.lowercase.Bare isBlank := by
  rcases t with ⟨ps⟩
  refine ⟨fun q hq => ?_, fun q hq => ?_⟩
  · cases ps with
    | nil => cases hq
    | cons p rest =>
        rcases exists_lowerFrom_cons [] p rest with ⟨d, ds, hforms, hblank⟩
        rw [Text.lowercase, hforms] at hq
        exact hblank (h.first p rfl) q (List.mem_cons.2 (Or.inl (Option.some.inj hq).symm))
  · have hlast : ∀ (ps before : List Point), (∀ q ∈ ps.getLast?, q.isIn isBlank = false) →
        ∀ q ∈ (lowerFrom before ps).getLast?, q.isIn isBlank = false := by
      intro ps
      induction ps with
      | nil => exact fun _ _ => nofun
      | cons p rest ih =>
          intro before hlast q hq
          rcases exists_lowerFrom_cons before p rest with ⟨d, ds, hforms, hblank⟩
          cases rest with
          | nil =>
              rw [hforms, lowerFrom, List.append_nil] at hq
              exact hblank (hlast p rfl) q (List.mem_of_getLast? hq)
          | cons p' rest =>
              -- The form of the rest has at least one point, and the last one is there.
              rcases exists_lowerFrom_cons (p :: before) p' rest with ⟨e, es, hrest, -⟩
              refine ih (p :: before) (fun r hr => hlast r ?_) q ?_
              · rw [List.getLast?_cons_cons]
                exact hr
              · have hne : lowerFrom (p :: before) (p' :: rest) ≠ [] := by
                  rw [hrest]
                  exact List.cons_ne_nil _ _
                rw [hforms, List.getLast?_append_of_ne_nil _ hne] at hq
                exact hq
    exact hlast ps [] h.last q hq

/-- A character that is its own lower case form anywhere stays. -/
theorem mem_lowercase {c : Char} (hc : Settled c) {t : Text} (h : .char c ∈ t.points) :
    .char c ∈ t.lowercase.points := by
  have hmem : ∀ (ps before : List Point), .char c ∈ ps → .char c ∈ lowerFrom before ps := by
    intro ps
    induction ps with
    | nil => exact fun _ h => nomatch h
    | cons p rest ih =>
        intro before h
        cases p with
        | half k =>
            rw [lowerFrom]
            rcases List.mem_cons.1 h with h | h
            · cases h
            · exact List.mem_cons_of_mem _ (ih _ h)
        | char d =>
            rw [lowerFrom, List.mem_append]
            rcases List.mem_cons.1 h with h | h
            · cases h
              rw [lowerAt_of_settled hc]
              exact Or.inl List.mem_cons_self
            · exact Or.inr (ih _ h)
  exact hmem t.points [] h

/-! ## Lone halves -/

/-- A text without lone halves of surrogate pairs. -/
def Whole (t : Text) : Prop :=
  ∀ q ∈ t.points, isHalf q = false

instance (t : Text) : Decidable t.Whole :=
  inferInstanceAs (Decidable (∀ q ∈ t.points, isHalf q = false))

/-- A text without lone halves has bytes. -/
theorem encode_of_whole {t : Text} (h : t.Whole) : ∃ bytes, t.encode = .ok bytes := by
  have hfrom : ∀ (ps : List Point) (position : Nat), (∀ q ∈ ps, isHalf q = false) →
      ∃ bytes, encodeFrom false position ps = .ok bytes := by
    intro ps
    induction ps with
    | nil => exact fun _ _ => ⟨[], rfl⟩
    | cons p rest ih =>
        intro position h
        rcases ih (position + 1) (fun q hq => h q (List.mem_cons_of_mem _ hq)) with ⟨bytes, hbytes⟩
        cases p with
        | half k => exact nomatch h (.half k) List.mem_cons_self
        | char c => exact ⟨bytesOf c ++ bytes, by rw [encodeFrom, hbytes]; rfl⟩
  exact hfrom t.points 0 h

/-- Only a text without lone halves has bytes. -/
theorem whole_of_encode {t : Text} {bytes : List Nat} (h : t.encode = .ok bytes) : t.Whole := by
  have hfrom : ∀ (ps : List Point) (position : Nat) (bytes : List Nat),
      encodeFrom false position ps = .ok bytes → ∀ q ∈ ps, isHalf q = false := by
    intro ps
    induction ps with
    | nil => exact fun _ _ _ q hq => absurd hq List.not_mem_nil
    | cons p rest ih =>
        intro position bytes h q hq
        cases p with
        | half k => cases h
        | char c =>
            rcases List.mem_cons.1 hq with rfl | hq
            · rfl
            · cases hrest : encodeFrom false (position + 1) rest with
              | error e =>
                  rw [encodeFrom, hrest] at h
                  cases h
              | ok more => exact ih (position + 1) more hrest q hq
  exact hfrom t.points 0 bytes h

theorem whole_ofString (s : String) : (Text.ofString s).Whole := by
  intro q hq
  rcases List.mem_map.1 hq with ⟨c, -, rfl⟩
  rfl

theorem Whole.strip {t : Text} (h : t.Whole) : t.strip.Whole :=
  fun q hq => h q (mem_of_mem_stripBy hq)

theorem Whole.lowercase {t : Text} (h : t.Whole) : t.lowercase.Whole := by
  have hfrom : ∀ (ps before : List Point), (∀ q ∈ ps, isHalf q = false) →
      ∀ q ∈ lowerFrom before ps, isHalf q = false := by
    intro ps
    induction ps with
    | nil => exact fun _ _ _ hq => nomatch hq
    | cons p rest ih =>
        intro before h q hq
        have hrest := ih (p :: before) fun r hr => h r (List.mem_cons_of_mem _ hr)
        cases p with
        | half k => exact nomatch h (.half k) List.mem_cons_self
        | char c =>
            rw [lowerFrom, List.mem_append, List.mem_map] at hq
            rcases hq with ⟨d, -, rfl⟩ | hq
            · rfl
            · exact hrest q hq
  exact hfrom t.points [] h

theorem mem_of_afterHead? {head ps rest : List Point} (h : afterHead? head ps = some rest)
    {q : Point} (hq : q ∈ rest) : q ∈ ps := by
  induction head generalizing ps with
  | nil =>
      rw [afterHead?, Option.some.injEq] at h
      rw [h]
      exact hq
  | cons x xs ih =>
      cases ps with
      | nil => cases h
      | cons p ps =>
          rw [afterHead?] at h
          by_cases hx : x = p
          · rw [if_pos hx] at h
            exact List.mem_cons_of_mem p (ih h)
          · rw [if_neg hx] at h
            cases h

/-- What is put into a text is all that is new in it. -/
theorem mem_substituteFrom {h : Point} {hs value ps : List Point} {q : Point}
    (hq : q ∈ substituteFrom h hs value ps) : q ∈ value ∨ q ∈ ps := by
  fun_induction substituteFrom h hs value ps with
  | case1 => cases hq
  | case2 p rest tail hafter ih =>
      rcases List.mem_append.1 hq with hq | hq
      · exact Or.inl hq
      · exact (ih hq).imp_right (mem_of_afterHead? hafter)
  | case3 p rest hafter ih =>
      rcases List.mem_cons.1 hq with hq | hq
      · exact Or.inr (List.mem_cons.2 (Or.inl hq))
      · exact (ih hq).imp_right (List.mem_cons_of_mem p)

end Text

open Text

theorem whole_render {template name : Text} (htemplate : template.Whole) (hname : name.Whole) :
    (render template name).Whole := by
  intro q hq
  rcases mem_substituteFrom hq with hq | hq
  · exact hname q hq
  · exact htemplate q hq

theorem whole_normalEmail {email : Text} (h : email.Whole) : (normalEmail email).Whole :=
  h.strip.lowercase

/-- An email in normal form is its own normal form. -/
theorem normalEmail_normalEmail (email : Text) :
    normalEmail (normalEmail email) = normalEmail email := by
  have hbare : email.strip.lowercase.Bare isBlank := (bare_stripBy email).lowercase
  rw [normalEmail, normalEmail, strip, hbare.stripBy_eq, lowercase_lowercase]

/-- The sign that makes a text an email stays. -/
theorem contains_normalEmail {email : Text} (h : email.points.contains (.char '@') = true) :
    (normalEmail email).points.contains (.char '@') = true := by
  have hat : Settled '@' := ⟨by decide, by decide, by decide⟩
  rw [List.contains_iff_mem] at h ⊢
  exact mem_lowercase hat (mem_stripBy rfl h)

end Outreach
