import Outreach.Proofs.Api.Form
import Outreach.Proofs.Number.Shortest
import Outreach.Proofs.Rule.Literal
import Outreach.Proofs.Rule.Faults

/-!
# Numbers as Values of Rules

A value denotes a number if it is written as a decimal between blanks, and its number is
the double that is nearest to the decimal. It denotes a count of days if it is written as
a whole number that is not negative; then it denotes a number too, and the two agree.

A number that is entered as such is kept by its text. There are two ways of entry. On one
of them every number has its shortest text, on the other whole doubles have that of an
integer. On both the number comes back when the text is read.

## Main definitions

* `Text.SpellsDecimal`, `Text.SpellsWhole`: What is written between the blanks of a text.
* `Rule.IsNumber`, `Rule.SameAudience`: Rules about a number that select the same customers.

## Theorems

* `Rule.parseNumber_spec`: The values that denote a number, and which.
* `Rule.parseDayCount_spec`: The values that denote a count of days.
* `Rule.numbers_survive_entry`: What becomes of a number on either way of entry.
-/

namespace Outreach

open Text

namespace Text

/-- A text is written as a decimal, blanks at its ends apart. -/
def SpellsDecimal (t : Text) (d : Decimal) : Prop :=
  ∃ cs, t.strip.chars? = some cs ∧ DecimalText cs d

/-- A text is written as a whole number, blanks at its ends apart. -/
def SpellsWhole (t : Text) (negative : Bool) (ds : List Nat) : Prop :=
  ∃ cs, t.strip.chars? = some cs ∧ WholeText cs negative ds

/-- A text is a word for infinity or NaN, blanks at its ends apart. -/
def SpellsWord (t : Text) : Prop :=
  ∃ cs, t.strip.chars? = some cs ∧ WordText cs

/-- A text without blanks at its ends has nothing more to lose. -/
theorem trim_strip (t : Text) : t.strip.trim = t.strip := by
  have hspace (q : Point) (h : q.isIn isBlank = false) : q.isIn isSpace = false := by
    cases q with
    | half k => rfl
    | char c =>
        rw [Point.isIn, isSpace, show isBlank c = false from h]
        rfl
  have hbare : t.strip.Bare isBlank := bare_stripBy t
  exact Bare.stripBy_eq
    ⟨fun q hq => hspace q (hbare.first q hq), fun q hq => hspace q (hbare.last q hq)⟩

/-- What is read of a text without lone halves are its characters. -/
theorem literal_strip {t : Text} {cs : List Char} (h : t.strip.chars? = some cs) :
    t.strip.literal = cs := by
  rw [literal, trim_strip, eq_ofChars_of_chars? h, ofChars, List.map_map]
  exact List.map_id _

theorem exists_chars?_of_whole {t : Text} (h : t.Whole) : ∃ cs, t.chars? = some cs := by
  rcases t with ⟨points⟩
  rw [Whole] at h
  have hall : ∃ cs : List Char, points = cs.map Point.char := by
    induction points with
    | nil => exact ⟨[], rfl⟩
    | cons q rest ih =>
        rcases ih (fun p hp => h p (List.mem_cons_of_mem q hp)) with ⟨cs, rfl⟩
        cases q with
        | half k => cases h (.half k) List.mem_cons_self
        | char c => exact ⟨c :: cs, rfl⟩
  rcases hall with ⟨cs, rfl⟩
  exact ⟨cs, chars?_ofChars cs⟩

/-- A reader that takes no lone half reads the characters between the blanks. -/
theorem exists_chars?_of_literal {t : Text} (h : halfMark ∉ t.strip.literal) :
    t.strip.chars? = some t.strip.literal := by
  have hwhole : t.Whole := by
    by_contra hhalf
    exact h (halfMark_mem_literal hhalf)
  rcases exists_chars?_of_whole hwhole.strip with ⟨cs, hcs⟩
  rw [literal_strip hcs, hcs]

theorem readDecimal?_literal_iff {t : Text} {d : Decimal} :
    readDecimal? t.strip.literal = some (.finite d) ↔ t.SpellsDecimal d := by
  constructor
  · intro h
    have hcs := exists_chars?_of_literal fun hmem => by
      rw [readDecimal?_eq_none hmem] at h
      cases h
    exact ⟨_, hcs, readDecimal?_eq_finite_iff.1 h⟩
  · rintro ⟨cs, hcs, hdecimal⟩
    rw [literal_strip hcs]
    exact readDecimal?_eq_finite_iff.2 hdecimal

theorem readWhole_literal_iff {t : Text} {n : Int} :
    readWhole t.strip.literal = .ok n ↔
      ∃ negative ds, t.SpellsWhole negative ds ∧ ds.length ≤ wholeDigitLimit ∧
        n = Double.signed negative (ofDigits ds) := by
  constructor
  · intro h
    have hcs := exists_chars?_of_literal fun hmem => by
      rcases readWhole_error hmem with ⟨refusal, hrefusal⟩
      rw [hrefusal] at h
      cases h
    rcases readWhole_eq_ok_iff.1 h with ⟨negative, ds, hwhole, hlength, hn⟩
    exact ⟨negative, ds, ⟨_, hcs, hwhole⟩, hlength, hn⟩
  · rintro ⟨negative, ds, ⟨cs, hcs, hwhole⟩, hlength, hn⟩
    rw [literal_strip hcs]
    exact readWhole_eq_ok_iff.2 ⟨negative, ds, hwhole, hlength, hn⟩

/-- A whole number is a decimal. -/
theorem SpellsWhole.spellsDecimal {t : Text} {negative : Bool} {ds : List Nat}
    (h : t.SpellsWhole negative ds) : t.SpellsDecimal ⟨negative, ds, 0⟩ := by
  rcases h with ⟨cs, hcs, hwhole⟩
  exact ⟨cs, hcs, hwhole.decimalText⟩

/-- A decimal is rounded once. -/
theorem SpellsDecimal.rounds {t : Text} {d : Decimal} (h : t.SpellsDecimal d) :
    d.toDouble.Rounds d.negative d.magnitude := by
  rcases h with ⟨cs, -, hdecimal⟩
  exact Decimal.rounds_toDouble hdecimal.lt

end Text

namespace Rule

variable {s : Text} {x : Double} {d : Decimal}

/-- The values that denote a number. -/
theorem number_eq_ok_iff :
    number s = .ok x ↔ ∃ d, s.SpellsDecimal d ∧ d.toDouble = x ∧ x.isFinite = true := by
  simp only [← readDecimal?_literal_iff, number]
  cases readDecimal? s.strip.literal with
  | none => simp only [reduceCtorEq, false_and, exists_false]
  | some numeral =>
      simp only [Option.some.injEq]
      constructor
      · intro h
        split at h
        · next hfinite =>
          cases h
          cases numeral with
          | finite d => exact ⟨d, rfl, rfl, hfinite⟩
          | infinite negative => cases negative <;> exact absurd hfinite (by decide)
          | nan => cases hfinite
        · cases h
      · rintro ⟨d, rfl, rfl, hfinite⟩
        exact if_pos hfinite

/-- A value that is not accepted is refused as one of a rule. -/
theorem kind_of_blame_error {α : Type} {value : Json} {y : Except ValueProblem α} {f : Fault}
    (h : blame value y = .error f) : f.kind = "InvalidRuleError" := by
  cases y with
  | ok a => cases h
  | error problem =>
      cases h
      rfl

theorem kind_of_parseNumber {value : Json} {f : Fault} (h : parseNumber value = .error f) :
    f.kind = "InvalidRuleError" :=
  kind_of_blame_error h

/-- The number that a decimal denotes. -/
theorem parseNumber_eq_ok_iff (hd : s.SpellsDecimal d) :
    parseNumber (.text s) = .ok x ↔
      |d.value| < Double.overflow ∧ x.Nearest d.value ∧ x.isNegative = d.negative := by
  have hrounds := hd.rounds
  rw [parseNumber, blame_eq_ok_iff, Json.plain, number_eq_ok_iff, d.abs_value]
  constructor
  · rintro ⟨d', hd', rfl, hfinite⟩
    obtain rfl : d' = d := by
      have hself := readDecimal?_literal_iff.2 hd'
      rw [readDecimal?_literal_iff.2 hd] at hself
      cases hself
      rfl
    have hm := hrounds.finite.1 hfinite
    exact ⟨hm, hrounds.nearest hm, hrounds.sign⟩
  · rintro ⟨hm, hnearest, hsign⟩
    have hself : d.toDouble = x :=
      (hrounds.nearest hm).unique hnearest (hrounds.sign.trans hsign.symm)
    exact ⟨d, hd, hself, hnearest.finite⟩

/-- Decimals below the overflow threshold denote a number, and nothing else does. -/
theorem exists_parseNumber_iff :
    (∃ x, parseNumber (.text s) = .ok x) ↔
      ∃ d, s.SpellsDecimal d ∧ |d.value| < Double.overflow := by
  constructor
  · rintro ⟨x, hx⟩
    rcases number_eq_ok_iff.1 (blame_eq_ok_iff.1 hx) with ⟨d, hd, -⟩
    exact ⟨d, hd, ((parseNumber_eq_ok_iff hd).1 hx).1⟩
  · rintro ⟨d, hd, hvalue⟩
    rw [d.abs_value] at hvalue
    exact ⟨d.toDouble, blame_eq_ok_iff.2 (number_eq_ok_iff.2
      ⟨d, hd, rfl, hd.rounds.finite.2 hvalue⟩)⟩

/-- A numeral beyond every double is refused as such. -/
theorem parseNumber_notFinite {numeral : Numeral}
    (h : readDecimal? s.strip.literal = some numeral)
    (hfinite : numeral.toDouble.isFinite = false) :
    parseNumber (.text s) = .error (.ruleValue (.text s) .notFinite) := by
  simp only [parseNumber, Json.plain, number, h, hfinite, Bool.false_eq_true, if_false, blame]

theorem parseNumber_of_word (h : s.SpellsWord) :
    parseNumber (.text s) = .error (.ruleValue (.text s) .notFinite) := by
  rcases h with ⟨cs, hcs, hword⟩
  rcases hword.read with ⟨numeral, hread, hfinite⟩
  rw [← literal_strip hcs] at hread
  exact parseNumber_notFinite hread hfinite

theorem parseNumber_of_overflow (hd : s.SpellsDecimal d) (h : Double.overflow ≤ |d.value|) :
    parseNumber (.text s) = .error (.ruleValue (.text s) .notFinite) := by
  rw [d.abs_value] at h
  refine parseNumber_notFinite (readDecimal?_literal_iff.2 hd) ?_
  rw [Numeral.toDouble, ← Bool.not_eq_true, hd.rounds.finite]
  exact not_lt.2 h

/-- A value denotes a number just if it is written as a decimal below the overflow
    threshold. Its number is the double nearest to the decimal, with the sign of the decimal
    even on zero. Every other value is refused; decimals from the threshold on and the words
    for infinity and NaN are refused as not finite. -/
theorem parseNumber_spec (s : Text) :
    ((∃ x, parseNumber (.text s) = .ok x) ↔
        ∃ d, s.SpellsDecimal d ∧ |d.value| < Double.overflow) ∧
      (∀ d x, s.SpellsDecimal d → (parseNumber (.text s) = .ok x ↔
        |d.value| < Double.overflow ∧ x.Nearest d.value ∧ x.isNegative = d.negative)) ∧
      (∀ f, parseNumber (.text s) = .error f → f.kind = "InvalidRuleError") ∧
      ((s.SpellsWord ∨ ∃ d, s.SpellsDecimal d ∧ Double.overflow ≤ |d.value|) →
        parseNumber (.text s) = .error (.ruleValue (.text s) .notFinite)) := by
  refine ⟨exists_parseNumber_iff, fun d x => parseNumber_eq_ok_iff, fun f => kind_of_parseNumber,
    ?_⟩
  rintro (hword | ⟨d, hd, hvalue⟩)
  · exact parseNumber_of_word hword
  · exact parseNumber_of_overflow hd hvalue

/-- A whole number as a value: the nearest double, or no number at all. -/
theorem parseNumber_of_whole {negative : Bool} {ds : List Nat} {n : Int}
    (h : s.SpellsWhole negative ds) (hn : n = Double.signed negative (ofDigits ds)) :
    (|(n : ℚ)| < Double.overflow → ∃ x, parseNumber (.text s) = .ok x ∧ x.Nearest n) ∧
      (Double.overflow ≤ |(n : ℚ)| → ∃ f, parseNumber (.text s) = .error f ∧
        f.kind = "InvalidRuleError") := by
  have hd := h.spellsDecimal
  have hvalue := Decimal.value_whole negative ds
  rw [← hn] at hvalue
  rw [← hvalue]
  refine ⟨fun hlt => ?_, fun hle => ⟨_, parseNumber_of_overflow hd hle, rfl⟩⟩
  rcases exists_parseNumber_iff.2 ⟨_, hd, hlt⟩ with ⟨x, hx⟩
  exact ⟨x, hx, ((parseNumber_eq_ok_iff hd).1 hx).2.1⟩

/-! ## Counts of days -/

/-- The values that denote a count of days. -/
theorem parseDayCount_eq_ok_iff {n : Nat} :
    parseDayCount (.text s) = .ok n ↔
      ∃ negative ds, s.SpellsWhole negative ds ∧ ds.length ≤ wholeDigitLimit ∧
        (n : Int) = Double.signed negative (ofDigits ds) := by
  have hread : parseDayCount (.text s) = .ok n ↔ readWhole s.strip.literal = .ok (n : Int) := by
    rw [parseDayCount, blame_eq_ok_iff, Json.plain, dayCount]
    cases readWhole s.strip.literal with
    | error refusal => simp only [reduceCtorEq]
    | ok m =>
        simp only [Except.ok.injEq]
        split
        · next hneg =>
          simp only [reduceCtorEq, false_iff]
          omega
        · next hnonneg =>
          rw [Except.ok.injEq]
          omega
  rw [hread, readWhole_literal_iff]

/-- A value denotes a count of days just if it is written as a whole number of at most 4300
    digits that is not negative. Then it denotes a number too, the double nearest to the
    count, unless the count is beyond every double. -/
theorem parseDayCount_spec (s : Text) :
    (∀ n : Nat, parseDayCount (.text s) = .ok n ↔
        ∃ negative ds, s.SpellsWhole negative ds ∧ ds.length ≤ 4300 ∧
          (n : Int) = Double.signed negative (ofDigits ds)) ∧
      (∀ f, parseDayCount (.text s) = .error f → f.kind = "InvalidRuleError") ∧
      ∀ n : Nat, parseDayCount (.text s) = .ok n →
        ((n : ℚ) < Double.overflow → ∃ x, parseNumber (.text s) = .ok x ∧ x.Nearest n) ∧
          (Double.overflow ≤ n →
            ∃ f, parseNumber (.text s) = .error f ∧ f.kind = "InvalidRuleError") := by
  refine ⟨fun n => parseDayCount_eq_ok_iff, fun f => kind_of_blame_error, fun n hn => ?_⟩
  rcases parseDayCount_eq_ok_iff.1 hn with ⟨negative, ds, hwhole, -, hvalue⟩
  have habs : |((n : Int) : ℚ)| = n := by rw [Int.cast_natCast, Nat.abs_cast]
  have hnumber := parseNumber_of_whole hwhole hvalue
  rw [habs, Int.cast_natCast] at hnumber
  exact hnumber

end Rule

/-! ## Numbers that are entered -/

namespace Text

theorem strip_ofChars {cs : List Char} (h : ∀ c ∈ cs, isBlank c = false) :
    (ofChars cs).strip = ofChars cs := by
  have hpoint : ∀ q ∈ (ofChars cs).points, q.isIn isBlank = false := by
    intro q hq
    rcases List.mem_map.1 hq with ⟨c, hc, rfl⟩
    exact h c hc
  exact Bare.stripBy_eq ⟨fun q hq => hpoint q (List.mem_of_mem_head? hq),
    fun q hq => hpoint q (List.mem_of_mem_getLast? hq)⟩

/-- A string without blanks is what is written between its blanks. -/
theorem chars?_strip_ofString {s : String} (h : ∀ c ∈ s.toList, isBlank c = false) :
    (ofString s).strip.chars? = some s.toList := by
  rw [ofString, strip_ofChars h, chars?_ofChars]

/-- There are no blanks in numbers. -/
theorem isBlank_of_numeral {c : Char} (h : c ∈ numeralChars) : isBlank c = false := by
  have hall : (numeralChars.all fun c => isBlank c == false) = true := by decide
  exact eq_of_beq (List.all_eq_true.1 hall c h)

end Text

namespace Rule

variable {x : Double}

/-- The text of a finite double is written as a decimal that is rounded to it. -/
theorem parseNumber_text (hx : x.isFinite = true) :
    parseNumber (.text (Text.ofString x.text)) = .ok x := by
  rcases Double.exists_text hx with ⟨cs, digits, place, htext, hlayout, hread⟩
  have hblank : ∀ c ∈ x.text.toList, isBlank c = false :=
    fun c hc => isBlank_of_numeral (Double.numeral_of_mem_text hx c hc)
  have hdecimal := hlayout.decimalText (Double.signText_signChars x.isNegative)
  rw [← htext] at hdecimal
  exact blame_eq_ok_iff.2 (number_eq_ok_iff.2
    ⟨_, ⟨_, chars?_strip_ofString hblank, hdecimal⟩, hread, hx⟩)

/-- The text of an integer is written as a whole number. -/
theorem exists_spellsWhole (n : Int) :
    ∃ negative ds, (Text.ofString (toString n)).SpellsWhole negative ds ∧
      n = Double.signed negative (ofDigits ds) := by
  rcases exists_toString n with ⟨ds, htext, -, hne, hlt, -, hsigned⟩
  have hblank : ∀ c ∈ (toString n).toList, isBlank c = false :=
    fun c hc => isBlank_of_numeral (numeral_of_mem_toString n c hc)
  refine ⟨decide (n < 0), ds, ⟨_, chars?_strip_ofString hblank, ?_⟩, hsigned⟩
  · rw [htext]
    exact .mk (Double.signText_signChars _) (digitRun_digitChars hne hlt)

/-- The text of an integer denotes the nearest double, or no number. -/
theorem parseNumber_toString (n : Int) :
    (|(n : ℚ)| < Double.overflow →
        ∃ y, parseNumber (.text (Text.ofString (toString n))) = .ok y ∧ y.Nearest n) ∧
      (Double.overflow ≤ |(n : ℚ)| →
        ∃ f, parseNumber (.text (Text.ofString (toString n))) = .error f ∧
          f.kind = "InvalidRuleError") := by
  rcases exists_spellsWhole n with ⟨negative, ds, hwhole, hn⟩
  exact parseNumber_of_whole hwhole hn

/-- A whole double is the integer that is left when its fraction is cut off. -/
theorem real_of_isIntegral (h : x.isIntegral = true) : x.isFinite = true ∧ x.real = x.truncate := by
  rw [Double.isIntegral, Bool.and_eq_true, beq_iff_eq] at h
  refine ⟨h.1, ?_⟩
  have hscaled : x.scaled = x.truncate * Double.unit := by
    rw [Double.truncate, Int.tdiv_mul_cancel (Int.dvd_of_emod_eq_zero h.2)]
  rw [Double.real, hscaled, Int.cast_mul, Int.cast_natCast, mul_div_cancel_right₀ _
    Double.unit_ne_zero]

/-- A number as a form keeps it denotes an equal number. -/
theorem exists_ruleValue (hx : x.isFinite = true) :
    ∃ t y, Api.ruleValue (.double x) = .value t ∧ parseNumber (.text t) = .ok y ∧
      y.eq x = true := by
  rw [Api.ruleValue]
  split
  · next hwhole =>
    have hreal := (real_of_isIntegral hwhole).2
    have hlt := Double.abs_real_lt_overflow hx
    rw [hreal] at hlt
    rcases (parseNumber_toString x.truncate).1 hlt with ⟨y, hy, hnearest⟩
    rw [← hreal] at hnearest
    refine ⟨_, y, rfl, hy, ?_⟩
    rw [Double.eq_iff_real_eq hnearest.finite hx]
    exact hnearest.real_eq (Double.nearest_real hx)
  · refine ⟨_, x, rfl, parseNumber_text hx, ?_⟩
    rw [Double.eq_iff_real_eq hx hx]

/-! ## Two ways of entry -/

/-- A value that is a number and has a finite value. -/
def IsNumber : Json → Prop
  | .int _ => True
  | .double x => x.isFinite = true
  | _ => False

/-- Two rules that are compiled to select the same customers, or both refused. -/
def SameAudience (a b : Except Fault Predicate) : Prop :=
  (∃ p q, a = .ok p ∧ b = .ok q ∧ ∀ c, p.matches c = q.matches c) ∨
    ∃ f g, a = .error f ∧ b = .error g ∧ f.kind = "InvalidRuleError" ∧ g.kind = "InvalidRuleError"

/-- Only the value of a number decides which customers it selects. -/
theorem matches_congr {y : Double} {field : Field} (hfield : field ≠ .lastVisit)
    (comparator : Comparator) (h : x.value? = y.value?) (c : Customer) :
    (Predicate.compare field.attribute comparator (.double x)).matches c =
      (Predicate.compare field.attribute comparator (.double y)).matches c := by
  cases field with
  | totalSpends =>
      simp only [Predicate.matches, Field.attribute, Customer.fact?, Fact.standing,
        Double.compare?_eq, h]
  | visits =>
      simp only [Predicate.matches, Field.attribute, Customer.fact?, Fact.standing,
        Double.compareInt?_eq, h]
  | lastVisit => exact absurd rfl hfield

/-- A rule on spend or visits is compiled by its number. -/
theorem compileOne_eq {r : Rule} (hfield : r.field ≠ .lastVisit) (now : Timestamp) :
    compileOne now r = (parseNumber (.text r.value)).map fun x =>
      .compare r.field.attribute r.operator.direct (.double x) := by
  rcases r with ⟨field, operator, value, logic⟩
  cases field with
  | lastVisit => exact absurd rfl hfield
  | _ =>
      simp only [compileOne, parseNumber, Json.plain]
      cases number value <;> rfl

/-- Values that denote equal numbers select the same customers. -/
theorem sameAudience_of_eq {r q : Rule} (hfield : r.field ≠ .lastVisit)
    (hq : q = { r with value := q.value }) {y : Double}
    (hx : parseNumber (.text r.value) = .ok x) (hy : parseNumber (.text q.value) = .ok y)
    (hsame : x.value? = y.value?) (now : Timestamp) :
    SameAudience (compileOne now r) (compileOne now q) := by
  have hfield' : q.field ≠ .lastVisit := by rw [hq]; exact hfield
  rw [compileOne_eq hfield, compileOne_eq hfield', hx, hy, hq]
  exact .inl ⟨_, _, rfl, rfl, matches_congr hfield r.operator.direct hsame⟩

/-- The texts that the two ways of entry keep of a number denote the same, if anything. -/
theorem exists_entered {v : Json} (hv : IsNumber v) :
    ∃ t, Api.ruleValue v = .value t ∧
      ((∃ x y, parseNumber (.text v.plain) = .ok x ∧ parseNumber (.text t) = .ok y ∧
          x.value? = y.value?) ∨
        ∃ f, parseNumber (.text v.plain) = .error f ∧ t = v.plain) := by
  cases v with
  | int n =>
      refine ⟨_, rfl, ?_⟩
      cases hn : parseNumber (.text (Json.int n).plain) with
      | ok x => exact .inl ⟨x, x, rfl, hn, rfl⟩
      | error f => exact .inr ⟨f, rfl, rfl⟩
  | double x =>
      rcases exists_ruleValue hv with ⟨t, y, ht, hy, heq⟩
      have hfinite : y.isFinite = true := by
        rcases number_eq_ok_iff.1 (blame_eq_ok_iff.1 hy) with ⟨d, -, -, hfinite⟩
        exact hfinite
      rw [Double.eq_iff_real_eq hfinite hv] at heq
      refine ⟨t, ht, .inl ⟨x, y, parseNumber_text hv, hy, ?_⟩⟩
      rw [Double.value?_of_isFinite hv, Double.value?_of_isFinite hfinite, heq]
  | _ => cases hv

section Entry

variable {wire v : Json} {r q : Rule} (hv : wire.member? "value" = some v)

include hv

theorem value_of_ofJson (hr : ofJson wire = .ok r) : r.value = v.plain := by
  cases wire with
  | object ms =>
      have hfind : Json.find? ms (Text.ofString "value") = some v := hv
      rw [(ofJson_eq_ok_iff.1 hr).2.2.2, valueText, hfind]
  | _ => cases hv

/-- A form reads the value of a rule in its own way and all else as it is read of an object. -/
theorem ruleForm_eq_iff (hr : ofJson wire = .ok r) :
    Api.ruleForm wire = .value q ↔ ∃ t, Api.ruleValue v = .value t ∧ q = { r with value := t } := by
  have hself : r = { r with value := v.plain } := by rw [← value_of_ofJson hv hr]
  rw [Api.ruleForm_eq_value_iff, hv]
  constructor
  · rintro ⟨_, ⟨⟩, ht, hq⟩
    rw [hr] at hq
    cases hq
    exact ⟨q.value, ht, rfl⟩
  · rintro ⟨t, ht, rfl⟩
    exact ⟨v, rfl, ht, hr.trans (congrArg Except.ok hself)⟩

/-- What a form takes is the rule of an object. -/
theorem ofJson_of_ruleForm (hq : Api.ruleForm wire = .value q) :
    Api.ruleValue v = .value q.value ∧ ofJson wire = .ok { q with value := v.plain } := by
  rcases Api.ruleForm_eq_value_iff.1 hq with ⟨w, hw, ht, hr⟩
  rw [hv] at hw
  cases hw
  exact ⟨ht, hr⟩

/-- Both ways of entry take a number, and the rules select the same customers. -/
theorem sameAudience_of_entry (hnumber : IsNumber v) (hr : ofJson wire = .ok r)
    (hq : Api.ruleForm wire = .value q) (hfield : r.field ≠ .lastVisit) (now : Timestamp) :
    SameAudience (compileOne now r) (compileOne now q) := by
  rcases (ruleForm_eq_iff hv hr).1 hq with ⟨t, ht, rfl⟩
  rcases exists_entered hnumber with ⟨t', ht', hentered⟩
  rw [ht] at ht'
  cases ht'
  rw [← value_of_ofJson hv hr] at hentered
  rcases hentered with ⟨x, y, hx, hy, hsame⟩ | ⟨f, hf, rfl⟩
  · exact sameAudience_of_eq (q := { r with value := t }) hfield rfl hx hy hsame now
  · have hself : compileOne now r = .error f := by
      rw [compileOne_eq hfield, hf]
      rfl
    have hkind := kind_of_parseNumber hf
    exact .inr ⟨f, f, hself, hself, hkind, hkind⟩

end Entry

/-- A number as the value of a rule survives its entry as a text, whichever way it takes. A
    finite double comes back unchanged on one way and equal on the other; an integer has the
    same text on both, which denotes the nearest double or is refused. So a rule on spend or
    visits selects the same customers either way. -/
theorem numbers_survive_entry (wire : Json) :
    (∀ x : Double, x.isFinite = true → wire.member? "value" = some (.double x) →
      (∀ r, ofJson wire = .ok r → parseNumber (.text r.value) = .ok x) ∧
      ∀ q, Api.ruleForm wire = .value q →
        ∃ y, parseNumber (.text q.value) = .ok y ∧ y.eq x = true) ∧
    (∀ n : Int, wire.member? "value" = some (.int n) →
      ∀ r, (ofJson wire = .ok r ↔ Api.ruleForm wire = .value r) ∧ (ofJson wire = .ok r →
        (|(n : ℚ)| < Double.overflow →
          ∃ y, parseNumber (.text r.value) = .ok y ∧ y.Nearest n) ∧
        (Double.overflow ≤ |(n : ℚ)| →
          ∃ f, parseNumber (.text r.value) = .error f ∧ f.kind = "InvalidRuleError"))) ∧
    ∀ v, wire.member? "value" = some v → IsNumber v →
      ((∃ r, ofJson wire = .ok r) ↔ ∃ q, Api.ruleForm wire = .value q) ∧
      ∀ r q, ofJson wire = .ok r → Api.ruleForm wire = .value q →
        q = { r with value := q.value } ∧ (r.field ≠ .lastVisit →
          ∀ now, SameAudience (compileOne now r) (compileOne now q)) := by
  refine ⟨fun x hx hv => ⟨fun r hr => ?_, fun q hq => ?_⟩, fun n hv r => ⟨?_, fun hr => ?_⟩,
    fun v hv hnumber => ⟨⟨?_, ?_⟩, fun r q hr hq => ⟨?_, fun hfield now => ?_⟩⟩⟩
  · rw [value_of_ofJson hv hr]
    exact parseNumber_text hx
  · rcases exists_ruleValue hx with ⟨t, y, ht, hy, heq⟩
    rw [(ofJson_of_ruleForm hv hq).1] at ht
    cases ht
    exact ⟨y, hy, heq⟩
  · have hplain : Api.ruleValue (.int n) = .value (Json.int n).plain := rfl
    constructor
    · intro hr
      refine (ruleForm_eq_iff hv hr).2 ⟨_, hplain, ?_⟩
      rw [← value_of_ofJson hv hr]
    · intro hq
      rcases ofJson_of_ruleForm hv hq with ⟨ht, hr⟩
      rw [hplain, Checked.value.injEq] at ht
      rwa [ht] at hr
  · rw [value_of_ofJson hv hr]
    exact parseNumber_toString n
  · rintro ⟨r, hr⟩
    rcases exists_entered hnumber with ⟨t, ht, -⟩
    exact ⟨_, (ruleForm_eq_iff hv hr).2 ⟨t, ht, rfl⟩⟩
  · rintro ⟨q, hq⟩
    exact ⟨_, (ofJson_of_ruleForm hv hq).2⟩
  · rcases (ruleForm_eq_iff hv hr).1 hq with ⟨t, -, rfl⟩
    rfl
  · exact sameAudience_of_entry hv hnumber hr hq hfield now

end Rule

end Outreach
