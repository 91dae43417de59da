import Outreach.Number.Literal
import Outreach.Proofs.Number.Nearest

/-!
# Written Numbers

What may be written for a number, as a grammar, and what it stands for. A whole
number is an optional sign and a run of digits, which may be of any script and may
have single underscores between them. A decimal has an optional fraction and an
optional exponent besides, and a digit on at least one side of its point.

The readers accept just what the grammar derives, and a decimal is read as the double
that is nearest to its exact value.

## Main definitions

* `DigitRun`, `SignText`, `FractionText`, `ExponentText`: The parts of a number.
* `WholeText`, `DecimalText`: Whole numbers and decimals.
* `WordText`: The words for infinity and NaN.
* `Decimal.value`: The exact value of a decimal.

## Theorems

* `readWhole_eq_ok_iff`, `readDecimal?_eq_finite_iff`: What the readers accept.
* `Decimal.rounds_toDouble`: A decimal is rounded once.
-/

namespace Outreach

open Text

/-! ## Grammar -/

/-- A run of digits with the values of the digits. A single underscore may stand
    between two of them. -/
inductive DigitRun : List Char → List Nat → Prop
  | last {c : Char} {d : Nat} (h : digitValue? c = some d) : DigitRun [c] [d]
  | next {c : Char} {d : Nat} {cs : List Char} {ds : List Nat} (h : digitValue? c = some d)
      (rest : DigitRun cs ds) : DigitRun (c :: cs) (d :: ds)
  | apart {c : Char} {d : Nat} {cs : List Char} {ds : List Nat} (h : digitValue? c = some d)
      (rest : DigitRun cs ds) : DigitRun (c :: '_' :: cs) (d :: ds)

/-- An optional sign, true for minus. -/
inductive SignText : List Char → Bool → Prop
  | absent : SignText [] false
  | plus : SignText ['+'] false
  | minus : SignText ['-'] true

/-- A run of digits, or none. -/
inductive OptionalRun : List Char → List Nat → Prop
  | absent : OptionalRun [] []
  | present {cs : List Char} {ds : List Nat} (run : DigitRun cs ds) : OptionalRun cs ds

/-- An optional point with an optional run of digits behind it. -/
inductive FractionText : List Char → List Nat → Prop
  | absent : FractionText [] []
  | point {cs : List Char} {ds : List Nat} (run : OptionalRun cs ds) : FractionText ('.' :: cs) ds

/-- An optional exponent. -/
inductive ExponentText : List Char → Int → Prop
  | absent : ExponentText [] 0
  | present {letter : Char} {sign cs : List Char} {negative : Bool} {ds : List Nat}
      (hletter : letter = 'e' ∨ letter = 'E') (hsign : SignText sign negative)
      (run : DigitRun cs ds) :
      ExponentText (letter :: (sign ++ cs)) (Double.signed negative (ofDigits ds))

/-- A whole number: its sign and its digits. -/
inductive WholeText : List Char → Bool → List Nat → Prop
  | mk {sign cs : List Char} {negative : Bool} {ds : List Nat} (hsign : SignText sign negative)
      (run : DigitRun cs ds) : WholeText (sign ++ cs) negative ds

/-- A decimal, with a digit on at least one side of the point. -/
inductive DecimalText : List Char → Decimal → Prop
  | mk {sign whole fraction power : List Char} {negative : Bool} {ds es : List Nat}
      {exponent : Int} (hsign : SignText sign negative) (hwhole : OptionalRun whole ds)
      (hfraction : FractionText fraction es) (hpower : ExponentText power exponent)
      (hdigits : ds ++ es ≠ []) :
      DecimalText (sign ++ (whole ++ (fraction ++ power)))
        ⟨negative, ds ++ es, exponent - es.length⟩

/-- A word for infinity or NaN in any case, with an optional sign. -/
inductive WordText : List Char → Prop
  | mk {sign word : List Char} {negative : Bool} (hsign : SignText sign negative)
      (hword : String.ofList (word.map Char.toLower) ∈ ["inf", "infinity", "nan"]) :
      WordText (sign ++ word)

/-! ## Digits -/

theorem digitValue?_lt {c : Char} {d : Nat} (h : digitValue? c = some d) : d < 10 := by
  simp only [digitValue?] at h
  split at h
  · split at h
    · injection h with h
      omega
    · cases h
  · rw [Option.map_eq_some_iff] at h
    rcases h with ⟨first, hfirst, rfl⟩
    have hrange := List.find?_some hfirst
    rw [Bool.and_eq_true, decide_eq_true_eq, decide_eq_true_eq] at hrange
    omega

theorem DigitRun.lt {cs : List Char} {ds : List Nat} (h : DigitRun cs ds) : ∀ d ∈ ds, d < 10 := by
  induction h with
  | last h => exact List.forall_mem_singleton.2 (digitValue?_lt h)
  | next h _ ih => exact List.forall_mem_cons.2 ⟨digitValue?_lt h, ih⟩
  | apart h _ ih => exact List.forall_mem_cons.2 ⟨digitValue?_lt h, ih⟩

theorem DigitRun.ne_nil {cs : List Char} {ds : List Nat} (h : DigitRun cs ds) : ds ≠ [] := by
  cases h <;> exact List.cons_ne_nil _ _

/-- A run of digits begins with one. -/
theorem DigitRun.exists_cons {cs : List Char} {ds : List Nat} (h : DigitRun cs ds) :
    ∃ c rest d, cs = c :: rest ∧ digitValue? c = some d := by
  cases h with
  | last h => exact ⟨_, _, _, rfl, h⟩
  | next h _ => exact ⟨_, _, _, rfl, h⟩
  | apart h _ => exact ⟨_, _, _, rfl, h⟩

theorem DigitRun.startsWithDigit {cs : List Char} {ds : List Nat} (h : DigitRun cs ds)
    (rest : List Char) : startsWithDigit (cs ++ rest) = true := by
  rcases h.exists_cons with ⟨c, tail, d, rfl, hc⟩
  exact Option.isSome_iff_exists.2 ⟨d, hc⟩

/-- A list at which a run of digits ends. -/
def EndsRun (rest : List Char) : Prop := readRun true rest = ([], rest)

theorem endsRun_nil : EndsRun [] := rfl

theorem endsRun_cons {c : Char} (rest : List Char) (hdigit : digitValue? c = none)
    (hgap : c ≠ '_') :
    EndsRun (c :: rest) := by
  rw [EndsRun, readRun, hdigit]
  simp only [beq_eq_false_iff_ne.2 hgap, Bool.and_false, Bool.false_and, Bool.false_eq_true,
    if_false]

/-- A whole run is read. -/
theorem DigitRun.read {cs : List Char} {ds : List Nat} (h : DigitRun cs ds) {rest : List Char}
    (hrest : EndsRun rest) : ∀ afterDigit, readRun afterDigit (cs ++ rest) = (ds, rest) := by
  rw [EndsRun] at hrest
  induction h with
  | last h =>
      intro afterDigit
      rw [List.singleton_append, readRun, h]
      simp only [hrest]
  | next h _ ih =>
      intro afterDigit
      rw [List.cons_append, readRun, h]
      simp only [ih]
  | apart h run ih =>
      intro afterDigit
      have hgap : digitValue? '_' = none := by decide
      rw [List.cons_append, readRun, h, List.cons_append, readRun, hgap]
      simp only [run.startsWithDigit, ih, beq_self_eq_true, Bool.and_self, if_true]

/-- What is read is a run, perhaps behind an underscore. -/
theorem run_of_readRun : ∀ (cs : List Char) (afterDigit : Bool),
    ((readRun afterDigit cs).1 = [] ∧ (readRun afterDigit cs).2 = cs) ∨
      (∃ run, cs = run ++ (readRun afterDigit cs).2 ∧ DigitRun run (readRun afterDigit cs).1) ∨
      afterDigit = true ∧
        ∃ run, cs = '_' :: (run ++ (readRun afterDigit cs).2) ∧
          DigitRun run (readRun afterDigit cs).1 := by
  intro cs
  induction cs with
  | nil => exact fun _ => .inl ⟨rfl, rfl⟩
  | cons c rest ih =>
      intro afterDigit
      cases hdigit : digitValue? c with
      | some d =>
          have hread : readRun afterDigit (c :: rest) =
              (d :: (readRun true rest).1, (readRun true rest).2) := by rw [readRun, hdigit]
          rw [hread]
          refine .inr (.inl ?_)
          rcases ih true with ⟨hnone, hrest⟩ | ⟨run, hrun, hdigits⟩ | ⟨-, run, hrun, hdigits⟩
          · rw [hnone, hrest]
            exact ⟨[c], rfl, .last hdigit⟩
          · exact ⟨c :: run, congrArg (c :: ·) hrun, .next hdigit hdigits⟩
          · exact ⟨c :: '_' :: run, congrArg (c :: ·) hrun, .apart hdigit hdigits⟩
      | none =>
          rw [readRun, hdigit]
          by_cases hgap : (afterDigit && c == '_' && startsWithDigit rest) = true
          · simp only [hgap, if_true]
            rw [Bool.and_eq_true, Bool.and_eq_true, beq_iff_eq] at hgap
            rcases hgap with ⟨⟨hafter, rfl⟩, hstart⟩
            refine .inr (.inr ⟨hafter, ?_⟩)
            rcases ih false with ⟨hnone, -⟩ | ⟨run, hrun, hdigits⟩ | ⟨hfalse, -⟩
            -- A digit follows the underscore, so something is read.
            · cases rest with
              | nil => cases hstart
              | cons c rest =>
                  rcases Option.isSome_iff_exists.1 hstart with ⟨d, hd⟩
                  rw [readRun, hd] at hnone
                  cases hnone
            · exact ⟨run, congrArg ('_' :: ·) hrun, hdigits⟩
            · cases hfalse
          · simp only [hgap]
            exact .inl ⟨rfl, rfl⟩

/-- What is read at the start of a list is a run of digits or nothing. -/
theorem optionalRun_of_readDigits (cs : List Char) :
    ∃ run, cs = run ++ (readDigits cs).2 ∧ OptionalRun run (readDigits cs).1 := by
  rw [readDigits]
  rcases run_of_readRun cs false with ⟨hnone, hrest⟩ | ⟨run, hrun, hdigits⟩ | ⟨hfalse, -⟩
  · rw [hnone, hrest]
    exact ⟨[], rfl, .absent⟩
  · exact ⟨run, hrun, .present hdigits⟩
  · cases hfalse

theorem OptionalRun.read {cs : List Char} {ds : List Nat} (h : OptionalRun cs ds)
    {rest : List Char} (hrest : EndsRun rest) (hstart : startsWithDigit rest = false) :
    readDigits (cs ++ rest) = (ds, rest) := by
  cases h with
  | present run => exact run.read hrest false
  | absent =>
      cases rest with
      | nil => rfl
      | cons c rest =>
          rw [startsWithDigit, Option.isSome_eq_false_iff, Option.isNone_iff_eq_none] at hstart
          rw [List.nil_append, readDigits, readRun, hstart]
          rfl

theorem OptionalRun.run {cs : List Char} {ds : List Nat} (h : OptionalRun cs ds) (hne : ds ≠ []) :
    DigitRun cs ds := by
  cases h with
  | absent => exact absurd rfl hne
  | present run => exact run

theorem OptionalRun.lt {cs : List Char} {ds : List Nat} (h : OptionalRun cs ds) :
    ∀ d ∈ ds, d < 10 := by
  cases h with
  | absent => exact fun d hd => absurd hd List.not_mem_nil
  | present run => exact run.lt

/-! ## Readers -/

theorem SignText.read {sign : List Char} {negative : Bool} (h : SignText sign negative)
    {body : List Char} (hbody : ∀ c ∈ body.head?, c ≠ '-' ∧ c ≠ '+') :
    readSign (sign ++ body) = (negative, body) := by
  cases h with
  | plus => rfl
  | minus => rfl
  | absent =>
      rw [List.nil_append]
      unfold readSign
      split
      · exact absurd rfl (hbody _ rfl).1
      · exact absurd rfl (hbody _ rfl).2
      · rfl

theorem signText_of_readSign (cs : List Char) :
    ∃ sign, cs = sign ++ (readSign cs).2 ∧ SignText sign (readSign cs).1 := by
  unfold readSign
  split
  · exact ⟨['-'], rfl, .minus⟩
  · exact ⟨['+'], rfl, .plus⟩
  · exact ⟨[], rfl, .absent⟩

theorem ne_sign_of_digit {c : Char} {d : Nat} (h : digitValue? c = some d) : c ≠ '-' ∧ c ≠ '+' := by
  constructor <;> rintro rfl <;> cases h

theorem DigitRun.ne_sign {cs : List Char} {ds : List Nat} (h : DigitRun cs ds) (rest : List Char) :
    ∀ c ∈ (cs ++ rest).head?, c ≠ '-' ∧ c ≠ '+' := by
  rcases h.exists_cons with ⟨c, tail, d, rfl, hc⟩
  rintro c' ⟨⟩
  exact ne_sign_of_digit hc

/-- A text is read as a whole number just if it is written as one, with no more digits than
    are allowed. -/
theorem readWhole_eq_ok_iff {cs : List Char} {n : Int} :
    readWhole cs = .ok n ↔
      ∃ negative ds, WholeText cs negative ds ∧ ds.length ≤ wholeDigitLimit ∧
        n = Double.signed negative (ofDigits ds) := by
  constructor
  · intro h
    rcases signText_of_readSign cs with ⟨sign, hsign, hsigned⟩
    rcases optionalRun_of_readDigits (readSign cs).2 with ⟨run, hrun, hdigits⟩
    simp only [readWhole] at h
    split at h
    · cases h
    · next hmalformed =>
      split at h
      · cases h
      · next hlength =>
        split at h
        · next hrest =>
          cases h
          rw [List.isEmpty_iff.1 hrest, List.append_nil] at hrun
          have hne : (readDigits (readSign cs).2).1 ≠ [] := by
            intro hnil
            rw [hnil] at hmalformed
            exact hmalformed rfl
          refine ⟨_, _, ?_, Nat.not_lt.1 hlength, rfl⟩
          have hwhole := WholeText.mk hsigned (hdigits.run hne)
          rwa [← hrun, ← hsign] at hwhole
        · cases h
  · rintro ⟨negative, ds, ⟨hsign, run⟩, hlength, rfl⟩
    have hstart := hsign.read (run.ne_sign [])
    have hdigits := run.read endsRun_nil false
    rw [List.append_nil] at hstart hdigits
    have hne : ds.isEmpty = false := List.isEmpty_eq_false_iff.2 run.ne_nil
    simp only [readWhole, hstart, readDigits, hdigits, hne, if_neg (Nat.not_lt.2 hlength)]
    rfl

theorem FractionText.read {cs : List Char} {ds : List Nat} (h : FractionText cs ds)
    {rest : List Char} (hrest : EndsRun rest) (hstart : startsWithDigit rest = false)
    (hpoint : rest.head? ≠ some '.') : readFraction (cs ++ rest) = (ds, rest) := by
  cases h with
  | point run => exact run.read hrest hstart
  | absent =>
      rw [List.nil_append]
      unfold readFraction
      split
      · exact absurd rfl hpoint
      · rfl

theorem fractionText_of_readFraction (cs : List Char) :
    ∃ fraction, cs = fraction ++ (readFraction cs).2 ∧
      FractionText fraction (readFraction cs).1 := by
  unfold readFraction
  split
  · next rest =>
    rcases optionalRun_of_readDigits rest with ⟨run, hrun, hdigits⟩
    exact ⟨'.' :: run, congrArg ('.' :: ·) hrun, .point hdigits⟩
  · exact ⟨[], rfl, .absent⟩

theorem ExponentText.read {cs : List Char} {exponent : Int} (h : ExponentText cs exponent) :
    readExponent? cs = some (exponent, []) := by
  cases h with
  | absent => rfl
  | @present letter sign cs negative ds hletter hsign run =>
      have hstart := hsign.read (run.ne_sign [])
      have hdigits := run.read endsRun_nil false
      rw [List.append_nil] at hstart hdigits
      have he : (letter == 'e' || letter == 'E') = true := by
        rcases hletter with rfl | rfl <;> rfl
      rw [readExponent?, if_pos he]
      simp only [hstart, readDigits, hdigits]
      cases ds with
      | nil => exact absurd rfl run.ne_nil
      | cons d ds => rfl

theorem exponentText_of_readExponent? {cs : List Char} {exponent : Int}
    (h : readExponent? cs = some (exponent, [])) : ExponentText cs exponent := by
  cases cs with
  | nil =>
      cases h
      exact .absent
  | cons c rest =>
      rw [readExponent?] at h
      split at h
      · next he =>
        rcases signText_of_readSign rest with ⟨sign, hsign, hsigned⟩
        rcases optionalRun_of_readDigits (readSign rest).2 with ⟨run, hrun, hdigits⟩
        have hletter : c = 'e' ∨ c = 'E' := by
          rwa [Bool.or_eq_true, beq_iff_eq, beq_iff_eq] at he
        cases hread : readDigits (readSign rest).2 with
        | mk ds tail =>
            rw [hread] at hrun hdigits
            simp only [hread] at h
            cases ds with
            | nil => cases h
            | cons d ds =>
                simp only [Option.some.injEq, Prod.mk.injEq] at h
                rcases h with ⟨rfl, rfl⟩
                rw [List.append_nil] at hrun
                have hpower := ExponentText.present hletter hsigned
                  (hdigits.run (List.cons_ne_nil _ _))
                rwa [← hrun, ← hsign] at hpower
      · cases h

/-- Where an exponent begins or a number ends, a run of digits ends. -/
theorem ExponentText.ends {cs : List Char} {exponent : Int} (h : ExponentText cs exponent) :
    EndsRun cs ∧ startsWithDigit cs = false ∧ cs.head? ≠ some '.' := by
  cases h with
  | absent => exact ⟨endsRun_nil, rfl, nofun⟩
  | present hletter _ _ =>
      rcases hletter with rfl | rfl
      · exact ⟨endsRun_cons _ (by decide) (by decide), rfl, by simp⟩
      · exact ⟨endsRun_cons _ (by decide) (by decide), rfl, by simp⟩

/-- So it does where a fraction begins. -/
theorem FractionText.ends {cs power : List Char} {ds : List Nat} {exponent : Int}
    (h : FractionText cs ds) (hpower : ExponentText power exponent) :
    EndsRun (cs ++ power) ∧ startsWithDigit (cs ++ power) = false := by
  cases h with
  | absent => exact ⟨hpower.ends.1, hpower.ends.2.1⟩
  | point _ => exact ⟨endsRun_cons _ (by decide) (by decide), rfl⟩

/-- A number without digits before its point begins with the point. -/
theorem ne_sign_of_decimal {whole fraction power : List Char} {ds es : List Nat}
    (hwhole : OptionalRun whole ds) (hfraction : FractionText fraction es) (hne : ds ++ es ≠ []) :
    ∀ c ∈ (whole ++ (fraction ++ power)).head?, c ≠ '-' ∧ c ≠ '+' := by
  cases hwhole with
  | present run => exact run.ne_sign _
  | absent =>
      cases hfraction with
      | absent => exact absurd rfl hne
      | point _ =>
          rintro c ⟨⟩
          decide

/-- A text is read as a decimal just if it is written as one. -/
theorem readDecimal?_eq_finite_iff {cs : List Char} {d : Decimal} :
    readDecimal? cs = some (.finite d) ↔ DecimalText cs d := by
  constructor
  · intro h
    rcases signText_of_readSign cs with ⟨sign, hsign, hsigned⟩
    rcases optionalRun_of_readDigits (readSign cs).2 with ⟨whole, hwhole, hdigits⟩
    rcases fractionText_of_readFraction (readDigits (readSign cs).2).2 with
      ⟨fraction, hfraction, hmore⟩
    simp only [readDecimal?] at h
    split at h
    · -- A word is no decimal.
      simp only [readWord?] at h
      split at h
      · cases h
      · split at h <;> cases h
    · next hsome =>
      split at h
      · next exponent hexponent =>
        cases h
        have hpower := exponentText_of_readExponent? hexponent
        have hne : (readDigits (readSign cs).2).1 ++
            (readFraction (readDigits (readSign cs).2).2).1 ≠ [] := by
          rwa [ne_eq, List.append_eq_nil_iff, ← List.isEmpty_iff, ← List.isEmpty_iff,
            ← Bool.and_eq_true]
        have hdecimal := DecimalText.mk hsigned hdigits hmore hpower hne
        rwa [← hfraction, ← hwhole, ← hsign] at hdecimal
      · cases h
  · intro h
    cases h with
    | @mk sign whole fraction power negative ds es exponent hsign hwhole hfraction hpower hne =>
        have hends := hfraction.ends hpower
        have hstop := hpower.ends
        have hsome : ¬(ds.isEmpty && es.isEmpty) = true := by
          rwa [Bool.and_eq_true, List.isEmpty_iff, List.isEmpty_iff, ← List.append_eq_nil_iff]
        simp only [readDecimal?, hsign.read (ne_sign_of_decimal hwhole hfraction hne),
          hwhole.read hends.1 hends.2, hfraction.read hstop.1 hstop.2.1 hstop.2.2, hpower.read,
          if_neg hsome]

/-- Only letters of ASCII are lowered. -/
theorem toLower_of_not_ascii {c : Char} (hc : ¬c.toNat < 0x80) : c.toLower = c := by
  have hupper : ¬(c.val ≥ 'A'.val ∧ c.val ≤ 'Z'.val) := by
    intro hrange
    have hle : c.val.toNat ≤ 'Z'.val.toNat := hrange.2
    exact hc (Nat.lt_of_le_of_lt hle (by decide))
  rw [Char.toLower, dif_neg hupper]

/-- The letters that the words for infinity and NaN begin with are nothing else. -/
theorem plain_of_toLower {c : Char} (h : c.toLower = 'i' ∨ c.toLower = 'n') :
    digitValue? c = none ∧ c ≠ '.' ∧ c ≠ '-' ∧ c ≠ '+' := by
  have hascii : ∀ n < 0x80, (Char.ofNat n).toLower = 'i' ∨ (Char.ofNat n).toLower = 'n' →
      digitValue? (Char.ofNat n) = none ∧ Char.ofNat n ≠ '.' ∧ Char.ofNat n ≠ '-' ∧
        Char.ofNat n ≠ '+' := by decide +kernel
  by_cases hc : c.toNat < 0x80
  · have hself := hascii c.toNat hc
    rw [Char.ofNat_toNat] at hself
    exact hself h
  · rw [toLower_of_not_ascii hc] at h
    rcases h with rfl | rfl <;> exact absurd (by decide) hc

/-- A word is read as no decimal. -/
theorem WordText.read {cs : List Char} (h : WordText cs) :
    ∃ numeral, readDecimal? cs = some numeral ∧ numeral.toDouble.isFinite = false := by
  rcases h with @⟨sign, word, negative, hsign, hword⟩
  have hlower : (word.map fun c => if c.toNat < 0x80 then c.toLower else c) =
      word.map Char.toLower := by
    refine List.map_congr_left fun c _ => ?_
    split
    · rfl
    · next hc => exact (toLower_of_not_ascii hc).symm
  have hfirst : ∃ c rest, word = c :: rest ∧ (c.toLower = 'i' ∨ c.toLower = 'n') := by
    have hlist : word.map Char.toLower ∈ ["inf".toList, "infinity".toList, "nan".toList] := by
      simp only [List.mem_cons, List.not_mem_nil, or_false] at hword ⊢
      rcases hword with h | h | h
      · exact .inl (by rw [← h, String.toList_ofList])
      · exact .inr (.inl (by rw [← h, String.toList_ofList]))
      · exact .inr (.inr (by rw [← h, String.toList_ofList]))
    cases word with
    | nil => exact absurd hlist (by decide)
    | cons c rest =>
        refine ⟨c, rest, rfl, ?_⟩
        simp only [List.map_cons, List.mem_cons, List.not_mem_nil, or_false] at hlist
        rcases hlist with h | h | h
        · exact .inl (List.cons.inj h).1
        · exact .inl (List.cons.inj h).1
        · exact .inr (List.cons.inj h).1
  rcases hfirst with ⟨c, rest, rfl, hletter⟩
  have hplain := plain_of_toLower hletter
  have hstart : readSign (sign ++ c :: rest) = (negative, c :: rest) :=
    hsign.read (by rintro _ ⟨⟩; exact hplain.2.2)
  have hdigits : readDigits (c :: rest) = ([], c :: rest) := by
    rw [readDigits, readRun, hplain.1]
    rfl
  have hfraction : readFraction (c :: rest) = ([], c :: rest) := by
    unfold readFraction
    split
    · next heq => exact absurd (List.cons.inj heq).1 hplain.2.1
    · rfl
  simp only [readDecimal?, hstart, hdigits, hfraction, List.isEmpty_nil, Bool.and_self, if_true,
    readWord?, hlower, beq_iff_eq]
  split
  · exact ⟨_, rfl, rfl⟩
  · next hinfinite =>
    split
    · exact ⟨_, rfl, rfl⟩
    · next hnan =>
      simp only [List.mem_cons, List.not_mem_nil, or_false] at hword
      rw [Bool.or_eq_true, beq_iff_eq, beq_iff_eq, not_or] at hinfinite
      rcases hword with h | h | h
      · exact absurd h hinfinite.1
      · exact absurd h hinfinite.2
      · exact absurd h hnan

/-! ## Values -/

theorem ofDigits_snoc (ds : List Nat) (d : Nat) : ofDigits (ds ++ [d]) = 10 * ofDigits ds + d := by
  rw [ofDigits, List.foldl_append]
  rfl

theorem ofDigits_append (ds es : List Nat) :
    ofDigits (ds ++ es) = ofDigits ds * 10 ^ es.length + ofDigits es := by
  induction es using List.reverseRecOn with
  | nil => simp only [List.append_nil, List.length_nil, pow_zero, mul_one, ofDigits, List.foldl_nil,
      add_zero]
  | append_singleton es d ih =>
      rw [← List.append_assoc, ofDigits_snoc, ofDigits_snoc, ih, List.length_append,
        List.length_singleton, pow_succ]
      ring

theorem ofDigits_cons (d : Nat) (ds : List Nat) :
    ofDigits (d :: ds) = d * 10 ^ ds.length + ofDigits ds := by
  have hone : ofDigits [d] = d := by rw [← List.nil_append [d], ofDigits_snoc]; exact Nat.zero_add d
  rw [← List.singleton_append, ofDigits_append, hone]

theorem ofDigits_lt {ds : List Nat} (h : ∀ d ∈ ds, d < 10) : ofDigits ds < 10 ^ ds.length := by
  induction ds using List.reverseRecOn with
  | nil => exact Nat.one_pos
  | append_singleton ds d ih =>
      rw [List.forall_mem_append, List.forall_mem_singleton] at h
      have hrest := ih h.1
      rw [ofDigits_snoc, List.length_append, List.length_singleton, pow_succ]
      omega

/-- Zeros in front do not count. -/
theorem ofDigits_dropWhile (ds : List Nat) : ofDigits (ds.dropWhile (· == 0)) = ofDigits ds := by
  induction ds with
  | nil => rfl
  | cons d ds ih =>
      rw [List.dropWhile_cons]
      split
      · next hzero =>
        rw [beq_iff_eq] at hzero
        rw [ih, hzero, ofDigits_cons, Nat.zero_mul, Nat.zero_add]
      · rfl

/-- Without zeros in front, every digit counts. -/
theorem le_ofDigits {ds : List Nat} (hne : ds ≠ []) (hfirst : ∀ d ∈ ds.head?, d ≠ 0) :
    10 ^ (ds.length - 1) ≤ ofDigits ds := by
  cases ds with
  | nil => exact absurd rfl hne
  | cons d ds =>
      have hd : 1 ≤ d := Nat.one_le_iff_ne_zero.2 (hfirst d rfl)
      rw [ofDigits_cons, List.length_cons, Nat.add_sub_cancel]
      exact Nat.le_trans (Nat.le_mul_of_pos_left _ hd) (Nat.le_add_right _ _)

theorem twoTo_le_tenTo (n : Nat) : twoTo (3 * n) ≤ tenTo n := by
  rw [twoTo_eq, pow_mul]
  exact Nat.pow_le_pow_left (by decide) n

namespace Double

/-- A magnitude of half a unit or less rounds to zero. -/
theorem ofUnits_eq_zero {negative : Bool} {num den : Nat} (hden : 0 < den) (h : 2 * num ≤ den) :
    ofUnits negative num den = ofRank negative 0 := by
  have hback : readsBack 0 ⟨num, den⟩ = true := by
    have hone : units 1 = 1 := units_of_lt (by decide)
    rw [readsBack_iff]
    simp only [units_zero, hone, Nat.zero_sub, Nat.zero_add, Nat.zero_mul, Nat.one_mul]
    omega
  rw [ofUnits, (readsBack_iff_rankNearest hden).1 hback]

theorem rounds_zero (negative : Bool) : (ofRank negative 0).Rounds negative 0 := by
  have hself := rounds_ofRatio negative 0 Nat.one_pos
  rwa [ofRatio, Nat.zero_mul, ofUnits_eq_zero Nat.one_pos (Nat.zero_le _), Nat.cast_zero,
    zero_div] at hself

theorem overflow_le : overflow ≤ 10 ^ 400 := by
  have hpow : (2 : ℚ) ^ 970 ≥ 0 := by positivity
  calc overflow ≤ 2 ^ 1024 := sub_le_self _ hpow
    _ ≤ 2 ^ (3 * 400) := pow_le_pow_right₀ (by norm_num) (by norm_num)
    _ = (2 ^ 3) ^ 400 := pow_mul 2 3 400
    _ ≤ 10 ^ 400 := pow_le_pow_left₀ (by norm_num) (by norm_num) 400

theorem two_mul_unit_le : 2 * unit ≤ tenTo 401 := by
  have hunit : 2 * unit = twoTo 1075 := by rw [twoTo_succ 1074, Nat.mul_comm, unit]
  have hplaces : twoTo 1075 ≤ twoTo (3 * 401) := twoTo_mono (by decide)
  rw [hunit]
  exact hplaces.trans (twoTo_le_tenTo 401)

/-- The double nearest to `n * 10 ^ place` for a number of `length` digits. -/
theorem rounds_nearestDouble (negative : Bool) {n length : Nat} (place : Int)
    (hleast : n ≠ 0 → 10 ^ (length - 1) ≤ n) (hmost : n < 10 ^ length) :
    (nearestDouble negative n place length).Rounds negative (n * 10 ^ place) := by
  unfold nearestDouble
  split
  · next hzero =>
    rw [hzero, Nat.cast_zero, zero_mul]
    exact rounds_zero negative
  · next hne =>
    have hlength : 0 < length := by
      rcases Nat.eq_zero_or_pos length with rfl | hpos
      · rw [pow_zero] at hmost
        omega
      · exact hpos
    split
    · next hbig =>
      refine rounds_infinity negative (overflow_le.trans ?_)
      have hn : (10 : ℚ) ^ ((length : Int) - 1) ≤ n := by
        rw [← Nat.cast_pred hlength, zpow_natCast]
        exact_mod_cast hleast hne
      calc (10 : ℚ) ^ 400 = 10 ^ (400 : Int) := by rw [← zpow_natCast]; rfl
        _ ≤ 10 ^ ((length : Int) - 1 + place) := zpow_le_zpow_right₀ (by norm_num) (by omega)
        _ = 10 ^ ((length : Int) - 1) * 10 ^ place := zpow_add₀ (by norm_num) _ _
        _ ≤ n * 10 ^ place := mul_le_mul_of_nonneg_right hn (by positivity)
    · split
      · next hsmall =>
        obtain ⟨p, rfl⟩ : ∃ p, place = .negSucc p := by
          cases place with
          | ofNat p =>
              have hplace : (0 : Int) ≤ .ofNat p := Int.natCast_nonneg p
              omega
          | negSucc p => exact ⟨p, rfl⟩
        have hself := rounds_ofRatio negative n (tenTo_pos (p + 1))
        have htiny : 2 * (n * unit) ≤ tenTo (p + 1) := by
          have hplaces : length + 401 ≤ p + 1 := by omega
          calc 2 * (n * unit) = n * (2 * unit) := by ring
            _ ≤ tenTo length * tenTo 401 := Nat.mul_le_mul hmost.le two_mul_unit_le
            _ = tenTo (length + 401) := (tenTo_add _ _).symm
            _ ≤ tenTo (p + 1) := Nat.pow_le_pow_right (by decide) hplaces
        rw [ofRatio, ofUnits_eq_zero (tenTo_pos _) htiny, cast_tenTo] at hself
        rwa [zpow_negSucc, ← div_eq_mul_inv]
      · cases place with
        | ofNat p =>
            have hself := rounds_ofRatio negative (n * tenTo p) Nat.one_pos
            rwa [Nat.cast_one, div_one, Nat.cast_mul, cast_tenTo] at hself
        | negSucc p =>
            have hself := rounds_ofRatio negative n (tenTo_pos (p + 1))
            rwa [cast_tenTo] at hself

end Double

namespace Decimal

/-- The exact magnitude of a decimal. -/
def magnitude (d : Decimal) : ℚ := ofDigits d.digits * 10 ^ d.place

/-- The exact value of a decimal. -/
def value (d : Decimal) : ℚ := Double.factor d.negative * d.magnitude

theorem magnitude_nonneg (d : Decimal) : 0 ≤ d.magnitude := by
  rw [magnitude]
  positivity

theorem abs_value (d : Decimal) : |d.value| = d.magnitude := by
  rw [value, abs_mul, Double.abs_factor, one_mul, abs_of_nonneg d.magnitude_nonneg]

/-- The value of a decimal without a fraction is an integer. -/
theorem value_whole (negative : Bool) (ds : List Nat) :
    value ⟨negative, ds, 0⟩ = (Double.signed negative (ofDigits ds) : Int) := by
  rw [value, magnitude, zpow_zero, mul_one, Double.cast_signed]

/-- A decimal is rounded once, and correctly. -/
theorem rounds_toDouble {d : Decimal} (h : ∀ n ∈ d.digits, n < 10) :
    d.toDouble.Rounds d.negative d.magnitude := by
  have hdigits : ∀ n ∈ d.digits.dropWhile (· == 0), n < 10 :=
    fun n hn => h n ((List.dropWhile_sublist _).subset hn)
  rw [toDouble, magnitude, ← ofDigits_dropWhile d.digits]
  refine Double.rounds_nearestDouble _ _ (fun hne => le_ofDigits ?_ ?_) (ofDigits_lt hdigits)
  · intro hnil
    rw [hnil] at hne
    exact hne rfl
  · intro n hn
    have hfirst := List.head?_dropWhile_not (· == 0) d.digits
    rw [Option.mem_def.1 hn] at hfirst
    exact beq_eq_false_iff_ne.1 hfirst

end Decimal

theorem DecimalText.lt {cs : List Char} {d : Decimal} (h : DecimalText cs d) :
    ∀ n ∈ d.digits, n < 10 := by
  cases h with
  | mk _ hwhole hfraction _ _ =>
      refine List.forall_mem_append.2 ⟨hwhole.lt, ?_⟩
      cases hfraction with
      | absent => exact fun n hn => absurd hn List.not_mem_nil
      | point run => exact run.lt

/-- A whole number is a decimal. -/
theorem WholeText.decimalText {cs : List Char} {negative : Bool} {ds : List Nat}
    (h : WholeText cs negative ds) : DecimalText cs ⟨negative, ds, 0⟩ := by
  rcases h with @⟨sign, run, _, _, hsign, hrun⟩
  have htext := DecimalText.mk hsign (.present hrun) .absent .absent
    (List.append_ne_nil_of_left_ne_nil hrun.ne_nil _)
  rwa [List.append_nil, List.append_nil, List.append_nil] at htext

end Outreach
