import Outreach.Proofs.Rule.Meaning
import Outreach.Proofs.Text.Normal

/-!
# Values That Compile Are Whole

A reader of numbers reads its text to the end. What stands for a lone half is no
digit, no sign and in no word, so a value with a lone half denotes no number, and
a rule with such a value does not compile.

## Theorems

* `mem_of_readDigits`: A run of digits leaves everything else behind.
* `readDecimal?_eq_none`, `readWhole_error`: No number holds the mark of a lone
  half.
* `Rule.whole_of_parses`: A value that parses has no lone halves.
-/

namespace Outreach

open Text

/-- The mark that stands for a lone half in a literal. -/
def halfMark : Char := '?'

section Readers

variable {cs : List Char}

/-- A run of digits leaves everything else behind. -/
theorem mem_of_readRun : ∀ (cs : List Char) (afterDigit : Bool), halfMark ∈ cs →
    halfMark ∈ (readRun afterDigit cs).2 := by
  intro cs
  induction cs with
  | nil => exact fun _ h => h
  | cons c rest ih =>
      intro afterDigit h
      rw [readRun]
      cases hdigit : digitValue? c with
      | some d =>
          rcases List.mem_cons.1 h with hc | hrest
          · rw [← hc] at hdigit
            cases hdigit
          · exact ih true hrest
      | none =>
          by_cases hgap : (afterDigit && c == '_' && startsWithDigit rest) = true
          · simp only [hgap, if_true]
            rcases List.mem_cons.1 h with hc | hrest
            -- A mark is no underscore.
            · rw [← hc] at hgap
              cases afterDigit <;> cases hgap
            · exact ih false hrest
          · simp only [hgap]
            exact h

theorem mem_of_readDigits (h : halfMark ∈ cs) : halfMark ∈ (readDigits cs).2 :=
  mem_of_readRun cs false h

theorem mem_of_readSign (h : halfMark ∈ cs) : halfMark ∈ (readSign cs).2 := by
  unfold readSign
  split
  · exact (List.mem_cons.1 h).resolve_left (by decide)
  · exact (List.mem_cons.1 h).resolve_left (by decide)
  · exact h

theorem mem_of_readFraction (h : halfMark ∈ cs) : halfMark ∈ (readFraction cs).2 := by
  unfold readFraction
  split
  · exact mem_of_readDigits ((List.mem_cons.1 h).resolve_left (by decide))
  · exact h

theorem mem_of_readExponent? {exponent : Int} {tail : List Char} (h : halfMark ∈ cs)
    (hread : readExponent? cs = some (exponent, tail)) : halfMark ∈ tail := by
  cases cs with
  | nil => cases h
  | cons c rest =>
      rw [readExponent?] at hread
      by_cases hc : (c == 'e' || c == 'E') = true
      · rw [if_pos hc] at hread
        have hrest : halfMark ∈ rest := by
          refine (List.mem_cons.1 h).resolve_left fun heq => ?_
          rw [← heq] at hc
          cases hc
        have htail := mem_of_readDigits (mem_of_readSign hrest)
        cases hdigits : readDigits (readSign rest).2 with
        | mk ds after =>
            rw [hdigits] at htail
            cases ds with
            | nil =>
                simp only [hdigits] at hread
                cases hread
            | cons d ds =>
                simp only [hdigits, Option.some.injEq, Prod.mk.injEq] at hread
                rw [← hread.2]
                exact htail
      · rw [if_neg hc, Option.some.injEq, Prod.mk.injEq] at hread
        rw [← hread.2]
        exact h

/-- The words for infinity and NaN have no mark in them. -/
theorem readWord?_eq_none (negative : Bool) (h : halfMark ∈ cs) :
    readWord? negative cs = none := by
  have hword : ∀ word : String, halfMark ∉ word.toList →
      (String.ofList (cs.map fun c => if c.toNat < 0x80 then c.toLower else c) == word) = false := by
    intro word hnot
    rw [beq_eq_false_iff_ne]
    rintro rfl
    rw [String.toList_ofList] at hnot
    exact hnot (List.mem_map.2 ⟨halfMark, h, by decide⟩)
  simp only [readWord?, hword "inf" (by decide), hword "infinity" (by decide),
    hword "nan" (by decide), Bool.or_false, Bool.false_eq_true, if_false]

/-- No decimal holds the mark of a lone half. -/
theorem readDecimal?_eq_none (h : halfMark ∈ cs) : readDecimal? cs = none := by
  have hbody := mem_of_readSign h
  have hfraction := mem_of_readFraction (mem_of_readDigits hbody)
  simp only [readDecimal?]
  split
  · exact readWord?_eq_none _ hbody
  · split
    · -- Nothing would be left to read.
      rename_i hread
      exact absurd (mem_of_readExponent? hfraction hread) List.not_mem_nil
    · rfl

/-- Neither does a whole number. -/
theorem readWhole_error (h : halfMark ∈ cs) : ∃ refusal, readWhole cs = .error refusal := by
  have hrest := mem_of_readDigits (mem_of_readSign h)
  simp only [readWhole]
  split
  · exact ⟨_, rfl⟩
  · split
    · exact ⟨_, rfl⟩
    · split
      · rename_i hempty
        rw [List.isEmpty_iff.1 hempty] at hrest
        cases hrest
      · exact ⟨_, rfl⟩

end Readers

namespace Text

/-- A lone half is neither stripped nor overlooked. -/
theorem halfMark_mem_literal {t : Text} (h : ¬t.Whole) : halfMark ∈ t.strip.literal := by
  rw [Whole] at h
  push Not at h
  rcases h with ⟨q, hq, hhalf⟩
  cases q with
  | char c => exact absurd rfl hhalf
  | half k =>
      have hmem : Point.half k ∈ t.strip.trim.points := mem_stripBy rfl (mem_stripBy rfl hq)
      exact List.mem_map.2 ⟨.half k, hmem, rfl⟩

end Text

namespace Rule

theorem whole_of_number {value : Text} {x : Double} (h : number value = .ok x) : value.Whole := by
  by_contra hwhole
  rw [number, readDecimal?_eq_none (halfMark_mem_literal hwhole)] at h
  cases h

theorem whole_of_reference {value : Text} {now t : Timestamp} (h : reference value now = .ok t) :
    value.Whole := by
  by_contra hwhole
  rcases readWhole_error (halfMark_mem_literal hwhole) with ⟨refusal, hrefusal⟩
  rw [reference, dayCount, hrefusal] at h
  cases h

/-- A value that parses has no lone halves. -/
theorem whole_of_parses {now : Timestamp} {r : Rule} (h : r.Parses now) : r.value.Whole := by
  rcases r with ⟨field, operator, value, logic⟩
  cases field with
  | lastVisit =>
      rcases h with ⟨t, ht⟩
      exact whole_of_reference ht
  | totalSpends =>
      rcases h with ⟨x, hx⟩
      exact whole_of_number hx
  | visits =>
      rcases h with ⟨x, hx⟩
      exact whole_of_number hx

/-- Rules that compile have values without lone halves. -/
theorem whole_of_compile {now : Timestamp} {rules : List Rule} {p : Predicate}
    (h : compile rules now = .ok p) : ∀ r ∈ rules, r.value.Whole := by
  intro r hr
  exact whole_of_parses (exists_compile_iff.1 ⟨p, h⟩ r hr)

end Rule

end Outreach
