import Mathlib
import Outreach.Audience.Match

/-!
# Doubles Are Compared Exactly

A double other than NaN has an exact value: a rational number or one of the two
infinities. Ranks stand in the order of these values, so that comparing places,
or an integer with a count of units, compares the values themselves.

## Main definitions

* `Double.value?`: The exact value of a double.

## Theorems

* `units_strictMono`: More rank is more magnitude.
* `Double.compare?_eq`: Two doubles are compared by their values.
* `Double.compareInt?_eq`: So are an integer and a double.
-/

namespace Outreach

theorem units_zero : units 0 = 0 := by
  rw [units, if_pos (twoTo_pos 53)]

theorem units_of_lt {rank : Nat} (h : rank < twoTo 52) : units rank = rank := by
  have htwo : twoTo 53 = twoTo 52 * 2 := twoTo_succ 52
  rw [units, if_pos (by omega)]

/-- The units of a normal rank, by its exponent and the place of its
    significand. -/
theorem units_mul_add {exponent place : Nat} (hplace : place < twoTo 52) :
    units (twoTo 52 * (exponent + 1) + place) = (twoTo 52 + place) * twoTo exponent := by
  have htwo : twoTo 53 = twoTo 52 * 2 := twoTo_succ 52
  have hdiv : (twoTo 52 * (exponent + 1) + place) / twoTo 52 = exponent + 1 := by
    rw [Nat.mul_add_div (twoTo_pos 52), Nat.div_eq_of_lt hplace, Nat.add_zero]
  have hmod : (twoTo 52 * (exponent + 1) + place) % twoTo 52 = place := by
    rw [Nat.mul_add_mod, Nat.mod_eq_of_lt hplace]
  cases exponent with
  | zero =>
      rw [units, if_pos (by omega), Nat.zero_add, Nat.mul_one]
      exact (Nat.mul_one _).symm
  | succ e =>
      have hlarge : ¬twoTo 52 * (e + 1 + 1) + place < twoTo 53 := by
        have hmul : twoTo 52 * (e + 1 + 1) = twoTo 52 * e + twoTo 52 * 2 := Nat.mul_add _ e 2
        omega
      rw [units, if_neg hlarge, hdiv, hmod, Nat.add_sub_cancel]

/-- More rank is more magnitude. -/
theorem units_strictMono : StrictMono units := by
  refine strictMono_nat_of_lt_succ fun n => ?_
  have hpos := twoTo_pos 52
  by_cases hsmall : n < twoTo 52
  -- Below the normal numbers, rank and magnitude are the same.
  · rw [units_of_lt hsmall]
    by_cases hnext : n + 1 < twoTo 52
    · rw [units_of_lt hnext]
      exact Nat.lt_succ_self n
    · have hfirst : units (twoTo 52 * (0 + 1) + 0) = (twoTo 52 + 0) * twoTo 0 := units_mul_add hpos
      rw [Nat.zero_add, Nat.mul_one, Nat.add_zero] at hfirst
      -- The first normal number follows on the last subnormal one.
      have heq : n + 1 = twoTo 52 := by omega
      rw [heq, hfirst, ← heq]
      exact Nat.lt_of_lt_of_eq (Nat.lt_succ_self n) (Nat.mul_one _).symm
  · have hplace := Nat.mod_lt n hpos
    -- From there on a rank is an exponent and the place of a significand.
    have hexponent : 1 ≤ n / twoTo 52 := (Nat.one_le_div_iff hpos).2 (by omega)
    rcases Nat.exists_eq_add_of_le' hexponent with ⟨e, he⟩
    have hn : n = twoTo 52 * (e + 1) + n % twoTo 52 := by
      rw [← he]
      exact (Nat.div_add_mod n _).symm
    generalize n % twoTo 52 = place at hplace hn
    subst hn
    rw [units_mul_add hplace]
    by_cases hnext : place + 1 < twoTo 52
    · rw [Nat.add_assoc, units_mul_add hnext]
      exact Nat.mul_lt_mul_of_pos_right (by omega) (twoTo_pos e)
    · -- The significand starts over, and the exponent grows by one.
      have hcarry : twoTo 52 * (e + 1) + place + 1 = twoTo 52 * (e + 1 + 1) + 0 := by
        rw [Nat.mul_succ (twoTo 52) (e + 1)]
        omega
      rw [hcarry, units_mul_add hpos, Nat.add_zero, twoTo_succ e, Nat.mul_comm (twoTo e) 2,
        ← Nat.mul_assoc]
      exact Nat.mul_lt_mul_of_pos_right (by omega) (twoTo_pos e)

namespace Double

/-- The units of a place in the order. -/
def placeUnits (place : Int) : Int :=
  signed (decide (place < 0)) (units place.natAbs)

theorem placeUnits_strictMono : StrictMono placeUnits := by
  intro p q hpq
  rw [placeUnits, placeUnits]
  by_cases hp : p < 0
  · have hpunits : 0 < units p.natAbs := by
      rw [← units_zero]
      exact units_strictMono (by omega)
    by_cases hq : q < 0
    -- Towards zero, negative magnitudes shrink.
    · have hmono := units_strictMono (show q.natAbs < p.natAbs by omega)
      simp only [hp, hq, decide_true, signed, if_true]
      omega
    · simp only [hp, hq, decide_true, decide_false, signed, if_true, Bool.false_eq_true, if_false]
      omega
  · have hq : ¬q < 0 := by omega
    have hmono := units_strictMono (show p.natAbs < q.natAbs by omega)
    simp only [hp, hq, decide_false, signed, Bool.false_eq_true, if_false]
    omega

theorem placeUnits_signed (negative : Bool) (rank : Nat) :
    placeUnits (signed negative rank) = signed negative (units rank) := by
  cases negative with
  | false =>
      have hnonneg : ¬(rank : Int) < 0 := by omega
      simp only [placeUnits, signed, Bool.false_eq_true, if_false, hnonneg, decide_false,
        Int.natAbs_natCast]
  | true =>
      -- There is but one zero among the values.
      by_cases hzero : rank = 0
      · rw [hzero, units_zero]
        simp only [placeUnits, signed, units_zero, Int.natCast_zero, Int.neg_zero,
          Int.natAbs_zero, ite_self]
      · have hneg : -(rank : Int) < 0 := by omega
        simp only [placeUnits, signed, if_true, hneg, decide_true, Int.natAbs_neg,
          Int.natAbs_natCast]

/-- The exact value of a double; NaN has none. -/
def value? : Double → Option (WithBotTop ℚ)
  | .nan => none
  | .number negative rank _ =>
    if rank = infinityRank then some (if negative then ⊥ else ⊤)
    else some (WithBotTop.coe (signed negative (units rank) / unit))

/-- The value at a place in the order. -/
def placeValue (place : Int) : WithBotTop ℚ :=
  if place = infinityRank then ⊤
  else if place = -infinityRank then ⊥
  else WithBotTop.coe (placeUnits place / unit)

theorem unit_pos : (0 : ℚ) < unit := Nat.cast_pos.2 (twoTo_pos 1074)

theorem placeValue_strictMonoOn :
    StrictMonoOn placeValue (Set.Icc (-infinityRank : Int) infinityRank) := by
  rintro p ⟨hp, -⟩ q ⟨-, hq⟩ hpq
  rw [placeValue, placeValue, if_neg (by omega : ¬p = infinityRank)]
  by_cases hqtop : q = infinityRank
  -- The infinities stand at the two ends of the places.
  · rw [if_pos hqtop]
    by_cases hpbot : p = -infinityRank
    · rw [if_pos hpbot]
      exact bot_lt_top
    · rw [if_neg hpbot]
      exact WithBot.coe_lt_coe.2 (WithTop.coe_lt_top _)
  · rw [if_neg hqtop, if_neg (by omega : ¬q = -infinityRank)]
    by_cases hpbot : p = -infinityRank
    · rw [if_pos hpbot]
      exact WithBot.bot_lt_coe _
    · rw [if_neg hpbot]
      refine WithBotTop.coe_lt_coe.2 ?_
      exact (div_lt_div_iff_of_pos_right unit_pos).2 (Int.cast_lt.2 (placeUnits_strictMono hpq))

theorem infinityRank_pos : 0 < infinityRank :=
  Nat.mul_pos (by decide) (twoTo_pos 52)

theorem value?_eq (x : Double) : x.value? = x.position?.map placeValue := by
  have hpos := infinityRank_pos
  cases x with
  | nan => rfl
  | number negative rank rank_le =>
      rw [value?, position?, Option.map_some, placeValue, placeUnits_signed]
      by_cases htop : rank = infinityRank
      · rw [if_pos htop, htop]
        cases negative with
        | false => simp only [signed, Bool.false_eq_true, if_false, if_true]
        | true =>
            have hne : ¬-(infinityRank : Int) = infinityRank := by omega
            simp only [signed, if_true, hne, if_false]
      · have hne : ¬signed negative rank = infinityRank ∧
            ¬signed negative rank = -infinityRank := by
          cases negative with
          | false =>
              simp only [signed, Bool.false_eq_true, if_false]
              omega
          | true =>
              simp only [signed, if_true]
              omega
        rw [if_neg htop, if_neg hne.1, if_neg hne.2]

theorem position_mem {x : Double} {place : Int} (h : x.position? = some place) :
    place ∈ Set.Icc (-infinityRank : Int) infinityRank := by
  cases x with
  | nan => cases h
  | number negative rank rank_le =>
      injection h with h
      rw [← h, Set.mem_Icc]
      cases negative with
      | false =>
          simp only [signed, Bool.false_eq_true, if_false]
          omega
      | true =>
          simp only [signed, if_true]
          omega

/-- Two doubles are compared by their values. -/
theorem compare?_eq (x y : Double) :
    x.compare? y = x.value?.bind fun a => y.value?.map fun b => cmp a b := by
  rw [compare?, value?_eq, value?_eq]
  cases hx : x.position? with
  | none => rfl
  | some p =>
      cases hy : y.position? with
      | none => rfl
      | some q =>
          -- Comparing places is comparing what stands at them.
          have hcmp := placeValue_strictMonoOn.cmp_map_eq (position_mem hx) (position_mem hy)
          simp only [Option.map_some, Option.bind_some, hcmp]
          rw [cmp_eq_compare]

/-- An integer and a double are compared by their values. -/
theorem compareInt?_eq (n : Int) (x : Double) :
    compareInt? n x = x.value?.map fun b => cmp (WithBotTop.coe (n : ℚ)) b := by
  cases x with
  | nan => rfl
  | number negative rank rank_le =>
      rw [compareInt?, value?]
      by_cases htop : rank = infinityRank
      · rw [if_pos htop, if_pos htop, Option.map_some]
        cases negative with
        | false =>
            have hlt : WithBotTop.coe (n : ℚ) < ⊤ := WithBot.coe_lt_coe.2 (WithTop.coe_lt_top _)
            exact congrArg some ((cmp_eq_lt_iff _ _).2 hlt).symm
        | true =>
            have hlt : ⊥ < WithBotTop.coe (n : ℚ) := WithBot.bot_lt_coe _
            exact congrArg some ((cmp_eq_gt_iff _ _).2 hlt).symm
      · rw [if_neg htop, if_neg htop, Option.map_some]
        refine congrArg some ?_
        -- Both sides are counted in units.
        have hscaled : (n : ℚ) = ((n * unit : Int) : ℚ) / unit := by
          rw [Int.cast_mul, Int.cast_natCast, mul_div_cancel_right₀ _ unit_pos.ne']
        have hdiv : StrictMono fun k : Int => WithBotTop.coe ((k : ℚ) / unit) := by
          intro k l hkl
          exact WithBotTop.coe_lt_coe.2
            ((div_lt_div_iff_of_pos_right unit_pos).2 (Int.cast_lt.2 hkl))
        rw [hscaled, hdiv.cmp_map_eq, cmp_eq_compare]

end Double

end Outreach
