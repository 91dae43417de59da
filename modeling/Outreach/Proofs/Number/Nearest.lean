import Outreach.Number.Shortest
import Outreach.Proofs.Number.Order

/-!
# The Nearest Double

Rounding a ratio gives the double whose exact value is nearest to it. Between two
that are equally near, the one with the even significand is taken, and a magnitude
from the midpoint behind the last double on is beyond every double.

A ratio rounds to a rank just if it lies between the midpoints to both neighbours.
These intervals follow on each other without gap and without overlap, because a
midpoint belongs to the even one of its two ranks.

## Main definitions

* `Double.real`: The exact value of a finite double.
* `Double.Nearest`: A double that is nearest to a number.
* `Double.overflow`: The least magnitude beyond every double.
* `Double.Rounds`: A magnitude with a sign, rounded.

## Theorems

* `units_scaled`: The magnitude of a rank, by its binary place and its significand.
* `readsBack_iff_rankNearest`: The ratios that round to a rank.
* `abs_sub_units_le`: That rank is nearest, and odd only if no other is as near.
* `Double.rounds_ofRatio`: Rounding a ratio.
* `Double.Nearest.unique`, `Double.Rounds.unique`: There is one way to round.
-/

namespace Outreach

theorem twoTo_eq (n : Nat) : twoTo n = 2 ^ n := rfl

theorem tenTo_eq (n : Nat) : tenTo n = 10 ^ n := rfl

theorem cast_twoTo (n : Nat) : (twoTo n : ℚ) = 2 ^ n := by
  rw [twoTo_eq, Nat.cast_pow, Nat.cast_ofNat]

theorem cast_tenTo (n : Nat) : (tenTo n : ℚ) = 10 ^ n := by
  rw [tenTo_eq, Nat.cast_pow, Nat.cast_ofNat]

theorem twoTo_mono {m n : Nat} (h : m ≤ n) : twoTo m ≤ twoTo n :=
  Nat.pow_le_pow_right Nat.two_pos h

/-! ## Ranks -/

/-- The units of a rank, by its binary place and its significand. -/
theorem units_scaled {s k : Nat} (hk : k ≤ twoTo 53) (h : s = 0 ∨ twoTo 52 ≤ k) :
    units (s * twoTo 52 + k) = k * twoTo s := by
  have htwo : twoTo 53 = twoTo 52 * 2 := twoTo_succ 52
  have hpos := twoTo_pos 52
  by_cases hsmall : k < twoTo 52
  · have hs : s = 0 := h.resolve_right (Nat.not_le.2 hsmall)
    rw [hs, Nat.zero_mul, Nat.zero_add, units_of_lt hsmall]
    exact (Nat.mul_one k).symm
  · by_cases hlast : k = twoTo 53
    -- A significand of `2 ^ 53` is the first one of the next place.
    · have hrank : s * twoTo 52 + k = twoTo 52 * (s + 1 + 1) + 0 := by
        rw [hlast, htwo]
        ring
      rw [hrank, units_mul_add hpos, hlast, htwo, twoTo_succ s]
      ring
    · rcases Nat.exists_eq_add_of_le (Nat.not_lt.1 hsmall) with ⟨place, rfl⟩
      have hrank : s * twoTo 52 + (twoTo 52 + place) = twoTo 52 * (s + 1) + place := by ring
      rw [hrank, units_mul_add (by omega)]

/-- The next rank is at least one unit of the last place above. -/
theorem le_units_succ {s k : Nat} (hk : k ≤ twoTo 53) (h : s = 0 ∨ twoTo 52 ≤ k) :
    (k + 1) * twoTo s ≤ units (s * twoTo 52 + k + 1) := by
  have htwo : twoTo 53 = twoTo 52 * 2 := twoTo_succ 52
  by_cases hlast : k = twoTo 53
  · have hrank : s * twoTo 52 + k + 1 = (s + 1) * twoTo 52 + (twoTo 52 + 1) := by
      rw [hlast, htwo]
      ring
    have hone : 1 ≤ twoTo 52 := twoTo_pos 52
    rw [hrank, units_scaled (by omega) (.inr (Nat.le_add_right _ _)), twoTo_succ s, hlast, htwo,
      Nat.mul_comm (twoTo s) 2, ← Nat.mul_assoc]
    exact Nat.mul_le_mul_right _ (by omega)
  · rw [Nat.add_assoc, units_scaled (by omega) (h.imp_right fun h => Nat.le_succ_of_le h)]

/-- The rank before is at least one unit of the last place below, except where a
    binary place begins. -/
theorem units_pred_le {s k : Nat} (hk : k + 1 ≤ twoTo 53) (h : s = 0 ∨ twoTo 52 ≤ k) :
    units (s * twoTo 52 + (k + 1) - 1) = k * twoTo s := by
  rw [Nat.add_sub_assoc (Nat.le_add_left 1 k), Nat.add_sub_cancel, units_scaled (by omega) h]

/-! ## Rounding to a rank -/

/-- A quotient rounded to an integer is within a half of it, and an odd integer
    within less. -/
theorem roundHalfEven_spec {num den k : Nat} (hden : 0 < den) (hk : roundHalfEven num den = k) :
    2 * (k * den) ≤ 2 * num + den ∧ 2 * num ≤ 2 * (k * den) + den ∧
      (k % 2 = 1 → 2 * (k * den) < 2 * num + den ∧ 2 * num < 2 * (k * den) + den) := by
  have hdiv := Nat.div_add_mod' num den
  have hmod := Nat.mod_lt num hden
  simp only [roundHalfEven] at hk
  generalize num / den = q at hdiv hk
  generalize num % den = r at hdiv hk hmod
  have hsucc : (q + 1) * den = q * den + den := Nat.succ_mul q den
  split at hk
  · subst hk
    omega
  · split at hk
    · subst hk
      omega
    · -- A half goes to the even one of the two.
      rcases Nat.mod_two_eq_zero_or_one q with heven | hodd
      · rw [heven, Nat.add_zero] at hk
        subst hk
        omega
      · rw [hodd] at hk
        subst hk
        omega

/-- With the places that it loses left out, a ratio has a significand of 53 bits. -/
theorem div_excess_lt (num den : Nat) : num / (den * twoTo (excess num den)) < twoTo 53 := by
  rw [excess]
  split
  case isTrue h => rwa [show twoTo 0 = 1 from rfl, Nat.mul_one]
  case isFalse h =>
    rw [← Nat.div_div_eq_div_mul, Nat.div_lt_iff_lt_mul (twoTo_pos _), ← twoTo_add]
    have hlog : 53 ≤ Nat.log2 (num / den) := by
      rw [Nat.le_log2 (by have := twoTo_pos 53; omega)]
      exact Nat.not_lt.1 h
    have hplaces : 53 + (Nat.log2 (num / den) - 52) = Nat.log2 (num / den) + 1 := by omega
    rw [hplaces]
    exact Nat.lt_log2_self

/-- And if it loses some, no fewer bits. -/
theorem le_div_excess {num den : Nat} (h : excess num den ≠ 0) :
    twoTo 52 ≤ num / (den * twoTo (excess num den)) := by
  rw [excess] at h ⊢
  split at h
  case isTrue => exact absurd rfl h
  case isFalse hlarge =>
    rw [if_neg hlarge, ← Nat.div_div_eq_div_mul, Nat.le_div_iff_mul_le (twoTo_pos _), ← twoTo_add]
    have hlog : 53 ≤ Nat.log2 (num / den) := by
      rw [Nat.le_log2 (by have := twoTo_pos 53; omega)]
      exact Nat.not_lt.1 hlarge
    have hplaces : 52 + (Nat.log2 (num / den) - 52) = Nat.log2 (num / den) := by omega
    rw [hplaces]
    exact Nat.log2_self_le (by have := twoTo_pos 53; omega)

theorem roundHalfEven_le (num den : Nat) : roundHalfEven num den ≤ num / den + 1 := by
  have hmod := Nat.mod_two_eq_zero_or_one (num / den)
  simp only [roundHalfEven]
  split
  · exact Nat.le_succ _
  · split
    · exact Nat.le_refl _
    · omega

theorem le_roundHalfEven (num den : Nat) : num / den ≤ roundHalfEven num den := by
  simp only [roundHalfEven]
  split
  · exact Nat.le_refl _
  · split
    · exact Nat.le_succ _
    · exact Nat.le_add_right _ _

/-- What it means that a ratio lies between the midpoints to both neighbours. -/
theorem readsBack_iff {rank : Nat} {x : Ratio} :
    readsBack rank x = true ↔
      (units (rank - 1) + units rank) * x.den ≤ 2 * x.num ∧
      2 * x.num ≤ (units rank + units (rank + 1)) * x.den ∧
      (rank % 2 = 1 → (units (rank - 1) + units rank) * x.den < 2 * x.num ∧
        2 * x.num < (units rank + units (rank + 1)) * x.den) := by
  simp only [readsBack]
  split
  case isTrue heven =>
    rw [Bool.and_eq_true, decide_eq_true_eq, decide_eq_true_eq]
    omega
  case isFalse hodd =>
    rw [Bool.and_eq_true, decide_eq_true_eq, decide_eq_true_eq]
    omega

/-- A ratio rounds to the rank between whose midpoints it lies. -/
theorem readsBack_rankNearest (num : Nat) {den : Nat} (hden : 0 < den) :
    readsBack (rankNearest num den) ⟨num, den⟩ = true := by
  have hbelow := div_excess_lt num den
  have habove := fun h : excess num den ≠ 0 => le_div_excess h
  simp only [rankNearest]
  generalize excess num den = s at hbelow habove
  have hunit : 0 < den * twoTo s := Nat.mul_pos hden (twoTo_pos s)
  have hleast := le_roundHalfEven num (den * twoTo s)
  have hmost := roundHalfEven_le num (den * twoTo s)
  obtain ⟨k, hk⟩ : ∃ k, roundHalfEven num (den * twoTo s) = k := ⟨_, rfl⟩
  have hspec := roundHalfEven_spec hunit hk
  rw [hk] at hleast hmost ⊢
  have hk53 : k ≤ twoTo 53 := by omega
  have hplace : s = 0 ∨ twoTo 52 ≤ k := by
    by_cases hs : s = 0
    · exact .inl hs
    · exact .inr (Nat.le_trans (habove hs) hleast)
  -- The parity of a rank is that of its significand.
  have hparity : (s * twoTo 52 + k) % 2 = k % 2 := by
    have heven : s * twoTo 52 = 2 * (s * twoTo 51) := by
      rw [twoTo_succ 51]
      ring
    omega
  have hself := units_scaled hk53 hplace
  have hnext := Nat.mul_le_mul_right den (le_units_succ hk53 hplace)
  have hvalue : k * twoTo s * den = k * (den * twoTo s) := by ring
  have hstep : (k + 1) * twoTo s * den = k * (den * twoTo s) + den * twoTo s := by ring
  rw [hstep] at hnext
  simp only [readsBack_iff, hparity, Nat.add_mul, hself, hvalue]
  have hbefore : units (s * twoTo 52 + k - 1) * den + den * twoTo s ≤ k * (den * twoTo s) ∨
      (units (s * twoTo 52 + k - 1) * den ≤ k * (den * twoTo s) ∧ k * (den * twoTo s) ≤ num ∧
        k % 2 = 0) := by
    cases k with
    | zero =>
        refine .inr ⟨?_, by rw [Nat.zero_mul]; exact Nat.zero_le _, rfl⟩
        have hs : s = 0 := hplace.resolve_right (Nat.not_le.2 (twoTo_pos 52))
        rw [hs, Nat.zero_mul, units_zero, Nat.zero_mul]
        exact Nat.zero_le _
    | succ k =>
        by_cases hfirst : s = 0 ∨ twoTo 52 ≤ k
        · refine .inl (le_of_eq ?_)
          rw [units_pred_le hk53 hfirst]
          ring
        · -- Where a binary place begins, the ratio is no less than the rank.
          push Not at hfirst
          have hbegin : k + 1 = twoTo 52 := by
            have := hplace.resolve_left hfirst.1
            omega
          refine .inr ⟨?_, ?_, by rw [hbegin]; rfl⟩
          · rw [← hvalue, ← hself]
            exact Nat.mul_le_mul_right den (units_strictMono.monotone (Nat.sub_le _ 1))
          · rw [hbegin]
            exact (Nat.le_div_iff_mul_le hunit).1 (habove hfirst.1)
  generalize k * (den * twoTo s) = value at *
  generalize den * twoTo s = step at *
  generalize units (s * twoTo 52 + k - 1) * den = before at *
  generalize units (s * twoTo 52 + k + 1) * den = after at *
  omega

/-- No ratio lies between the midpoints of two ranks. -/
theorem le_of_readsBack {r r' : Nat} {x : Ratio} (hden : 0 < x.den) (h : readsBack r x = true)
    (h' : readsBack r' x = true) : r ≤ r' := by
  rw [readsBack_iff] at h h'
  by_contra hlt
  have hlow : units r' ≤ units (r - 1) := units_strictMono.monotone (by omega)
  have hhigh : units (r' + 1) ≤ units r := units_strictMono.monotone (by omega)
  have hmid : (units r' + units (r' + 1)) * x.den ≤ (units (r - 1) + units r) * x.den :=
    Nat.mul_le_mul_right _ (Nat.add_le_add hlow hhigh)
  -- Only a midpoint is left, and its two ranks are not both even.
  have hequal : units r' + units (r' + 1) = units (r - 1) + units r := by
    have hle : (units (r - 1) + units r) * x.den ≤ (units r' + units (r' + 1)) * x.den := by omega
    exact Nat.le_antisymm (Nat.add_le_add hlow hhigh) (Nat.le_of_mul_le_mul_right hle hden)
  have hrank : r = r' + 1 := (units_strictMono.injective (by omega)).symm
  omega

/-- The ratios that round to a rank are those between its midpoints. -/
theorem readsBack_iff_rankNearest {rank num den : Nat} (hden : 0 < den) :
    readsBack rank ⟨num, den⟩ = true ↔ rankNearest num den = rank := by
  have hself := readsBack_rankNearest num hden
  refine ⟨fun h => ?_, fun h => h ▸ hself⟩
  exact Nat.le_antisymm (le_of_readsBack hden hself h) (le_of_readsBack hden h hself)

/-- The same of the number that the ratio stands for. -/
theorem readsBack_iff_between {rank num den : Nat} {m : ℚ} (hden : 0 < den) (hm : m = num / den) :
    readsBack rank ⟨num, den⟩ = true ↔
      (units (rank - 1) + units rank : ℚ) ≤ 2 * m ∧ 2 * m ≤ units rank + units (rank + 1) ∧
      (rank % 2 = 1 → (units (rank - 1) + units rank : ℚ) < 2 * m ∧
        2 * m < units rank + units (rank + 1)) := by
  have hdenpos : (0 : ℚ) < den := Nat.cast_pos.2 hden
  have hle (n : Nat) : (n : ℚ) ≤ 2 * m ↔ n * den ≤ 2 * num := by
    rw [hm, ← mul_div_assoc, le_div_iff₀ hdenpos]
    exact_mod_cast Iff.rfl
  have hge (n : Nat) : 2 * m ≤ n ↔ 2 * num ≤ n * den := by
    rw [hm, ← mul_div_assoc, div_le_iff₀ hdenpos]
    exact_mod_cast Iff.rfl
  have hlt (n : Nat) : (n : ℚ) < 2 * m ↔ n * den < 2 * num := by
    rw [← not_le, hge, not_le]
  have hgt (n : Nat) : 2 * m < n ↔ 2 * num < n * den := by
    rw [← not_le, hle, not_le]
  simp only [← Nat.cast_add, hle, hge, hlt, hgt, readsBack_iff]

/-- The rank of a magnitude is nearest to it, and odd only if no other is as near. -/
theorem abs_sub_units_le {rank num den : Nat} {m : ℚ} (hden : 0 < den) (hm : m = num / den)
    (h : readsBack rank ⟨num, den⟩ = true) (other : Nat) :
    |m - units rank| ≤ |m - units other| ∧
      (|m - units other| = |m - units rank| → other ≠ rank → rank % 2 = 0) := by
  rcases (readsBack_iff_between hden hm).1 h with ⟨hlow, hhigh, hodd⟩
  have heven (hne : ¬rank % 2 = 1) : rank % 2 = 0 := by omega
  rcases Nat.lt_trichotomy other rank with hlt | rfl | hgt
  · have hother : (units other : ℚ) ≤ units (rank - 1) :=
      Nat.cast_le.2 (units_strictMono.monotone (by omega))
    have hself : (units other : ℚ) < units rank := Nat.cast_lt.2 (units_strictMono hlt)
    rw [abs_of_nonneg (show 0 ≤ m - units other by linarith)]
    refine ⟨abs_le.2 ⟨by linarith, by linarith⟩, fun htie _ => heven fun h1 => ?_⟩
    have hstrict := (hodd h1).1
    rcases abs_cases (m - units rank) with ⟨habs, -⟩ | ⟨habs, -⟩ <;> linarith
  · exact ⟨le_refl _, fun _ hne => absurd rfl hne⟩
  · have hother : (units (rank + 1) : ℚ) ≤ units other :=
      Nat.cast_le.2 (units_strictMono.monotone hgt)
    have hself : (units rank : ℚ) < units other := Nat.cast_lt.2 (units_strictMono hgt)
    rw [abs_of_nonpos (show m - units other ≤ 0 by linarith)]
    refine ⟨abs_le.2 ⟨by linarith, by linarith⟩, fun htie _ => heven fun h1 => ?_⟩
    have hstrict := (hodd h1).2
    rcases abs_cases (m - units rank) with ⟨habs, -⟩ | ⟨habs, -⟩ <;> linarith

/-- The ratios that round to an even rank or beyond. -/
theorem le_rankNearest_iff {rank num den : Nat} {m : ℚ} (hden : 0 < den) (hm : m = num / den)
    (hpos : 0 < rank) (heven : rank % 2 = 0) :
    rank ≤ rankNearest num den ↔ (units (rank - 1) + units rank : ℚ) ≤ 2 * m := by
  rcases (readsBack_iff_between hden hm).1 (readsBack_rankNearest _ hden) with ⟨hlow, hhigh, hodd⟩
  have hmono {a b : Nat} (h : a ≤ b) : (units a : ℚ) ≤ units b :=
    Nat.cast_le.2 (units_strictMono.monotone h)
  constructor
  · intro h
    have hbefore := hmono (Nat.sub_le_sub_right h 1)
    have hself := hmono h
    linarith
  · intro h
    by_contra hlt
    have hself := hmono (show rankNearest num den ≤ rank - 1 by omega)
    have hafter := hmono (show rankNearest num den + 1 ≤ rank by omega)
    by_cases hnext : rankNearest num den + 1 = rank
    -- The midpoint belongs to the even rank, not to the odd one before it.
    · have hstrict := (hodd (by omega)).2
      linarith
    · have hgap : (units (rankNearest num den) : ℚ) < units (rank - 1) :=
        Nat.cast_lt.2 (units_strictMono (by omega))
      linarith

/-! ## Doubles -/

namespace Double

/-- The exact value of a finite double. -/
def real (x : Double) : ℚ := x.scaled / unit

/-- Whether a double bears a minus sign. -/
def isNegative : Double → Bool
  | .nan => false
  | .number negative _ _ => negative

/-- The last bit of the significand is zero. -/
def IsEven : Double → Prop
  | .nan => False
  | .number _ rank _ => rank % 2 = 0

/-- The factor that a sign stands for. -/
def factor (negative : Bool) : ℚ := if negative then -1 else 1

/-- A finite double that is nearest to a number. If another one is as near, its
    significand is even. -/
structure Nearest (x : Double) (q : ℚ) : Prop where
  finite : x.isFinite = true
  closest : ∀ y : Double, y.isFinite = true → |q - x.real| ≤ |q - y.real|
  even : ∀ y : Double, y.isFinite = true → |q - y.real| = |q - x.real| → y.real ≠ x.real → x.IsEven

/-- The least magnitude beyond every double: the midpoint between the last finite double
    and the power of two that would come next. -/
def overflow : ℚ := 2 ^ 1024 - 2 ^ 970

/-- A magnitude with a sign is rounded to a double: to the nearest one, and from the
    overflow threshold on to infinity. -/
structure Rounds (x : Double) (negative : Bool) (m : ℚ) : Prop where
  number : x.isNaN = false
  sign : x.isNegative = negative
  finite : x.isFinite = true ↔ m < overflow
  nearest : m < overflow → x.Nearest (factor negative * m)

theorem unit_ne_zero : (unit : ℚ) ≠ 0 := unit_pos.ne'

theorem abs_factor (negative : Bool) : |factor negative| = 1 := by
  cases negative <;> simp only [factor, Bool.false_eq_true, if_true, if_false, abs_neg, abs_one]

theorem cast_signed (negative : Bool) (n : Nat) :
    ((signed negative n : Int) : ℚ) = factor negative * n := by
  cases negative with
  | false => simp only [signed, factor, Bool.false_eq_true, if_false, Int.cast_natCast, one_mul]
  | true => simp only [signed, factor, if_true, Int.cast_neg, Int.cast_natCast, neg_one_mul]

theorem real_number (negative : Bool) (rank : Nat) (rank_le : rank ≤ infinityRank) :
    (number negative rank rank_le).real = factor negative * units rank / unit := by
  rw [real, scaled, cast_signed]

theorem isFinite_number {negative : Bool} {rank : Nat} {rank_le : rank ≤ infinityRank} :
    (number negative rank rank_le).isFinite = true ↔ rank < infinityRank := by
  rw [isFinite, isNaN, isInfinite, Bool.not_false, Bool.true_and, Bool.not_eq_true',
    beq_eq_false_iff_ne]
  omega

theorem exists_number_of_isFinite {x : Double} (h : x.isFinite = true) :
    ∃ negative rank, ∃ rank_lt : rank < infinityRank,
      x = number negative rank (Nat.le_of_lt rank_lt) := by
  cases x with
  | nan => cases h
  | number negative rank rank_le => exact ⟨negative, rank, isFinite_number.1 h, rfl⟩

/-- How far a number with a sign is from a double, counted in units. -/
theorem abs_sub_real (negative other : Bool) (rank : Nat) (rank_le : rank ≤ infinityRank) (m : ℚ) :
    |factor negative * (m / unit) - (number other rank rank_le).real| =
      |m - (if other = negative then (units rank : ℚ) else -units rank)| / unit := by
  have hsquare : factor negative * factor negative = 1 := by
    cases negative <;> norm_num [factor]
  have hother : factor other * units rank =
      factor negative * (if other = negative then (units rank : ℚ) else -units rank) := by
    cases other <;> cases negative <;> norm_num [factor]
  rw [real_number, hother, mul_div_assoc, ← mul_sub, abs_mul, abs_factor, one_mul, ← sub_div,
    abs_div, abs_of_pos unit_pos]

/-- A rank that a magnitude rounds to is that of the nearest double. -/
theorem nearest_of_readsBack (negative : Bool) {rank num den : Nat} {m : ℚ} (hden : 0 < den)
    (hm : m = num / den) (rank_lt : rank < infinityRank)
    (h : readsBack rank ⟨num, den⟩ = true) :
    (number negative rank (Nat.le_of_lt rank_lt)).Nearest (factor negative * (m / unit)) := by
  have hself := abs_sub_real negative negative rank (Nat.le_of_lt rank_lt) m
  rw [if_pos rfl] at hself
  have hle := fun other => (abs_sub_units_le hden hm h other).1
  have hzero := hle 0
  have hpositive : 0 ≤ m := by
    rw [hm]
    positivity
  rw [units_zero, Nat.cast_zero, sub_zero, abs_of_nonneg hpositive] at hzero
  refine ⟨isFinite_number.2 rank_lt, fun y hy => ?_, fun y hy htie hne => ?_⟩
  · rcases exists_number_of_isFinite hy with ⟨other, r, hr, rfl⟩
    rw [hself, abs_sub_real, div_le_div_iff_of_pos_right unit_pos]
    by_cases hsign : other = negative
    · rw [if_pos hsign]
      exact hle r
    -- On the other side of zero, nothing is as near as zero.
    · have hunits : (0 : ℚ) ≤ units r := Nat.cast_nonneg _
      rw [if_neg hsign, sub_neg_eq_add, abs_of_nonneg (add_nonneg hpositive hunits)]
      linarith
  · rcases exists_number_of_isFinite hy with ⟨other, r, hr, rfl⟩
    rw [hself, abs_sub_real, div_left_inj' unit_ne_zero] at htie
    by_cases hsign : other = negative
    · rw [if_pos hsign] at htie
      refine (abs_sub_units_le hden hm h r).2 htie ?_
      rintro rfl
      exact hne (by rw [hsign])
    · have hnonneg : (0 : ℚ) ≤ units r := Nat.cast_nonneg _
      rw [if_neg hsign, sub_neg_eq_add, abs_of_nonneg (add_nonneg hpositive hnonneg)] at htie
      have hunits : (units r : ℚ) = 0 := by linarith
      refine (abs_sub_units_le hden hm h 0).2 ?_ ?_
      · rw [units_zero, Nat.cast_zero, sub_zero, abs_of_nonneg hpositive]
        linarith
      · rintro rfl
        refine hne ?_
        rw [real_number, real_number, hunits, units_zero, Nat.cast_zero, mul_zero, mul_zero]

theorem infinityRank_even : infinityRank % 2 = 0 := by
  rw [infinityRank, twoTo_succ 51]
  omega

/-- The threshold is the midpoint before the rank of infinity. -/
theorem two_mul_overflow :
    2 * (overflow * unit) = (units (infinityRank - 1) + units infinityRank : ℚ) := by
  have hlast : units infinityRank = twoTo 53 * twoTo 2045 := by
    rw [← units_scaled (Nat.le_refl _) (.inr (twoTo_mono (by decide)))]
    rfl
  have hbefore : units (infinityRank - 1) = (twoTo 53 - 1) * twoTo 2045 := by
    rw [← units_scaled (Nat.sub_le _ _) (.inr (by decide))]
    rfl
  have hbig : (2 : ℚ) ^ 1024 = 2 ^ 54 * 2 ^ 970 := by rw [← pow_add]
  have hplace : (2 : ℚ) ^ 2045 = 2 ^ 970 * 2 ^ 1074 * 2 := by rw [← pow_add, ← pow_succ]
  rw [hlast, hbefore, overflow, unit, Nat.cast_mul, Nat.cast_mul, Nat.cast_sub (twoTo_pos 53)]
  simp only [cast_twoTo, hbig, hplace]
  generalize (2 : ℚ) ^ 970 = a
  generalize (2 : ℚ) ^ 1074 = b
  norm_num
  ring

/-- Powers of two below the last one are no overflow. -/
theorem pow_lt_overflow {n : Nat} (h : n ≤ 1023) : (2 : ℚ) ^ n < overflow := by
  have hbig : (2 : ℚ) ^ 1024 = 2 ^ 54 * 2 ^ 970 := by rw [← pow_add]
  have hle : (2 : ℚ) ^ n ≤ 2 ^ (53 + 970) := pow_le_pow_right₀ one_le_two h
  have hpos : (0 : ℚ) < 2 ^ 970 := by positivity
  rw [pow_add] at hle
  rw [overflow, hbig]
  generalize (2 : ℚ) ^ 970 = a at hle hpos ⊢
  linarith only [hle, hpos]

theorem rounds_ofUnits (negative : Bool) (num : Nat) {den : Nat} (hden : 0 < den) :
    (ofUnits negative num den).Rounds negative (num / den / unit) := by
  have hfinite : rankNearest num den < infinityRank ↔ (num / den / unit : ℚ) < overflow := by
    refine lt_iff_lt_of_le_iff_le ?_
    rw [le_rankNearest_iff hden rfl infinityRank_pos infinityRank_even, ← two_mul_overflow,
      mul_le_mul_iff_right₀ two_pos, le_div_iff₀ unit_pos]
  refine ⟨rfl, rfl, ?_, fun h => ?_⟩
  · rw [← hfinite, ofUnits, ofRank, isFinite_number, min_lt_iff]
    exact or_iff_left (lt_irrefl _)
  · have hrank := hfinite.2 h
    have hself := nearest_of_readsBack negative hden rfl hrank (readsBack_rankNearest num hden)
    simp only [ofUnits, ofRank, Nat.min_eq_left (Nat.le_of_lt hrank)]
    exact hself

/-- Rounding a ratio. -/
theorem rounds_ofRatio (negative : Bool) (num : Nat) {den : Nat} (hden : 0 < den) :
    (ofRatio negative num den).Rounds negative (num / den) := by
  have hunits := rounds_ofUnits negative (num * unit) hden
  rwa [Nat.cast_mul, mul_div_right_comm, mul_div_cancel_right₀ _ unit_ne_zero] at hunits

/-! ## One way to round -/

variable {x y : Double} {q : ℚ}

theorem natAbs_signed (negative : Bool) (n : Nat) : (signed negative n).natAbs = n := by
  cases negative with
  | false => exact Int.natAbs_natCast n
  | true => exact (Int.natAbs_neg _).trans (Int.natAbs_natCast n)

/-- The exact value of a finite double, by its place in the order. -/
theorem real_eq_placeUnits (negative : Bool) (rank : Nat) (rank_le : rank ≤ infinityRank) :
    (number negative rank rank_le).real = placeUnits (signed negative rank) / unit := by
  rw [real, scaled, placeUnits_signed]

/-- Every place between those of the infinities is that of a finite double. -/
theorem exists_at_place (place : Int) (h : place.natAbs < infinityRank) :
    ∃ z : Double, z.isFinite = true ∧ z.real = placeUnits place / unit :=
  ⟨number (decide (place < 0)) place.natAbs (Nat.le_of_lt h), isFinite_number.2 h, rfl⟩

/-- Two doubles next to each other are not both even, and between two others there
    is one that is nearer. -/
theorem Nearest.not_below (hx : x.Nearest q) (hy : y.Nearest q) : ¬x.real < y.real := by
  intro hlt
  have hdistance : |q - x.real| = |q - y.real| :=
    le_antisymm (hx.closest y hy.finite) (hy.closest x hx.finite)
  have hmid : q - x.real = -(q - y.real) := by
    refine (abs_eq_abs.1 hdistance).resolve_left fun heq => ?_
    linarith
  rcases exists_number_of_isFinite hx.finite with ⟨a, r, hr, rfl⟩
  rcases exists_number_of_isFinite hy.finite with ⟨b, r', hr', rfl⟩
  have hplaces : signed a r < signed b r' := by
    rw [real_eq_placeUnits, real_eq_placeUnits, div_lt_div_iff_of_pos_right unit_pos,
      Int.cast_lt] at hlt
    exact placeUnits_strictMono.lt_iff_lt.1 hlt
  have habs := natAbs_signed a r
  have habs' := natAbs_signed b r'
  by_cases hnext : signed a r + 1 = signed b r'
  · have heven : r % 2 = 0 := hx.even _ hy.finite hdistance.symm hlt.ne'
    have heven' : r' % 2 = 0 := hy.even _ hx.finite hdistance hlt.ne
    omega
  · rcases exists_at_place (signed a r + 1) (by omega) with ⟨z, hz, hzreal⟩
    have hbelow : (number a r (Nat.le_of_lt hr)).real < z.real := by
      rw [hzreal, real_eq_placeUnits, div_lt_div_iff_of_pos_right unit_pos, Int.cast_lt]
      exact placeUnits_strictMono (by omega)
    have habove : z.real < (number b r' (Nat.le_of_lt hr')).real := by
      rw [hzreal, real_eq_placeUnits, div_lt_div_iff_of_pos_right unit_pos, Int.cast_lt]
      exact placeUnits_strictMono (by omega)
    refine absurd (hx.closest z hz) (not_le.2 ?_)
    rw [abs_of_pos (show 0 < q - (number a r (Nat.le_of_lt hr)).real by linarith)]
    exact abs_lt.2 ⟨by linarith, by linarith⟩

/-- The nearest doubles to a number are one number. -/
theorem Nearest.real_eq (hx : x.Nearest q) (hy : y.Nearest q) : x.real = y.real :=
  le_antisymm (not_lt.1 (hy.not_below hx)) (not_lt.1 (hx.not_below hy))

theorem eq_of_real_eq (hx : x.isFinite = true) (hy : y.isFinite = true) (h : x.real = y.real)
    (hsign : x.isNegative = y.isNegative) : x = y := by
  rcases exists_number_of_isFinite hx with ⟨a, r, hr, rfl⟩
  rcases exists_number_of_isFinite hy with ⟨b, r', hr', rfl⟩
  obtain rfl : a = b := hsign
  rw [real_eq_placeUnits, real_eq_placeUnits, div_left_inj' unit_ne_zero, Int.cast_inj] at h
  have hrank : r = r' := by
    rw [← natAbs_signed a r, placeUnits_strictMono.injective h, natAbs_signed]
  subst hrank
  rfl

/-- With a sign for zero, there is but one of them. -/
theorem Nearest.unique (hx : x.Nearest q) (hy : y.Nearest q)
    (hsign : x.isNegative = y.isNegative) : x = y :=
  eq_of_real_eq hx.finite hy.finite (hx.real_eq hy) hsign

/-- A finite double is nearest to itself. -/
theorem nearest_real (hx : x.isFinite = true) : x.Nearest x.real := by
  refine ⟨hx, fun y _ => ?_, fun y _ htie hne => ?_⟩
  · rw [sub_self, abs_zero]
    exact abs_nonneg _
  · rw [sub_self, abs_zero, abs_eq_zero, sub_eq_zero] at htie
    exact absurd htie.symm hne

/-- What a finite double is compared by is its exact value. -/
theorem value?_of_isFinite (hx : x.isFinite = true) : x.value? = some (WithBotTop.coe x.real) := by
  rcases exists_number_of_isFinite hx with ⟨negative, rank, rank_lt, rfl⟩
  exact if_neg rank_lt.ne

theorem abs_real_lt_overflow (hx : x.isFinite = true) : |x.real| < overflow := by
  rcases exists_number_of_isFinite hx with ⟨negative, rank, rank_lt, rfl⟩
  have hunits : (0 : ℚ) ≤ units rank := Nat.cast_nonneg _
  have hlast : (units rank : ℚ) ≤ units (infinityRank - 1) :=
    Nat.cast_le.2 (units_strictMono.monotone (by omega))
  have hnext : (units (infinityRank - 1) : ℚ) < units infinityRank :=
    Nat.cast_lt.2 (units_strictMono (by omega))
  have hmid := two_mul_overflow
  rw [real_number, abs_div, abs_mul, abs_factor, one_mul, abs_of_nonneg hunits,
    abs_of_pos unit_pos, div_lt_iff₀ unit_pos]
  linarith

/-- Finite doubles are equal as numbers if their exact values are. -/
theorem eq_iff_real_eq (hx : x.isFinite = true) (hy : y.isFinite = true) :
    x.eq y = true ↔ x.real = y.real := by
  rcases exists_number_of_isFinite hx with ⟨a, r, hr, rfl⟩
  rcases exists_number_of_isFinite hy with ⟨b, r', hr', rfl⟩
  rw [real_eq_placeUnits, real_eq_placeUnits, div_left_inj' unit_ne_zero, Int.cast_inj,
    placeUnits_strictMono.injective.eq_iff]
  exact decide_eq_true_iff

/-- Two results of rounding the same are the same. -/
theorem Rounds.unique {negative : Bool} {m : ℚ} (hx : x.Rounds negative m)
    (hy : y.Rounds negative m) : x = y := by
  by_cases hm : m < overflow
  · exact (hx.nearest hm).unique (hy.nearest hm) (hx.sign.trans hy.sign.symm)
  · have hinfinite {z : Double} (hz : z.Rounds negative m) : z = infinity negative := by
      have hfinite : ¬z.isFinite = true := fun h => hm (hz.finite.1 h)
      have hnumber := hz.number
      have hsign := hz.sign
      cases z with
      | nan => cases hnumber
      | number a r hr =>
          obtain rfl : a = negative := hsign
          rw [isFinite_number] at hfinite
          obtain rfl : r = infinityRank := Nat.le_antisymm hr (Nat.not_lt.1 hfinite)
          rfl
    rw [hinfinite hx, hinfinite hy]

/-- A magnitude beyond every double rounds to infinity. -/
theorem rounds_infinity (negative : Bool) {m : ℚ} (h : overflow ≤ m) :
    (infinity negative).Rounds negative m :=
  ⟨rfl, rfl, iff_of_false (fun h => lt_irrefl _ (isFinite_number.1 h)) (not_lt.2 h),
    fun hlt => absurd hlt (not_lt.2 h)⟩

end Double

end Outreach
