import Outreach.Proofs.Number.Numeral

/-!
# Shortest Texts Read Back

A decimal of seventeen digits next to a double is so near to it that no other double
is as near. So the search for the shortest text ends, and what it finds reads back.

## Main definitions

* `LayoutText`: What the layout of digits looks like.
* `LaysOut`: Characters that lay digits out with the point at a place.
* `numeralChars`: The characters that numbers are written with.

## Theorems

* `readsBack_shortestDecimal`: The shortest decimal rounds to its rank.
* `laysOut_layout`: The layout of digits is that of a decimal with the same value.
* `Double.exists_text`: The text of a finite double is that of a decimal that is rounded
  to it.
* `exists_toString`: The text of an integer has its sign and its digits.
-/

namespace Outreach

open Text

/-! ## Seventeen digits -/

/-- Every rank has a binary place and a significand of 53 bits. -/
theorem exists_scaled (rank : Nat) :
    ∃ s k, rank = s * twoTo 52 + k ∧ k + 1 ≤ twoTo 53 ∧ (s = 0 ∨ twoTo 52 ≤ k) := by
  have htwo : twoTo 53 = twoTo 52 * 2 := twoTo_succ 52
  have hpos := twoTo_pos 52
  by_cases hsmall : rank < twoTo 53
  · exact ⟨0, rank, by omega, hsmall, .inl rfl⟩
  · have hplace := Nat.mod_lt rank hpos
    have hexponent : 1 ≤ rank / twoTo 52 := (Nat.one_le_div_iff hpos).2 (by omega)
    rcases Nat.exists_eq_add_of_le' hexponent with ⟨s, hs⟩
    have hrank : rank = (s + 1) * twoTo 52 + rank % twoTo 52 := by
      rw [← hs]
      exact (Nat.div_add_mod' rank _).symm
    refine ⟨s, twoTo 52 + rank % twoTo 52, ?_, by omega, .inr (Nat.le_add_right _ _)⟩
    rw [Nat.add_one_mul] at hrank
    omega

/-- Two ranks next to each other are no nearer than the last of 53 bits tells. -/
theorem units_succ_le (rank : Nat) :
    (units (rank + 1) : ℚ) ≤ 2 ^ 53 * (units (rank + 1) - units rank) := by
  rcases exists_scaled rank with ⟨s, k, rfl, hk, hplace⟩
  have hself := units_scaled (Nat.le_of_succ_le hk) hplace
  have hnext := units_scaled hk (hplace.imp_right Nat.le_succ_of_le)
  rw [← Nat.add_assoc] at hnext
  have hbound : ((k + 1 : Nat) : ℚ) ≤ 2 ^ 53 := by
    rw [← cast_twoTo]
    exact Nat.cast_le.2 hk
  rw [hself, hnext, Nat.cast_mul, Nat.cast_mul, ← sub_mul, Nat.cast_succ, add_sub_cancel_left,
    one_mul, ← Nat.cast_succ]
  exact mul_le_mul_of_nonneg_right hbound (Nat.cast_nonneg _)

/-- A number as near to a rank as a half in the seventeenth place rounds to it. -/
theorem readsBack_of_near {rank num den : Nat} {m : ℚ} (hrank : 0 < rank) (hden : 0 < den)
    (hm : m = num / den) (hnear : |m - units rank| * (2 * 10 ^ 16) ≤ units rank) :
    readsBack rank ⟨num, den⟩ = true := by
  rw [readsBack_iff_between hden hm]
  rcases Nat.exists_eq_add_of_le' hrank with ⟨before, rfl⟩
  rw [Nat.add_sub_cancel]
  have hbelow := units_succ_le before
  have habove := units_succ_le (before + 1)
  have hmono : (units (before + 1) : ℚ) < units (before + 1 + 1) :=
    Nat.cast_lt.2 (units_strictMono (Nat.lt_succ_self _))
  have hpos : (0 : ℚ) < units (before + 1) := by
    rw [← Nat.cast_zero, ← units_zero]
    exact Nat.cast_lt.2 (units_strictMono (Nat.succ_pos _))
  have habs := abs_le.1 (le_refl |m - units (before + 1)|)
  generalize |m - units (before + 1)| = gap at hnear habs
  refine ⟨by linarith, by linarith, fun _ => ⟨by linarith, by linarith⟩⟩

/-- A decimal as a ratio of units has its value. -/
theorem decimalUnits_eq (digits : Nat) (place : Int) :
    0 < (decimalUnits digits place).den ∧
      digits * 10 ^ place * Double.unit =
        ((decimalUnits digits place).num : ℚ) / (decimalUnits digits place).den := by
  cases place with
  | ofNat p =>
      refine ⟨Nat.one_pos, ?_⟩
      rw [decimalUnits, Nat.cast_mul, Nat.cast_mul, cast_tenTo, Nat.cast_one, div_one]
      rfl
  | negSucc p =>
      refine ⟨tenTo_pos _, ?_⟩
      rw [decimalUnits, Nat.cast_mul, cast_tenTo, zpow_negSucc, ← div_eq_mul_inv,
        div_mul_eq_mul_div]

theorem digitCount_eq (n : Nat) : digitCount n = (Nat.digits 10 n).length := by
  induction n using Nat.strong_induction_on with
  | _ n ih =>
    rw [digitCount]
    split
    · next hzero => rw [hzero, Nat.digits_zero, List.length_nil]
    · next hne =>
      rw [ih _ (Nat.div_lt_self (Nat.pos_of_ne_zero hne) (by decide)),
        Nat.digits_def' (by decide) (Nat.pos_of_ne_zero hne), List.length_cons]

/-- The place of the point tells the magnitude. -/
theorem le_units_of_pointPlace {rank : Nat} (hrank : 0 < rank) :
    (10 : ℚ) ^ (pointPlace rank - 1) * Double.unit ≤ units rank := by
  have hunits : 0 < units rank := by
    rw [← units_zero]
    exact units_strictMono hrank
  have hunit : Double.unit ≤ tenTo 400 :=
    (twoTo_mono (show 1074 ≤ 3 * 400 by decide)).trans (twoTo_le_tenTo 400)
  have hpos : 0 < units rank * tenTo 400 / Double.unit :=
    Nat.div_pos (hunit.trans (Nat.le_mul_of_pos_left _ hunits)) (twoTo_pos 1074)
  have hcount := Nat.base_pow_length_digits_le 10 _ (by decide) hpos.ne'
  rw [← digitCount_eq] at hcount
  have hfloor : units rank * tenTo 400 / Double.unit * Double.unit ≤ units rank * tenTo 400 :=
    Nat.div_mul_le_self _ _
  rw [pointPlace]
  generalize units rank * tenTo 400 / Double.unit = scaled at hcount hfloor hpos ⊢
  have hscaled : (10 : ℚ) ^ digitCount scaled ≤ 10 * scaled := by exact_mod_cast hcount
  have hten : (tenTo 400 : ℚ) = 10 ^ (400 : Int) := by
    rw [cast_tenTo, ← zpow_natCast]
    rfl
  have hplaces : (10 : ℚ) ^ ((digitCount scaled : Int) - 400 - 1) * (10 * 10 ^ (400 : Int)) =
      10 ^ digitCount scaled := by
    rw [← zpow_one_add₀ (by norm_num), ← zpow_add₀ (by norm_num), ← zpow_natCast]
    congr 1
    omega
  have hvalue : (scaled : ℚ) * Double.unit ≤ units rank * 10 ^ (400 : Int) := by
    rw [← hten]
    exact_mod_cast hfloor
  have hpower : (0 : ℚ) < 10 ^ (400 : Int) := by positivity
  have hunitpos := Double.unit_pos
  generalize (10 : ℚ) ^ (400 : Int) = big at hplaces hvalue hpower
  refine le_of_mul_le_mul_right ?_ hpower
  generalize (10 : ℚ) ^ ((digitCount scaled : Int) - 400 - 1) = least at hplaces ⊢
  have hleast : least * big ≤ scaled := by linarith
  calc least * Double.unit * big = least * big * Double.unit := by ring
    _ ≤ scaled * Double.unit := mul_le_mul_of_nonneg_right hleast hunitpos.le
    _ ≤ units rank * big := hvalue

/-- The decimal below a number of units, in whole units of a place, and the one above. -/
theorem floor_place (n : Nat) {place : Int} {below : Nat}
    (h : below = match place with
      | .ofNat p => n / (tenTo p * Double.unit)
      | .negSucc p => n * tenTo (p + 1) / Double.unit) :
    below * (10 ^ place * Double.unit : ℚ) ≤ n ∧
      (n : ℚ) < (below + 1) * (10 ^ place * Double.unit : ℚ) := by
  have hfloor (a b : Nat) (hb : 0 < b) :
      ((a / b : Nat) : ℚ) * b ≤ a ∧ (a : ℚ) < ((a / b : Nat) + 1) * b := by
    have hlt := Nat.lt_mul_div_succ a hb
    rw [Nat.mul_comm] at hlt
    exact ⟨by exact_mod_cast Nat.div_mul_le_self a b, by exact_mod_cast hlt⟩
  cases place with
  | ofNat p =>
      obtain rfl : below = n / (tenTo p * Double.unit) := h
      have hself := hfloor n _ (Nat.mul_pos (tenTo_pos p) (twoTo_pos 1074))
      rw [← Double.unit, Nat.cast_mul (tenTo p), cast_tenTo] at hself
      rw [Int.ofNat_eq_natCast, zpow_natCast]
      exact hself
  | negSucc p =>
      obtain rfl : below = n * tenTo (p + 1) / Double.unit := h
      have hself := hfloor (n * tenTo (p + 1)) _ (twoTo_pos 1074)
      rw [← Double.unit, Nat.cast_mul n, cast_tenTo, ← div_le_iff₀ (by positivity),
        ← lt_div_iff₀ (by positivity)] at hself
      rw [zpow_negSucc, ← div_eq_inv_mul, mul_div_assoc', mul_div_assoc']
      exact hself

/-- Of two decimals next to each other, the one that rounds to a rank, the nearer if both
    do. -/
def nearerDecimal? (rank : Nat) (place : Int) (below : Nat) : Option Nat :=
  let exact : Ratio := ⟨units rank, 1⟩
  let low := decimalUnits below place
  let high := decimalUnits (below + 1) place
  match readsBack rank low && decide (0 < below), readsBack rank high with
  | true, true =>
    let dl := distance low exact
    let dh := distance high exact
    if dl < dh ∨ (dl = dh ∧ below % 2 = 0) then some below else some (below + 1)
  | true, false => some below
  | false, true => some (below + 1)
  | false, false => none

/-- The two decimals that are tried stand around the exact value. -/
theorem exists_nearerDecimal? (rank length : Nat) :
    ∃ below : Nat,
      (below * (10 ^ (pointPlace rank - length) * Double.unit : ℚ) ≤ units rank ∧
        (units rank : ℚ) < (below + 1) * (10 ^ (pointPlace rank - length) * Double.unit : ℚ)) ∧
      nearestDecimal? rank length = nearerDecimal? rank (pointPlace rank - length) below :=
  ⟨_, floor_place _ rfl, by unfold nearestDecimal? nearerDecimal?; rfl⟩

/-- What is found reads back. -/
theorem readsBack_of_nearestDecimal? {rank length digits : Nat}
    (h : nearestDecimal? rank length = some digits) :
    0 < digits ∧ readsBack rank (decimalUnits digits (pointPlace rank - length)) = true := by
  rcases exists_nearerDecimal? rank length with ⟨below, -, heq⟩
  rw [heq] at h
  generalize pointPlace rank - length = place at h ⊢
  simp only [nearerDecimal?] at h
  split at h
  · next hlow hhigh =>
    rw [Bool.and_eq_true, decide_eq_true_eq] at hlow
    split at h
    · cases h
      exact ⟨hlow.2, hlow.1⟩
    · cases h
      exact ⟨Nat.succ_pos _, hhigh⟩
  · next hlow _ =>
    rw [Bool.and_eq_true, decide_eq_true_eq] at hlow
    cases h
    exact ⟨hlow.2, hlow.1⟩
  · next hhigh =>
    cases h
    exact ⟨Nat.succ_pos _, hhigh⟩
  · cases h

/-- If one of the two decimals rounds to the rank, one is found. -/
theorem nearerDecimal?_ne_none {rank below : Nat} {place : Int}
    (h : (0 < below ∧ readsBack rank (decimalUnits below place) = true) ∨
      readsBack rank (decimalUnits (below + 1) place) = true) :
    nearerDecimal? rank place below ≠ none := by
  simp only [nearerDecimal?]
  split
  · split <;> exact Option.some_ne_none _
  · exact Option.some_ne_none _
  · exact Option.some_ne_none _
  · next hlow hhigh =>
    rcases h with ⟨hpos, h⟩ | h
    · rw [h, decide_eq_true hpos] at hlow
      cases hlow
    · rw [h] at hhigh
      cases hhigh

/-- With seventeen digits, one is found. -/
theorem nearestDecimal?_seventeen {rank : Nat} (hrank : 0 < rank) :
    nearestDecimal? rank 17 ≠ none := by
  have hleast := le_units_of_pointPlace hrank
  rcases exists_nearerDecimal? rank 17 with ⟨below, ⟨hle, hlt⟩, heq⟩
  rw [heq]
  obtain ⟨place, hplace⟩ : ∃ place : Int, pointPlace rank = place + 17 :=
    ⟨_, (sub_add_cancel _ _).symm⟩
  have hten : (10 : ℚ) ^ (place + 17 - 1) = 10 ^ 16 * 10 ^ place := by
    rw [← zpow_natCast, ← zpow_add₀ (by norm_num)]
    congr 1
    omega
  have hcast : place + 17 - (17 : Nat) = place := add_sub_cancel_right _ _
  rw [hplace, hcast] at hle hlt ⊢
  have hunits := decimalUnits_eq below place
  have hunits' := decimalUnits_eq (below + 1) place
  have hstep : (0 : ℚ) < 10 ^ place * Double.unit := mul_pos (by positivity) Double.unit_pos
  rw [hplace, hten, mul_assoc] at hleast
  rw [mul_assoc] at hunits hunits'
  generalize (10 : ℚ) ^ place * Double.unit = step at hle hlt hleast hstep hunits hunits'
  refine nearerDecimal?_ne_none ?_
  -- One of the two decimals is no farther than half a step away.
  by_cases hhalf : 2 * (units rank - below * step) ≤ step
  · refine .inl ⟨?_, readsBack_of_near hrank hunits.1 hunits.2 ?_⟩
    · rw [Nat.pos_iff_ne_zero]
      rintro rfl
      rw [Nat.cast_zero, zero_add] at hlt
      linarith only [hleast, hlt, hstep]
    · rw [abs_of_nonpos (sub_nonpos.2 hle)]
      linarith only [hleast, hhalf]
  · refine .inr (readsBack_of_near hrank hunits'.1 hunits'.2 ?_)
    rw [Nat.cast_succ, abs_of_nonneg (sub_nonneg.2 hlt.le)]
    linarith only [hleast, hhalf]

/-- The shortest decimal of a rank rounds to it. -/
theorem readsBack_shortestFrom {rank : Nat} (hrank : 0 < rank) :
    ∀ fuel length : Nat, length + fuel = 17 →
      0 < (shortestFrom rank fuel length).1 ∧
        readsBack rank (decimalUnits (shortestFrom rank fuel length).1
          (shortestFrom rank fuel length).2) = true := by
  intro fuel
  induction fuel with
  | zero =>
      rintro length rfl
      rcases Option.ne_none_iff_exists'.1 (nearestDecimal?_seventeen hrank) with ⟨digits, hfound⟩
      have hself := readsBack_of_nearestDecimal? hfound
      simp only [shortestFrom, hfound, Option.getD_some]
      exact hself
  | succ fuel ih =>
      intro length hlength
      rw [shortestFrom]
      split
      · next hfound => exact readsBack_of_nearestDecimal? hfound
      · exact ih (length + 1) (by omega)

theorem readsBack_shortestDecimal {rank : Nat} (hrank : 0 < rank) :
    0 < (shortestDecimal rank).1 ∧
      readsBack rank (decimalUnits (shortestDecimal rank).1 (shortestDecimal rank).2) = true :=
  readsBack_shortestFrom hrank 16 1 rfl

/-! ## Layout -/

/-- The characters of digits. -/
def digitChars (ds : List Nat) : List Char := ds.map Nat.digitChar

/-- The layout of digits without a sign: with a fraction, or with an exponent and perhaps a
    fraction. The whole part of a number begins with zero only if it is zero. -/
inductive LayoutText : List Char → List Nat → Int → Prop
  | fixed {whole fraction : List Nat} (hwhole : whole ≠ []) (hfraction : fraction ≠ [])
      (hlt : ∀ d ∈ whole ++ fraction, d < 10) (hfirst : whole.head? = some 0 → whole = [0]) :
      LayoutText (digitChars whole ++ '.' :: digitChars fraction) (whole ++ fraction)
        (-fraction.length)
  | exponent {d : Nat} {fraction es : List Nat} (negative : Bool) (hd : d ≠ 0) (hpower : es ≠ [])
      (hlt : ∀ e ∈ d :: fraction ++ es, e < 10) :
      LayoutText
        (digitChars [d] ++ ((if fraction = [] then [] else '.' :: digitChars fraction) ++
          'e' :: (if negative then '-' else '+') :: digitChars es))
        (d :: fraction) (Double.signed negative (ofDigits es) - fraction.length)

theorem digitChars_append (ds es : List Nat) :
    digitChars (ds ++ es) = digitChars ds ++ digitChars es :=
  List.map_append

theorem zeroDigits_eq (n : Nat) : zeroDigits n = digitChars (List.replicate n 0) := by
  rw [digitChars, List.map_replicate]
  rfl

theorem ofDigits_zeros (n : Nat) : ofDigits (List.replicate n 0) = 0 := by
  induction n with
  | zero => rfl
  | succ n ih => rw [List.replicate_succ, ofDigits_cons, ih, Nat.zero_mul]

theorem digitValue?_digitChar {d : Nat} (h : d < 10) : digitValue? (Nat.digitChar d) = some d := by
  have hall : ∀ d < 10, digitValue? (Nat.digitChar d) = some d := by decide
  exact hall d h

theorem digitChar_eq_zero {d : Nat} (h : d < 10) : Nat.digitChar d = '0' ↔ d = 0 := by
  have hall : ∀ d < 10, Nat.digitChar d = '0' ↔ d = 0 := by decide
  exact hall d h

/-- The characters of digits are a run of them. -/
theorem digitRun_digitChars {ds : List Nat} (hne : ds ≠ []) (h : ∀ d ∈ ds, d < 10) :
    DigitRun (digitChars ds) ds := by
  induction ds with
  | nil => exact absurd rfl hne
  | cons d rest ih =>
      rw [List.forall_mem_cons] at h
      have hd := digitValue?_digitChar h.1
      by_cases hrest : rest = []
      · rw [hrest]
        exact .last hd
      · exact .next hd (ih hrest h.2)

/-- The decimal digits of a number. -/
theorem exists_decimalDigits (n : Nat) :
    ∃ ds, decimalDigits n = digitChars ds ∧ ds ≠ [] ∧ (∀ d ∈ ds, d < 10) ∧ ofDigits ds = n ∧
      (ds.head? = some 0 → ds = [0]) := by
  induction n using Nat.strong_induction_on with
  | _ n ih =>
    rw [decimalDigits]
    by_cases hsmall : n < 10
    · refine ⟨[n], Nat.toDigits_of_lt_base hsmall, List.cons_ne_nil _ _,
        List.forall_mem_singleton.2 hsmall, Nat.zero_add n,
        fun h => congrArg (fun d => [d]) (Option.some.inj h)⟩
    · rcases ih (n / 10) (by omega) with ⟨ds, hds, hne, hlt, hvalue, hfirst⟩
      rw [Nat.toDigits_of_base_le (by decide) (Nat.not_lt.1 hsmall), ← decimalDigits, hds]
      refine ⟨ds ++ [n % 10], (digitChars_append ds [n % 10]).symm,
        List.append_ne_nil_of_left_ne_nil hne _, ?_, ?_, fun h => ?_⟩
      · exact List.forall_mem_append.2 ⟨hlt, List.forall_mem_singleton.2 (Nat.mod_lt n (by decide))⟩
      · rw [ofDigits_snoc, hvalue]
        omega
      · rw [List.head?_append_of_ne_nil _ hne] at h
        -- Only zero begins with zero, and this number is not below ten.
        have hzero : ofDigits ds = 0 := by rw [hfirst h]; rfl
        omega

/-- Zeros at the end of digits are trimmed. -/
theorem exists_trimZeros {ds : List Nat} (h : ∀ d ∈ ds, d < 10) :
    ∃ kept zeros, ds = kept ++ List.replicate zeros 0 ∧
      trimZeros (digitChars ds) = digitChars kept := by
  induction ds using List.reverseRecOn with
  | nil => exact ⟨[], 0, rfl, rfl⟩
  | append_singleton ds d ih =>
      rw [List.forall_mem_append, List.forall_mem_singleton] at h
      have hsnoc : trimZeros (digitChars (ds ++ [d])) =
          if d = 0 then trimZeros (digitChars ds) else digitChars (ds ++ [d]) := by
        simp only [trimZeros, digitChars, List.map_append, List.map_cons, List.map_nil,
          List.reverse_append, List.reverse_cons, List.reverse_nil, List.nil_append,
          List.singleton_append, List.dropWhile_cons, beq_iff_eq, digitChar_eq_zero h.2]
        split
        · rfl
        · rw [List.reverse_cons, List.reverse_reverse]
      rw [hsnoc]
      by_cases hzero : d = 0
      · rcases ih h.1 with ⟨kept, zeros, hkept, htrim⟩
        refine ⟨kept, zeros + 1, ?_, (if_pos hzero).trans htrim⟩
        rw [List.replicate_succ', ← List.append_assoc, ← hkept, hzero]
      · exact ⟨ds ++ [d], 0, (List.append_nil _).symm, if_neg hzero⟩

theorem forall_mem_replicate_zero (n : Nat) : ∀ d ∈ List.replicate n 0, d < 10 := by
  intro d hd
  rw [List.eq_of_mem_replicate hd]
  decide

/-- An integer is its size with its sign. -/
theorem Double.signed_natAbs (n : Int) : Double.signed (decide (n < 0)) n.natAbs = n := by
  by_cases hneg : n < 0
  · simp only [hneg, decide_true, Double.signed, if_true]
    omega
  · simp only [hneg, decide_false, Double.signed, Bool.false_eq_true, if_false]
    omega

/-- Characters that lay digits out with the decimal point at a place. -/
def LaysOut (cs : List Char) (ds : List Nat) (point : Int) : Prop :=
  ∃ digits place, LayoutText cs digits place ∧
    (ofDigits digits * 10 ^ place : ℚ) = ofDigits ds * 10 ^ (point - ds.length)

section Layout

variable {ds : List Nat} (hne : ds ≠ []) (hlt : ∀ d ∈ ds, d < 10) (hfirst : ds.head? ≠ some 0)
  {point : Int}

include hne hlt

/-- All digits stand behind the point. -/
theorem laysOut_behind (hpoint : point ≤ 0) :
    LaysOut ('0' :: '.' :: (zeroDigits (-point).toNat ++ digitChars ds)) ds point := by
  have hlayout : LayoutText
      (digitChars [0] ++ '.' :: digitChars (List.replicate (-point).toNat 0 ++ ds)) _ _ :=
    .fixed (List.cons_ne_nil _ _) (List.append_ne_nil_of_right_ne_nil _ hne)
      (List.forall_mem_append.2 ⟨by decide,
        List.forall_mem_append.2 ⟨forall_mem_replicate_zero _, hlt⟩⟩) fun _ => rfl
  rw [zeroDigits_eq, ← digitChars_append]
  refine ⟨_, _, hlayout, ?_⟩
  have hzero : ofDigits [0] = 0 := rfl
  rw [ofDigits_append, ofDigits_append, ofDigits_zeros, hzero, List.length_append,
    List.length_replicate, Nat.zero_mul, Nat.zero_mul, Nat.zero_add, Nat.zero_add]
  congr 2
  omega

include hfirst

/-- All digits stand before the point. -/
theorem laysOut_before (hpoint : ds.length ≤ point.toNat) :
    LaysOut (digitChars ds ++ zeroDigits (point.toNat - ds.length) ++ ['.', '0']) ds point := by
  have hlayout : LayoutText
      (digitChars (ds ++ List.replicate (point.toNat - ds.length) 0) ++ '.' :: digitChars [0])
      _ _ :=
    .fixed (List.append_ne_nil_of_left_ne_nil hne _) (List.cons_ne_nil _ _)
      (List.forall_mem_append.2 ⟨List.forall_mem_append.2
        ⟨hlt, forall_mem_replicate_zero _⟩, by decide⟩)
      fun h => absurd ((List.head?_append_of_ne_nil _ hne).symm.trans h) hfirst
  rw [zeroDigits_eq, ← digitChars_append]
  refine ⟨_, _, hlayout, ?_⟩
  have hpos := List.length_pos_iff.2 hne
  obtain ⟨zeros, hzeros⟩ := Nat.exists_eq_add_of_le hpoint
  have hplace : point - ds.length = zeros := by omega
  rw [ofDigits_snoc, ofDigits_append, ofDigits_zeros, List.length_replicate, hplace,
    List.length_singleton, hzeros, Nat.add_sub_cancel_left, zpow_natCast, Nat.cast_one,
    zpow_neg_one]
  push_cast
  ring

/-- The point stands between the digits. -/
theorem laysOut_within (hpoint : 0 < point) (hwithin : point.toNat < ds.length) :
    LaysOut ((digitChars ds).take point.toNat ++ '.' :: (digitChars ds).drop point.toNat) ds
      point := by
  have hlayout : LayoutText
      (digitChars (ds.take point.toNat) ++ '.' :: digitChars (ds.drop point.toNat)) _ _ :=
    .fixed (fun h => (List.take_eq_nil_iff.1 h).elim (by omega) hne)
      (fun h => absurd (List.drop_eq_nil_iff.1 h) (Nat.not_le.2 hwithin))
      (by rwa [List.take_append_drop])
      (by rw [List.head?_take, if_neg (by omega)]; exact fun h => absurd h hfirst)
  rw [digitChars, ← List.map_take, ← List.map_drop]
  refine ⟨_, _, hlayout, ?_⟩
  rw [List.take_append_drop, List.length_drop]
  congr 2
  omega

/-- The point stands behind the first digit, and the exponent tells its place. -/
theorem laysOut_exponent :
    LaysOut ((match digitChars ds with
        | [] => []
        | [d] => [d]
        | d :: rest => d :: '.' :: rest) ++ 'e' :: (if point - 1 < 0 then '-' else '+') ::
      (if (decimalDigits (point - 1).natAbs).length < 2 then
        '0' :: decimalDigits (point - 1).natAbs else decimalDigits (point - 1).natAbs))
      ds point := by
  rcases exists_decimalDigits (point - 1).natAbs with ⟨es, hes, hesne, heslt, hvalue, -⟩
  obtain ⟨padded, hpadded, hpaddedne, hpaddedlt, hpaddedvalue⟩ :
      ∃ padded, (if (digitChars es).length < 2 then '0' :: digitChars es else digitChars es) =
        digitChars padded ∧ padded ≠ [] ∧ (∀ e ∈ padded, e < 10) ∧
        ofDigits padded = ofDigits es := by
    split
    · refine ⟨0 :: es, rfl, List.cons_ne_nil _ _, List.forall_mem_cons.2 ⟨by decide, heslt⟩, ?_⟩
      rw [ofDigits_cons, Nat.zero_mul, Nat.zero_add]
    · exact ⟨es, rfl, hesne, heslt, rfl⟩
  rw [hes, hpadded]
  cases ds with
  | nil => exact absurd rfl hne
  | cons d fraction =>
      have hlayout := LayoutText.exponent (decide (point - 1 < 0))
        (fun hzero => hfirst (congrArg some hzero)) hpaddedne
        (List.forall_mem_append.2 ⟨hlt, hpaddedlt⟩)
      have hplace : Double.signed (decide (point - 1 < 0)) (ofDigits padded) = point - 1 := by
        rw [hpaddedvalue, hvalue, Double.signed_natAbs]
      have hsign : (if decide (point - 1 < 0) = true then '-' else '+') =
          if point - 1 < 0 then '-' else '+' := by simp only [decide_eq_true_eq]
      have htext : (match digitChars (d :: fraction) with
            | [] => []
            | [d] => [d]
            | d :: rest => d :: '.' :: rest) =
          digitChars [d] ++ if fraction = [] then [] else '.' :: digitChars fraction := by
        cases fraction <;> rfl
      rw [hplace, hsign, ← List.append_assoc, ← htext] at hlayout
      refine ⟨_, _, hlayout, ?_⟩
      congr 2
      rw [List.length_cons]
      omega

/-- The layout of digits has their value, with the point at its place. -/
theorem laysOut_layout : LaysOut (layout (digitChars ds) point) ds point := by
  have hlength : (digitChars ds).length = ds.length := List.length_map _
  simp only [layout, hlength]
  split
  · split
    · next hpoint => exact laysOut_behind hne hlt hpoint
    · next hpoint =>
      split
      · next hbefore => exact laysOut_before hne hlt hfirst hbefore
      · next hwithin => exact laysOut_within hne hlt hfirst (by omega) (Nat.not_le.1 hwithin)
  · exact laysOut_exponent hne hlt hfirst

end Layout

/-- A layout of digits is a decimal. -/
theorem LayoutText.decimalText {cs sign : List Char} {digits : List Nat} {place : Int}
    {negative : Bool} (h : LayoutText cs digits place) (hsign : SignText sign negative) :
    DecimalText (sign ++ cs) ⟨negative, digits, place⟩ := by
  cases h with
  | @fixed whole fraction hwhole hfraction hlt _ =>
      rw [List.forall_mem_append] at hlt
      have htext := DecimalText.mk hsign (.present (digitRun_digitChars hwhole hlt.1))
        (.point (.present (digitRun_digitChars hfraction hlt.2))) .absent
        (List.append_ne_nil_of_left_ne_nil hwhole _)
      rwa [List.append_nil, zero_sub] at htext
  | @exponent d fraction es minus hd hpower hlt =>
      rw [List.cons_append, List.forall_mem_cons, List.forall_mem_append] at hlt
      have hfraction : FractionText
          (if fraction = [] then [] else '.' :: digitChars fraction) fraction := by
        split
        · next hnil =>
          rw [hnil]
          exact .absent
        · next hne => exact .point (.present (digitRun_digitChars hne hlt.2.1))
      have hminus : SignText [if minus = true then '-' else '+'] minus := by
        cases minus
        · exact .plus
        · exact .minus
      exact .mk hsign (.present (digitRun_digitChars (List.cons_ne_nil d [])
        (List.forall_mem_singleton.2 hlt.1))) hfraction
        (.present (.inl rfl) hminus (digitRun_digitChars hpower hlt.2.2)) (List.cons_ne_nil _ _)

/-! ## Characters of numbers -/

/-- The characters that numbers are written with. -/
def numeralChars : List Char := "0123456789.e+-".toList

theorem numeral_of_mem_digitChars {ds : List Nat} (h : ∀ d ∈ ds, d < 10) :
    ∀ c ∈ digitChars ds, c ∈ numeralChars := by
  have hall : ∀ d < 10, Nat.digitChar d ∈ numeralChars := by decide
  intro c hc
  rcases List.mem_map.1 hc with ⟨d, hd, rfl⟩
  exact hall d (h d hd)

theorem LayoutText.numeral_of_mem {cs : List Char} {digits : List Nat} {place : Int}
    (h : LayoutText cs digits place) : ∀ c ∈ cs, c ∈ numeralChars := by
  cases h with
  | fixed _ _ hlt _ =>
      rw [List.forall_mem_append] at hlt
      exact List.forall_mem_append.2 ⟨numeral_of_mem_digitChars hlt.1,
        List.forall_mem_cons.2 ⟨by decide, numeral_of_mem_digitChars hlt.2⟩⟩
  | @exponent d fraction es minus _ _ hlt =>
      rw [List.cons_append, List.forall_mem_cons, List.forall_mem_append] at hlt
      refine List.forall_mem_append.2
        ⟨numeral_of_mem_digitChars (List.forall_mem_singleton.2 hlt.1),
          List.forall_mem_append.2 ⟨?_, List.forall_mem_cons.2 ⟨by decide,
            List.forall_mem_cons.2 ⟨?_, numeral_of_mem_digitChars hlt.2.2⟩⟩⟩⟩
      · split
        · exact fun c hc => absurd hc List.not_mem_nil
        · exact List.forall_mem_cons.2 ⟨by decide, numeral_of_mem_digitChars hlt.2.1⟩
      · cases minus <;> decide

/-! ## Texts of doubles -/

namespace Double

/-- A decimal that reads back as a rank is rounded to that rank. -/
theorem rounds_of_readsBack {rank digits : Nat} {place : Int} (rank_lt : rank < infinityRank)
    (h : readsBack rank (decimalUnits digits place) = true) (negative : Bool) :
    (number negative rank (Nat.le_of_lt rank_lt)).Rounds negative (digits * 10 ^ place) := by
  rcases decimalUnits_eq digits place with ⟨hden, hvalue⟩
  generalize decimalUnits digits place = exact at h hden hvalue
  rcases exact with ⟨num, den⟩
  have hself := rounds_ofUnits negative num hden
  rw [← hvalue, mul_div_cancel_right₀ _ unit_ne_zero, ofUnits,
    (readsBack_iff_rankNearest hden).1 h] at hself
  simp only [ofRank, Nat.min_eq_left (Nat.le_of_lt rank_lt)] at hself
  exact hself

end Double

/-- The text of a rank lays out a decimal that is rounded to the rank. -/
theorem exists_rankText {rank : Nat} (hrank : 0 < rank) (rank_lt : rank < infinityRank) :
    ∃ digits place, LayoutText (rankText rank) digits place ∧
      ∀ negative, (Double.number negative rank (Nat.le_of_lt rank_lt)).Rounds negative
        (ofDigits digits * 10 ^ place) := by
  rcases readsBack_shortestDecimal hrank with ⟨hpos, hback⟩
  rw [rankText]
  generalize shortestDecimal rank = shortest at hpos hback ⊢
  rcases shortest with ⟨n, place⟩
  have hrounds := Double.rounds_of_readsBack rank_lt hback
  rcases exists_decimalDigits n with ⟨ds, hds, -, hlt, hvalue, hfirst⟩
  rcases exists_trimZeros hlt with ⟨kept, zeros, rfl, htrim⟩
  have hkept : ofDigits kept * 10 ^ zeros = n := by
    rwa [ofDigits_append, ofDigits_zeros, List.length_replicate, Nat.add_zero] at hvalue
  have hne : kept ≠ [] := by
    rintro rfl
    rw [ofDigits, List.foldl_nil, Nat.zero_mul] at hkept
    exact absurd hkept hpos.ne
  have hhead : kept.head? ≠ some 0 := by
    rw [List.head?_append_of_ne_nil _ hne] at hfirst
    intro h
    rw [hfirst h] at hvalue
    exact hpos.ne hvalue
  have hlength : (digitChars (kept ++ List.replicate zeros 0)).length = kept.length + zeros := by
    rw [digitChars, List.length_map, List.length_append, List.length_replicate]
  obtain ⟨digits, last, hlayout, hsame⟩ :
      LaysOut (layout (digitChars kept) (place + (kept.length + zeros : Nat))) kept
        (place + (kept.length + zeros : Nat)) :=
    laysOut_layout hne (fun d hd => hlt d (List.mem_append_left _ hd)) hhead
  refine ⟨digits, last, ?_, fun negative => ?_⟩
  · simp only [hds, hlength, htrim]
    exact hlayout
  · have hplace : place + (kept.length + zeros : Nat) - kept.length = zeros + place := by omega
    have hself := hrounds negative
    rw [← hkept, Nat.cast_mul, Nat.cast_pow, Nat.cast_ofNat, mul_assoc, ← zpow_natCast,
      ← zpow_add₀ (by norm_num)] at hself
    rwa [hsame, hplace]

namespace Double

/-- The characters of a sign. -/
def signChars (negative : Bool) : List Char := if negative then ['-'] else []

theorem signText_signChars (negative : Bool) : SignText (signChars negative) negative := by
  cases negative
  · exact .absent
  · exact .minus

theorem numeral_of_mem_signChars (negative : Bool) :
    ∀ c ∈ signChars negative, c ∈ numeralChars := by
  cases negative
  · exact fun c hc => absurd hc List.not_mem_nil
  · exact List.forall_mem_singleton.2 (by decide)

/-- The text of a finite double lays out a decimal that is rounded to it. -/
theorem exists_text {x : Double} (h : x.isFinite = true) :
    ∃ cs digits place, x.text.toList = signChars x.isNegative ++ cs ∧
      LayoutText cs digits place ∧ Decimal.toDouble ⟨x.isNegative, digits, place⟩ = x := by
  obtain ⟨cs, digits, place, htext, hlayout, hrounds⟩ :
      ∃ cs digits place, x.text.toList = signChars x.isNegative ++ cs ∧
        LayoutText cs digits place ∧ x.Rounds x.isNegative (ofDigits digits * 10 ^ place) := by
    rcases exists_number_of_isFinite h with ⟨negative, rank, rank_lt, rfl⟩
    have hinfinite : rank ≠ infinityRank := rank_lt.ne
    by_cases hzero : rank = 0
    · subst hzero
      have hlayout : LayoutText (digitChars [0] ++ '.' :: digitChars [0]) [0, 0] (-1) :=
        .fixed (List.cons_ne_nil _ _) (List.cons_ne_nil _ _) (by decide) fun _ => rfl
      have hzero : ofDigits [0, 0] = 0 := rfl
      refine ⟨_, _, _, ?_, hlayout, ?_⟩
      · rw [text, if_neg hinfinite, if_pos rfl, String.toList_ofList, signChars, isNegative]
        rfl
      · rw [hzero, Nat.cast_zero, zero_mul]
        exact rounds_zero negative
    · rcases exists_rankText (Nat.pos_of_ne_zero hzero) rank_lt with
        ⟨digits, place, hlayout, hrounds⟩
      refine ⟨_, digits, place, ?_, hlayout, hrounds negative⟩
      rw [text, if_neg hinfinite, if_neg hzero, String.toList_ofList, signChars, isNegative]
  have hdecimal := hlayout.decimalText (signText_signChars x.isNegative)
  exact ⟨cs, digits, place, htext, hlayout,
    (Decimal.rounds_toDouble hdecimal.lt).unique hrounds⟩

theorem numeral_of_mem_text {x : Double} (h : x.isFinite = true) :
    ∀ c ∈ x.text.toList, c ∈ numeralChars := by
  rcases exists_text h with ⟨cs, digits, place, htext, hlayout, -⟩
  rw [htext]
  exact List.forall_mem_append.2 ⟨numeral_of_mem_signChars _, hlayout.numeral_of_mem⟩

end Double

/-- The text of an integer has its sign and its digits. -/
theorem exists_toString (n : Int) :
    ∃ ds, (toString n).toList = Double.signChars (decide (n < 0)) ++ digitChars ds ∧
      ds.length = (decimalDigits n.natAbs).length ∧ ds ≠ [] ∧ (∀ d ∈ ds, d < 10) ∧
      (ds.head? = some 0 → ds = [0]) ∧ n = Double.signed (decide (n < 0)) (ofDigits ds) := by
  have htext : (toString n).toList =
      Double.signChars (decide (n < 0)) ++ decimalDigits n.natAbs := by
    cases n with
    | ofNat m =>
        have hnonneg : ¬(Int.ofNat m < 0) := Int.not_lt.2 (Int.natCast_nonneg m)
        rw [decide_eq_false hnonneg, Double.signChars, decimalDigits]
        exact String.toList_ofList
    | negSucc m =>
        rw [decide_eq_true (Int.negSucc_lt_zero m), Double.signChars, decimalDigits]
        change ("-" ++ Nat.repr (m + 1)).toList = _
        rw [String.toList_append, Nat.repr_eq_ofList_toDigits, String.toList_ofList,
          String.toList_ofList]
        rfl
  rcases exists_decimalDigits n.natAbs with ⟨ds, hds, hne, hlt, hvalue, hfirst⟩
  rw [hds] at htext ⊢
  refine ⟨ds, htext, (List.length_map _).symm, hne, hlt, hfirst, ?_⟩
  rw [hvalue, Double.signed_natAbs]

theorem numeral_of_mem_toString (n : Int) : ∀ c ∈ (toString n).toList, c ∈ numeralChars := by
  rcases exists_toString n with ⟨ds, htext, -, -, hlt, -, -⟩
  rw [htext]
  exact List.forall_mem_append.2
    ⟨Double.numeral_of_mem_signChars _, numeral_of_mem_digitChars hlt⟩

end Outreach
