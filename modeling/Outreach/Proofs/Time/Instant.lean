import Mathlib.Order.Compare
import Outreach.Proofs.Rule.Faults

/-!
# Arithmetic on Timestamps Is Exact

A timestamp brought to universal time shows the same instant, to the microsecond, and stands
as it is when it is brought there again. Only instants outside the years 1 to 9999 have no
timestamp in universal time. As all clocks of universal time are set alike, what they show by
year, month, day and time of day stands in the order of the instants.

The reference time of a rule on the last visit shows the time of day that the clock shows, on
the date from which the days of the rule lead to the present one, date by date.

## Main definitions

* `Timestamp.InYears`: The instants of the years 1 to 9999.
* `Timestamp.order`: How timestamps stand to each other by what their clocks show.

## Theorems

* `Timestamp.ofWall?_wall`: A clock is set to what it shows.
* `Timestamp.inYears_iff`: The instants of the years from the first to the last one.
* `Timestamp.Valid.of_inUtc`, `Timestamp.exists_inUtc_iff`: Universal time.
* `Timestamp.order_eq_compare`: What clocks that are set alike show.
* `Timestamp.Valid.of_minusDays?`: A clock set back by days.
* `Timestamp.arithmetic_exact`: All this for stored timestamps and rules.
-/

namespace Outreach

namespace Timestamp

variable {t u : Timestamp}

/-- The instants of the years 1 to 9999: those at which a clock of universal time shows a date
    of the calendar and a time of day. -/
def InYears (instant : Int) : Prop :=
  ∃ (date : Date) (time : Nat), date.Valid ∧ time < dayMicros ∧
    (date.dayNumber * dayMicros + time : Int) = instant

/-- How timestamps stand to each other by what their clocks show: the date decides before the
    time of day. -/
def order (t u : Timestamp) : Ordering :=
  (t.date.order u.date).then (compare t.time u.time)

/-! ## Clocks -/

/-- A clock is set to what it shows. -/
theorem ofWall?_wall (h : t.Valid) : ofWall? t.wall t.ahead = some t := by
  have hlimit := h.wall_lt
  have htime := h.2.1
  have hwall : t.wall.toNat = t.date.dayNumber * dayMicros + t.time := by
    rw [wall]
    omega
  have hpos : 0 < dayMicros := by decide
  rw [ofWall?, if_pos ⟨by rw [wall]; omega, hlimit⟩, hwall, Nat.mul_comm, Nat.mul_add_div hpos,
    Nat.mul_add_mod, Nat.div_eq_of_lt htime, Nat.mod_eq_of_lt htime, Nat.add_zero,
    Date.ofDayNumber_dayNumber h.1]

/-- A clock that is set shows a date of the calendar and a time of day. -/
theorem valid_of_ofWall? {w : Int} {ahead : Option Int} (h : ofWall? w ahead = some t)
    (hahead : ∀ o, ahead = some o → -(dayMicros : Int) < o ∧ o < dayMicros) : t.Valid := by
  rw [ofWall?] at h
  by_cases hw : 0 ≤ w ∧ w < dayLimit * dayMicros
  · rw [if_pos hw, Option.some.injEq] at h
    rw [← h]
    refine ⟨Date.valid_ofDayNumber ?_, Nat.mod_lt _ (by decide), hahead⟩
    refine Nat.div_lt_of_lt_mul ?_
    rw [Nat.mul_comm]
    omega
  · rw [if_neg hw] at h
    cases h

theorem ahead_zero :
    ∀ o : Int, some (0 : Int) = some o → -(dayMicros : Int) < o ∧ o < dayMicros := by
  intro o ho
  cases ho
  decide

/-- The years 1 to 9999 are the days of the calendar. -/
theorem inYears_iff {instant : Int} :
    InYears instant ↔ 0 ≤ instant ∧ instant < dayLimit * dayMicros := by
  constructor
  · rintro ⟨date, time, hdate, htime, rfl⟩
    have hvalid : (⟨date, time, some 0⟩ : Timestamp).Valid := ⟨hdate, htime, ahead_zero⟩
    have hdays : (0 : Int) ≤ date.dayNumber * dayMicros :=
      Int.mul_nonneg (Int.natCast_nonneg _) (Int.natCast_nonneg _)
    exact ⟨by omega, hvalid.wall_lt⟩
  · intro h
    have hset : ∃ t, ofWall? instant (some 0) = some t := exists_ofWall?_iff.2 h
    rcases hset with ⟨t, ht⟩
    have hvalid := valid_of_ofWall? ht ahead_zero
    exact ⟨t.date, t.time, hvalid.1, hvalid.2.1, (wall_ofWall? ht).1⟩

/-! ## Universal time -/

/-- A naive timestamp is set to universal time as if it had been aware. -/
theorem toUtc?_eq (h : t.Valid) : t.toUtc? = ofWall? t.instant (some 0) := by
  rw [toUtc?, instant]
  cases hahead : t.ahead with
  | some o => rfl
  | none =>
      have hutc : ({ t with ahead := some 0 } : Timestamp).Valid := ⟨h.1, h.2.1, ahead_zero⟩
      rw [Option.getD_none, Int.sub_zero]
      exact (ofWall?_wall hutc).symm

/-- What is brought to universal time shows the same instant, and is there already. -/
theorem Valid.of_inUtc (h : t.Valid) (hu : inUtc t = .ok u) :
    u.Valid ∧ u.ahead = some 0 ∧ u.instant = t.instant ∧ inUtc u = .ok u := by
  rw [inUtc_eq_ok_iff, toUtc?_eq h] at hu
  have hvalid := valid_of_ofWall? hu ahead_zero
  rcases wall_ofWall? hu with ⟨hwall, hahead⟩
  have hinstant : u.instant = t.instant := by
    rw [instant, hahead, hwall]
    exact Int.sub_zero _
  refine ⟨hvalid, hahead, hinstant, ?_⟩
  rw [inUtc_eq_ok_iff, toUtc?_eq hvalid, hinstant]
  exact hu

/-- The instants of the years 1 to 9999 have a timestamp in universal time. -/
theorem exists_inUtc_iff (h : t.Valid) : (∃ u, inUtc t = .ok u) ↔ InYears t.instant := by
  simp only [inUtc_eq_ok_iff, toUtc?_eq h]
  rw [exists_ofWall?_iff, inYears_iff]

/-- The others overflow. -/
theorem overflows_iff (h : t.Valid) :
    (∃ f, inUtc t = .error f ∧ f.kind = "OverflowError") ↔ ¬InYears t.instant := by
  rw [← exists_inUtc_iff h]
  cases hutc : inUtc t with
  | ok u => exact iff_of_false nofun fun hnone => hnone ⟨u, rfl⟩
  | error f =>
      rw [fault_of_inUtc hutc]
      exact iff_of_true ⟨_, rfl, rfl⟩ nofun

/-! ## Order -/

/-- Days decide before the time of day. -/
theorem compare_days {a b r s k : Nat} (hr : r < k) (hs : s < k) :
    compare (a * k + r) (b * k + s) = (compare a b).then (compare r s) := by
  have hstep : ∀ {a b r s : Nat}, r < k → a < b → a * k + r < b * k + s := by
    intro a b r s hr hab
    have hnext := Nat.mul_le_mul_right k hab
    rw [Nat.succ_mul] at hnext
    omega
  rcases Nat.lt_trichotomy a b with hlt | rfl | hgt
  · rw [Nat.compare_eq_lt.2 hlt, Nat.compare_eq_lt.2 (hstep hr hlt)]
    rfl
  · rw [Nat.compare_eq_eq.2 rfl, Ordering.eq_then]
    rcases Nat.lt_trichotomy r s with hlt | rfl | hgt
    · rw [Nat.compare_eq_lt.2 hlt, Nat.compare_eq_lt.2 (Nat.add_lt_add_left hlt _)]
    · rw [Nat.compare_eq_eq.2 rfl, Nat.compare_eq_eq.2 rfl]
    · rw [Nat.compare_eq_gt.2 hgt, Nat.compare_eq_gt.2 (Nat.add_lt_add_left hgt _)]
  · rw [Nat.compare_eq_gt.2 hgt, Nat.compare_eq_gt.2 (hstep hs hgt)]
    rfl

theorem compare_natCast (a b : Nat) : compare (a : Int) (b : Int) = compare a b := by
  rcases Nat.lt_trichotomy a b with hlt | rfl | hgt
  · rw [compare_lt_iff_lt.2 (Int.ofNat_lt.2 hlt), compare_lt_iff_lt.2 hlt]
  · rw [compare_eq_iff_eq.2 rfl, compare_eq_iff_eq.2 rfl]
  · rw [compare_gt_iff_gt.2 (Int.ofNat_lt.2 hgt), compare_gt_iff_gt.2 hgt]

/-- What two clocks of universal time show stands as the instants do. -/
theorem order_eq_compare (ht : t.Valid) (hu : u.Valid) (hahead : t.ahead = some 0)
    (hahead' : u.ahead = some 0) : t.order u = compare t.instant u.instant := by
  have hinstant : ∀ {v : Timestamp}, v.ahead = some 0 →
      v.instant = ((v.date.dayNumber * dayMicros + v.time : Nat) : Int) := by
    intro v hv
    rw [instant, hv]
    exact Int.sub_zero _
  rw [hinstant hahead, hinstant hahead', compare_natCast, compare_days ht.2.1 hu.2.1, order,
    Date.order_eq_compare ht.1 hu.1]

/-! ## Days ago -/

/-- A clock set back by days shows the same time of day, on the date from which these days lead
    to its own. -/
theorem Valid.of_minusDays? {days : Nat} (h : t.Valid) (hback : t.minusDays? days = some u) :
    u.Valid ∧ u.ahead = t.ahead ∧ u.time = t.time ∧ u.instant = t.instant - days * dayMicros ∧
      Date.next^[days] u.date = t.date := by
  rcases instant_minusDays? hback with ⟨hinstant, hahead⟩
  rw [minusDays?] at hback
  by_cases hdays : days ≤ dayCountLimit
  · rw [if_pos hdays] at hback
    have hvalid := valid_of_ofWall? hback h.2.2
    have hwall := (wall_ofWall? hback).1
    -- A day of the clock is a day of the calendar, so the rests are the same.
    have htime := h.2.1
    have htime' := hvalid.2.1
    simp only [wall, dayMicros] at hwall htime htime'
    refine ⟨hvalid, hahead, by omega, hinstant, Date.iterate_next h.1 hvalid.1 ?_⟩
    omega
  · rw [if_neg hdays] at hback
    cases hback

/-- Arithmetic on timestamps is exact.

    Numbers of dates count the days from the first one, and instants count microseconds. What is
    brought to universal time overflows just if its instant is outside the years 1 to 9999; else
    it shows the same instant, and stands when it is brought there again. Timestamps that were
    brought there stand to each other, compared or read off, as the instants that were given.
    The reference time of a rule on the last visit is as far ahead as the present, shows the same
    time of day, and lies the days of the rule before, in seconds as in dates. -/
theorem arithmetic_exact :
    ((⟨1, 1, 1⟩ : Date).dayNumber = 0 ∧
      ∀ d : Date, d.Valid → d.next.dayNumber = d.dayNumber + 1) ∧
    (∀ t : Timestamp, t.Valid →
      ((∃ f, inUtc t = .error f ∧ f.kind = "OverflowError") ↔ ¬InYears t.instant) ∧
      (InYears t.instant → ∃ u, inUtc t = .ok u ∧ u.Valid ∧ u.ahead = some 0 ∧
        u.instant = t.instant ∧ inUtc u = .ok u)) ∧
    (∀ t t' u u' : Timestamp, t.Valid → t'.Valid → inUtc t = .ok u → inUtc t' = .ok u' →
      u.compare? u' = some (compare t.instant t'.instant) ∧
        u.order u' = compare t.instant t'.instant) ∧
    ∀ (now : Timestamp) (r : Rule) (p : Predicate), now.Valid → r.field = .lastVisit →
      Rule.compileOne now r = .ok p →
        ∃ days back, Rule.dayCount r.value = .ok days ∧
          p = .compare .lastVisit r.operator.inverted (.time back) ∧ back.Valid ∧
          back.ahead = now.ahead ∧ back.time = now.time ∧
          back.instant = now.instant - days * 86400 * secondMicros ∧
          Date.next^[days] back.date = now.date := by
  refine ⟨⟨rfl, fun d => Date.dayNumber_next⟩, ?_, ?_, ?_⟩
  · intro t ht
    refine ⟨overflows_iff ht, fun hyears => ?_⟩
    rcases (exists_inUtc_iff ht).2 hyears with ⟨u, hu⟩
    exact ⟨u, hu, ht.of_inUtc hu⟩
  · intro t t' u u' ht ht' hu hu'
    rcases ht.of_inUtc hu with ⟨hvalid, hahead, hinstant, -⟩
    rcases ht'.of_inUtc hu' with ⟨hvalid', hahead', hinstant', -⟩
    rw [compare?, isAware, isAware, hahead, hahead', if_pos rfl,
      order_eq_compare hvalid hvalid' hahead hahead', hinstant, hinstant']
    exact ⟨rfl, rfl⟩
  · intro now r p hnow hfield hp
    rcases Rule.eq_of_compileOne hp with ⟨x, hnumber, -⟩ | ⟨back, -, hreference, hp⟩
    · rw [hfield] at hnumber
      rcases hnumber with hnumber | hnumber <;> cases hnumber
    · rcases Rule.reference_eq_ok_iff.1 hreference with ⟨days, hdays, hback⟩
      rcases hnow.of_minusDays? hback with ⟨hvalid, hahead, htime, hinstant, hdate⟩
      refine ⟨days, back, hdays, hp, hvalid, hahead, htime, ?_, hdate⟩
      rw [hinstant, Int.mul_assoc]
      rfl

/-- The first moment of the calendar on a clock that is ahead of universal time, and a rule that
    leads back over the end of a February. -/
theorem arithmetic_exact_sample :
    let early : Timestamp := ⟨⟨1, 1, 1⟩, 0, some 3600000000⟩
    let now : Timestamp := ⟨⟨2024, 3, 1⟩, 1, some 19800000000⟩
    let r : Rule := ⟨.lastVisit, .greater, "1", .and⟩
    (early.Valid ∧ ¬InYears early.instant ∧ now.Valid ∧ InYears now.instant ∧
      ∃ p, Rule.compileOne now r = .ok p) ∧
      (∃ f, inUtc early = .error f ∧ f.kind = "OverflowError") ∧
      (∃ u, inUtc now = .ok u ∧ inUtc u = .ok u ∧ u.compare? u = some .eq) ∧
      ∃ back : Timestamp, Rule.compileOne now r = .ok (.compare .lastVisit .lt (.time back)) ∧
        back.time = 1 ∧ Date.next back.date = ⟨2024, 3, 1⟩ := by
  intro early now r
  have hearly : early.Valid := ⟨by decide, by decide, fun o ho => by cases ho; decide⟩
  have hout : ¬InYears early.instant := by
    rw [inYears_iff]
    decide +kernel
  have hnow : now.Valid := ⟨by decide, by decide, fun o ho => by cases ho; decide⟩
  have hin : InYears now.instant := by
    rw [inYears_iff]
    decide +kernel
  have hparses : r.Parses now := by decide +kernel
  rcases Rule.exists_compileOne_iff.2 hparses with ⟨p, hp⟩
  rcases arithmetic_exact with ⟨-, hutc, horder, hrule⟩
  rcases (hutc now hnow).2 hin with ⟨u, hu, -, -, -, hagain⟩
  have hsame := (horder now now u u hnow hnow hu hu).1
  rw [compare_eq_iff_eq.2 rfl] at hsame
  rcases hrule now r p hnow rfl hp with ⟨days, back, hdays, rfl, -, -, htime, -, hdate⟩
  have hone : days = 1 := by
    have hcount : Rule.dayCount r.value = .ok 1 := by decide +kernel
    exact Except.ok.inj (hdays.symm.trans hcount)
  rw [hone] at hdate
  exact ⟨⟨hearly, hout, hnow, hin, _, hp⟩, (hutc early hearly).1.2 hout, ⟨u, hu, hagain, hsame⟩,
    back, hp, htime, hdate⟩

end Timestamp

end Outreach
