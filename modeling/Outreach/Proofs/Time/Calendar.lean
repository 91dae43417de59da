import Mathlib.Order.Monotone.Basic
import Outreach.Time.Timestamp

/-!
# The Calendar Counts Days

The date with a number of days before it has just that many days before it. A
clock that is set by a count of microseconds therefore shows that count, and a
clock set back by whole days shows an instant that many days earlier. It can be
set back as far as the calendar goes, and never by more than the most days that
can be counted.

The dates of the calendar follow one another: the next one is a day later in its
month, or else the first of the next month, or of the next year. This is all that
the number of a date counts, so it grows by one from each date to the next. Dates
stand to each other as their numbers do, and there is just one date for each
number.

## Main definitions

* `Date.next`: The date after another.
* `Date.order`: How dates stand to each other by year, month and day.

## Theorems

* `Date.daysBeforeYear_of_cycle`: The days before a year, by cycle, century,
  four years and year.
* `Date.exists_dayOfYear`: The year and the day of the year of a date with a number.
* `Date.dayNumber_ofDayNumber`: From a number of days to a date and back.
* `Date.Valid.dayNumber_lt`: The dates of the calendar are within its days.
* `Date.dayNumber_next`, `Date.Valid.next`: The number of the next date.
* `Date.order_eq_compare`: Dates stand to each other as their numbers do.
* `Date.valid_ofDayNumber`, `Date.ofDayNumber_dayNumber`: The date with a number.
* `Date.iterate_next`: A date some days later.
* `Timestamp.wall_ofWall?`, `Timestamp.exists_ofWall?_iff`: From what a clock shows to a
  timestamp and back.
* `Timestamp.instant_minusDays?`: A clock set back by days.
* `Timestamp.exists_minusDays?_iff`: How far it can be set back.
-/

namespace Outreach

theorem total_take_succ (xs : List Nat) (k : Nat) :
    total (xs.take (k + 1)) = total (xs.take k) + xs.getD k 0 := by
  induction xs generalizing k with
  | nil => simp only [List.take_nil, List.getD_nil, Nat.add_zero]
  | cons n rest ih =>
      cases k with
      | zero =>
          rw [List.take_succ_cons, List.take_zero, List.take_zero, List.getD_cons_zero, total]
          exact Nat.add_comm n 0
      | succ k =>
          rw [List.take_succ_cons, List.take_succ_cons, total, total, ih, List.getD_cons_succ,
            Nat.add_assoc]

namespace Date

/-! ## The number of a date -/

/-- The days before a year, by cycle, century, four years and year. -/
theorem daysBeforeYear_of_cycle (cycle : Nat) {century four one : Nat} (hcentury : century ≤ 3)
    (hfour : four ≤ 24) (hone : one ≤ 3) :
    daysBeforeYear (400 * cycle + 100 * century + 4 * four + one + 1) =
      146097 * cycle + 36524 * century + 1461 * four + 365 * one := by
  simp only [daysBeforeYear]
  omega

/-- Among the years of a century the fourth ones are leap years, and the last one
    only at the end of a cycle. -/
theorem isLeap_of_cycle (cycle : Nat) {century four one : Nat} (hcentury : century ≤ 3)
    (hfour : four ≤ 24) (hone : one ≤ 3) :
    isLeap (400 * cycle + 100 * century + 4 * four + one + 1) = true ↔
      one = 3 ∧ (four = 24 → century = 3) := by
  simp only [isLeap, Bool.and_eq_true, Bool.or_eq_true, beq_iff_eq, bne_iff_ne]
  omega

theorem total_monthLengths (leap : Bool) :
    total (monthLengths leap) = if leap then 366 else 365 := by
  cases leap <;> rfl

/-- The month and day of a day of the year have that many days before them. -/
theorem monthAndDay_spec (lengths : List Nat) : ∀ month rest : Nat, rest < total lengths →
    month ≤ (monthAndDay lengths month rest).1 ∧
      total (lengths.take ((monthAndDay lengths month rest).1 - month)) +
        ((monthAndDay lengths month rest).2 - 1) = rest := by
  induction lengths with
  | nil =>
      intro month rest h
      exact absurd h (Nat.not_lt_zero rest)
  | cons length lengths ih =>
      intro month rest h
      rw [total] at h
      by_cases hrest : rest < length
      · rw [monthAndDay, if_pos hrest, Nat.sub_self, List.take_zero, total]
        exact ⟨Nat.le_refl month, by omega⟩
      -- Behind the first month, its days are taken off.
      · rw [monthAndDay, if_neg hrest]
        rcases ih (month + 1) (rest - length) (by omega) with ⟨hmonth, hdays⟩
        generalize monthAndDay lengths (month + 1) (rest - length) = found at hmonth hdays
        have hsucc : found.1 - month = found.1 - (month + 1) + 1 := by omega
        rw [hsucc, List.take_succ_cons, total]
        exact ⟨by omega, by omega⟩

/-- The year and the day of the year of a date with a number. -/
theorem exists_dayOfYear (n : Nat) : ∃ year inYear, 1 ≤ year ∧
    ofDayNumber n = ⟨year, (monthAndDay (monthLengths (isLeap year)) 1 inYear).1,
      (monthAndDay (monthLengths (isLeap year)) 1 inYear).2⟩ ∧
    n = daysBeforeYear year + inYear ∧ inYear < total (monthLengths (isLeap year)) := by
  simp only [ofDayNumber]
  generalize hcycle : n / 146097 = cycle
  generalize hinCycle : n % 146097 = inCycle
  generalize hcentury : min (inCycle / 36524) 3 = century
  generalize hinCentury : inCycle - century * 36524 = inCentury
  generalize hfour : inCentury / 1461 = four
  generalize hinFour : inCentury % 1461 = inFour
  generalize hone : min (inFour / 365) 3 = one
  generalize hinYear : inFour - one * 365 = inYear
  -- The last day of a cycle would begin a fifth century, but for the minimum;
  -- so it is with the last day of four years.
  have hcentury3 : century ≤ 3 := by omega
  have hfour24 : four ≤ 24 := by omega
  have hone3 : one ≤ 3 := by omega
  have hyear := daysBeforeYear_of_cycle cycle hcentury3 hfour24 hone3
  have hleap := isLeap_of_cycle cycle hcentury3 hfour24 hone3
  refine ⟨_, inYear, Nat.le_add_left 1 _, rfl, by omega, ?_⟩
  -- The day of the year lies within the year: only leap years have the last one.
  rw [total_monthLengths]
  by_cases h : isLeap (400 * cycle + 100 * century + 4 * four + one + 1) = true
  · rw [if_pos h]
    omega
  · rw [if_neg h]
    rw [hleap] at h
    omega

/-- The date with a number of days before it has just that many days before
    it. -/
theorem dayNumber_ofDayNumber (n : Nat) : (ofDayNumber n).dayNumber = n := by
  rcases exists_dayOfYear n with ⟨year, inYear, -, hdate, hnumber, hwithin⟩
  rcases monthAndDay_spec _ 1 inYear hwithin with ⟨-, hdays⟩
  rw [hdate, dayNumber, daysBeforeMonth, hnumber]
  simp only
  omega

/-- No year of the calendar ends behind its last day. -/
theorem daysBeforeYear_add_total_le {year : Nat} (hfirst : 1 ≤ year) (hlast : year ≤ 9999) :
    daysBeforeYear year + total (monthLengths (isLeap year)) ≤ dayLimit := by
  rw [total_monthLengths]
  simp only [daysBeforeYear, dayLimit]
  -- The last year of all is not a leap year.
  by_cases hleap : isLeap year = true
  · rw [if_pos hleap]
    simp only [isLeap, Bool.and_eq_true, Bool.or_eq_true, beq_iff_eq, bne_iff_ne] at hleap
    omega
  · rw [if_neg hleap]
    omega

/-- The dates of the calendar are within its days. -/
theorem Valid.dayNumber_lt {d : Date} (h : d.Valid) : d.dayNumber < dayLimit := by
  rcases h with ⟨hfirst, hlast, hday, hmonth⟩
  have hyear := daysBeforeYear_add_total_le hfirst hlast
  rw [monthLength] at hmonth
  by_cases hzero : d.month = 0
  · rw [if_pos hzero] at hmonth
    omega
  · rw [if_neg hzero] at hmonth
    have hmonths := total_take_add_getD (monthLengths (isLeap d.year)) (d.month - 1)
    rw [dayNumber, daysBeforeMonth]
    omega

/-! ## Months and years -/

theorem monthLength_eq {month : Nat} (hmonth : 1 ≤ month) (year : Nat) :
    monthLength year month = (monthLengths (isLeap year)).getD (month - 1) 0 :=
  if_neg (Nat.ne_of_gt hmonth)

theorem length_monthLengths (leap : Bool) : (monthLengths leap).length = 12 := rfl

/-- A month that has days is one of twelve. -/
theorem month_of_monthLength {year month : Nat} (h : 1 ≤ monthLength year month) :
    1 ≤ month ∧ month ≤ 12 := by
  have hmonth : 1 ≤ month := by
    rcases Nat.eq_zero_or_pos month with rfl | hpos
    · cases h
    · exact hpos
  refine ⟨hmonth, ?_⟩
  by_contra hlate
  have hbehind : (monthLengths (isLeap year)).length ≤ month - 1 := by
    rw [length_monthLengths]
    omega
  rw [monthLength_eq hmonth, List.getD_eq_getElem?_getD, List.getElem?_eq_none hbehind] at h
  cases h

/-- Each of the twelve months has days. -/
theorem one_le_monthLength {month : Nat} (hfirst : 1 ≤ month) (hlast : month ≤ 12) (year : Nat) :
    1 ≤ monthLength year month := by
  have hall : ∀ leap, ∀ n ∈ monthLengths leap, 1 ≤ n := by decide
  have hin : month - 1 < (monthLengths (isLeap year)).length := by
    rw [length_monthLengths]
    omega
  rw [monthLength_eq hfirst, ← List.getElem_eq_getD (h := hin) 0]
  exact hall _ _ (List.getElem_mem hin)

theorem Valid.month {d : Date} (h : d.Valid) : 1 ≤ d.month ∧ d.month ≤ 12 :=
  month_of_monthLength (Nat.le_trans h.2.2.1 h.2.2.2)

/-- The days before the next month. -/
theorem daysBeforeMonth_succ {month : Nat} (hmonth : 1 ≤ month) (year : Nat) :
    daysBeforeMonth year (month + 1) = daysBeforeMonth year month + monthLength year month := by
  have hsucc : month + 1 - 1 = month - 1 + 1 := by omega
  rw [daysBeforeMonth, hsucc, total_take_succ, ← monthLength_eq hmonth, daysBeforeMonth]

/-- The days before a later month of the year. -/
theorem daysBeforeMonth_le (year : Nat) {month later : Nat} (h : month ≤ later) :
    daysBeforeMonth year month ≤ daysBeforeMonth year later := by
  refine monotone_nat_of_le_succ (fun m => ?_) h
  rcases Nat.eq_zero_or_pos m with rfl | hm
  · exact Nat.le_refl _
  · rw [daysBeforeMonth_succ hm]
    exact Nat.le_add_right _ _

theorem daysBeforeMonth_end (year : Nat) :
    daysBeforeMonth year 13 = total (monthLengths (isLeap year)) := rfl

/-- The days before the next year. -/
theorem daysBeforeYear_succ {year : Nat} (hyear : 1 ≤ year) :
    daysBeforeYear (year + 1) = daysBeforeYear year + total (monthLengths (isLeap year)) := by
  rw [total_monthLengths]
  simp only [daysBeforeYear, Nat.add_sub_cancel]
  by_cases hleap : isLeap year = true
  · rw [if_pos hleap]
    simp only [isLeap, Bool.and_eq_true, Bool.or_eq_true, beq_iff_eq, bne_iff_ne] at hleap
    omega
  · rw [if_neg hleap]
    simp only [isLeap, Bool.and_eq_true, Bool.or_eq_true, beq_iff_eq, bne_iff_ne, not_and_or,
      not_or, not_not] at hleap
    rcases hleap with hfour | ⟨hcentury, hcycle⟩
    -- No quotient grows behind a year that is no multiple of four.
    · have h4 : (year - 1) / 4 = year / 4 := by omega
      have h100 : (year - 1) / 100 = year / 100 := by omega
      have h400 : (year - 1) / 400 = year / 400 := by omega
      rw [h4, h100, h400]
      omega
    · omega

theorem daysBeforeYear_le {year later : Nat} (h : year ≤ later) :
    daysBeforeYear year ≤ daysBeforeYear later := by
  refine monotone_nat_of_le_succ (fun y => ?_) h
  rcases Nat.eq_zero_or_pos y with rfl | hy
  · exact Nat.le_refl _
  · rw [daysBeforeYear_succ hy]
    exact Nat.le_add_right _ _

theorem daysBeforeYear_limit : daysBeforeYear 10000 = dayLimit := rfl

/-! ## The next date -/

variable {d e : Date}

/-- The date after another. -/
def next (d : Date) : Date :=
  if d.day < monthLength d.year d.month then ⟨d.year, d.month, d.day + 1⟩
  else if d.month < 12 then ⟨d.year, d.month + 1, 1⟩
  else ⟨d.year + 1, 1, 1⟩

/-- From a date to the next the number grows by one. -/
theorem dayNumber_next (h : d.Valid) : d.next.dayNumber = d.dayNumber + 1 := by
  have hmonth := h.month
  rcases h with ⟨hfirst, -, hday, hlength⟩
  rw [next]
  by_cases hwithin : d.day < monthLength d.year d.month
  · rw [if_pos hwithin, dayNumber, dayNumber]
    simp only
    omega
  rw [if_neg hwithin]
  by_cases hdecember : d.month < 12
  · rw [if_pos hdecember, dayNumber, dayNumber]
    simp only [daysBeforeMonth_succ hmonth.1]
    omega
  · -- The last month ends with the year.
    rw [if_neg hdecember, dayNumber, dayNumber]
    have hlast : d.month = 12 := Nat.le_antisymm hmonth.2 (Nat.not_lt.1 hdecember)
    have hend := daysBeforeMonth_succ hmonth.1 d.year
    rw [hlast, daysBeforeMonth_end] at hend
    have hstart : daysBeforeMonth (d.year + 1) 1 = 0 := rfl
    rw [hlast] at hwithin hlength
    simp only [daysBeforeYear_succ hfirst, hstart, hlast]
    omega

/-- The next date is one of the calendar, unless the calendar ends. -/
theorem Valid.next (h : d.Valid) (hlimit : d.dayNumber + 1 < dayLimit) : d.next.Valid := by
  have hmonth := h.month
  have hnumber := dayNumber_next h
  rcases h with ⟨hfirst, hlast, hday, hlength⟩
  rw [Date.next] at hnumber ⊢
  by_cases hwithin : d.day < monthLength d.year d.month
  · rw [if_pos hwithin]
    exact ⟨hfirst, hlast, Nat.le_add_left 1 d.day, hwithin⟩
  rw [if_neg hwithin] at hnumber ⊢
  by_cases hdecember : d.month < 12
  · rw [if_pos hdecember]
    exact ⟨hfirst, hlast, Nat.le_refl 1, one_le_monthLength (Nat.le_add_left 1 d.month) hdecember _⟩
  · rw [if_neg hdecember] at hnumber ⊢
    refine ⟨Nat.le_add_left 1 d.year, ?_, Nat.le_refl 1,
      one_le_monthLength (Nat.le_refl 1) (by decide) _⟩
    -- The first day of a year behind the last one would be too late.
    by_contra hbehind
    have hlate : daysBeforeYear 10000 ≤ daysBeforeYear (d.year + 1) :=
      daysBeforeYear_le (Nat.not_le.1 hbehind)
    rw [daysBeforeYear_limit] at hlate
    rw [dayNumber] at hnumber
    simp only at hnumber
    omega

/-! ## Order -/

/-- How dates stand to each other by year, month and day. -/
def order (d e : Date) : Ordering :=
  (compare d.year e.year).then ((compare d.month e.month).then (compare d.day e.day))

/-- A date of an earlier year has a lower number. -/
theorem dayNumber_lt_of_year (hd : d.Valid) (h : d.year < e.year) : d.dayNumber < e.dayNumber := by
  have hmonth := hd.month
  rcases hd with ⟨hfirst, -, hday, hlength⟩
  have hend := daysBeforeMonth_succ hmonth.1 d.year
  have hyear := daysBeforeMonth_le d.year (Nat.add_le_add_right hmonth.2 1)
  rw [daysBeforeMonth_end] at hyear
  have hnext := daysBeforeYear_succ hfirst
  have hlater : daysBeforeYear (d.year + 1) ≤ daysBeforeYear e.year := daysBeforeYear_le h
  rw [dayNumber, dayNumber]
  omega

/-- So has one of an earlier month of the same year. -/
theorem dayNumber_lt_of_month (hd : d.Valid) (hyear : d.year = e.year) (h : d.month < e.month) :
    d.dayNumber < e.dayNumber := by
  have hmonth := hd.month
  rcases hd with ⟨-, -, hday, hlength⟩
  have hend := daysBeforeMonth_succ hmonth.1 d.year
  have hlater : daysBeforeMonth d.year (d.month + 1) ≤ daysBeforeMonth d.year e.month :=
    daysBeforeMonth_le d.year h
  rw [dayNumber, dayNumber, ← hyear]
  omega

/-- Dates stand to each other as their numbers do. -/
theorem order_eq_compare (hd : d.Valid) (he : e.Valid) :
    d.order e = compare d.dayNumber e.dayNumber := by
  rw [order]
  rcases Nat.lt_trichotomy d.year e.year with hlt | hyear | hgt
  · rw [Nat.compare_eq_lt.2 hlt, Nat.compare_eq_lt.2 (dayNumber_lt_of_year hd hlt)]
    rfl
  · rw [Nat.compare_eq_eq.2 hyear, Ordering.eq_then]
    rcases Nat.lt_trichotomy d.month e.month with hlt | hmonth | hgt
    · rw [Nat.compare_eq_lt.2 hlt, Nat.compare_eq_lt.2 (dayNumber_lt_of_month hd hyear hlt)]
      rfl
    · have hday := hd.2.2.1
      have hday' := he.2.2.1
      rw [Nat.compare_eq_eq.2 hmonth, Ordering.eq_then, dayNumber, dayNumber, hyear, hmonth]
      rcases Nat.lt_trichotomy d.day e.day with hlt | hsame | hgt
      · rw [Nat.compare_eq_lt.2 hlt, Nat.compare_eq_lt.2 (by omega)]
      · rw [hsame, Nat.compare_eq_eq.2 rfl, Nat.compare_eq_eq.2 rfl]
      · rw [Nat.compare_eq_gt.2 hgt, Nat.compare_eq_gt.2 (by omega)]
    · rw [Nat.compare_eq_gt.2 hgt,
        Nat.compare_eq_gt.2 (dayNumber_lt_of_month he hyear.symm hgt)]
      rfl
  · rw [Nat.compare_eq_gt.2 hgt, Nat.compare_eq_gt.2 (dayNumber_lt_of_year he hgt)]
    rfl

/-- There is one date for each number. -/
theorem eq_of_dayNumber_eq (hd : d.Valid) (he : e.Valid) (h : d.dayNumber = e.dayNumber) :
    d = e := by
  have horder : d.order e = .eq := by
    rw [order_eq_compare hd he, Nat.compare_eq_eq.2 h]
  simp only [order, Ordering.then_eq_eq, Nat.compare_eq_eq] at horder
  rcases d with ⟨year, month, day⟩
  rcases e with ⟨year', month', day'⟩
  rcases horder with ⟨rfl, rfl, rfl⟩
  rfl

/-! ## The date with a number -/

/-- The month and day of a day of the year are a month and a day of it. -/
theorem monthAndDay_within (lengths : List Nat) : ∀ month rest : Nat, rest < total lengths →
    1 ≤ (monthAndDay lengths month rest).2 ∧
      (monthAndDay lengths month rest).2 ≤
        lengths.getD ((monthAndDay lengths month rest).1 - month) 0 := by
  induction lengths with
  | nil =>
      intro month rest h
      exact absurd h (Nat.not_lt_zero rest)
  | cons length lengths ih =>
      intro month rest h
      rw [total] at h
      by_cases hrest : rest < length
      · rw [monthAndDay, if_pos hrest, Nat.sub_self, List.getD_cons_zero]
        exact ⟨Nat.le_add_left 1 rest, hrest⟩
      · rw [monthAndDay, if_neg hrest]
        have hlater : rest - length < total lengths := by omega
        have hmonth := (monthAndDay_spec lengths (month + 1) (rest - length) hlater).1
        have hday := ih (month + 1) (rest - length) hlater
        generalize monthAndDay lengths (month + 1) (rest - length) = found at hmonth hday
        have hsucc : found.1 - month = found.1 - (month + 1) + 1 := by omega
        rw [hsucc, List.getD_cons_succ]
        exact hday

/-- The date with a number of days of the calendar before it is one of the calendar. -/
theorem valid_ofDayNumber {n : Nat} (h : n < dayLimit) : (ofDayNumber n).Valid := by
  rcases exists_dayOfYear n with ⟨year, inYear, hyear, hdate, hnumber, hwithin⟩
  have hspec := monthAndDay_spec _ 1 inYear hwithin
  have hday := monthAndDay_within _ 1 inYear hwithin
  rw [hdate]
  refine ⟨hyear, ?_, hday.1, ?_⟩
  · -- A later year would begin behind the calendar.
    by_contra hlate
    have hbehind : daysBeforeYear 10000 ≤ daysBeforeYear year :=
      daysBeforeYear_le (Nat.not_le.1 hlate)
    rw [daysBeforeYear_limit] at hbehind
    omega
  · rw [monthLength_eq hspec.1]
    exact hday.2

/-- From a date to its number and back. -/
theorem ofDayNumber_dayNumber (h : d.Valid) : ofDayNumber d.dayNumber = d :=
  eq_of_dayNumber_eq (valid_ofDayNumber h.dayNumber_lt) h (dayNumber_ofDayNumber d.dayNumber)

/-- A date some days later is reached from date to date. -/
theorem iterate_next (he : e.Valid) : ∀ {days : Nat} {d : Date}, d.Valid →
    d.dayNumber + days = e.dayNumber → next^[days] d = e := by
  intro days
  induction days with
  | zero => exact fun hd hnumber => eq_of_dayNumber_eq hd he hnumber
  | succ days ih =>
      intro d hd hnumber
      have hlimit := he.dayNumber_lt
      rw [Function.iterate_succ_apply]
      refine ih (hd.next (by omega)) ?_
      rw [dayNumber_next hd]
      omega

end Date

namespace Timestamp

/-- A clock that is set shows what it is set to. -/
theorem wall_ofWall? {w : Int} {ahead : Option Int} {t : Timestamp}
    (h : ofWall? w ahead = some t) : t.wall = w ∧ t.ahead = ahead := by
  rw [ofWall?] at h
  by_cases hw : 0 ≤ w ∧ w < dayLimit * dayMicros
  · rw [if_pos hw, Option.some.injEq] at h
    rw [← h, wall, Date.dayNumber_ofDayNumber]
    refine ⟨?_, rfl⟩
    simp only [dayMicros]
    omega
  · rw [if_neg hw] at h
    cases h

/-- A clock can be set to the times of the calendar. -/
theorem exists_ofWall?_iff {w : Int} {ahead : Option Int} :
    (∃ t, ofWall? w ahead = some t) ↔ 0 ≤ w ∧ w < dayLimit * dayMicros := by
  rw [ofWall?]
  by_cases hw : 0 ≤ w ∧ w < dayLimit * dayMicros
  · rw [if_pos hw]
    exact iff_of_true ⟨_, rfl⟩ hw
  · rw [if_neg hw]
    refine iff_of_false ?_ hw
    rintro ⟨t, ht⟩
    cases ht

/-- A clock set back by days shows an instant that many days earlier. -/
theorem instant_minusDays? {t reference : Timestamp} {days : Nat}
    (h : t.minusDays? days = some reference) :
    reference.instant = t.instant - days * dayMicros ∧ reference.ahead = t.ahead := by
  rw [minusDays?] at h
  by_cases hdays : days ≤ dayCountLimit
  · rw [if_pos hdays] at h
    rcases wall_ofWall? h with ⟨hwall, hahead⟩
    rw [instant, instant, hwall, hahead]
    exact ⟨by omega, rfl⟩
  · rw [if_neg hdays] at h
    cases h

/-- A clock shows a time within the days of the calendar. -/
theorem Valid.wall_lt {t : Timestamp} (h : t.Valid) : t.wall < dayLimit * dayMicros := by
  have hdate := h.1.dayNumber_lt
  have htime := h.2.1
  rw [wall]
  simp only [dayLimit, dayMicros] at hdate htime ⊢
  omega

/-- A clock can be set back to the first day of the calendar, within the days that can be
    counted. -/
theorem exists_minusDays?_iff {t : Timestamp} (h : t.Valid) (days : Nat) :
    (∃ back, t.minusDays? days = some back) ↔
      days ≤ dayCountLimit ∧ 0 ≤ t.wall - days * dayMicros := by
  have hwall := h.wall_lt
  have hpast : (0 : Int) ≤ (days : Int) * (dayMicros : Int) :=
    Int.mul_nonneg (Int.natCast_nonneg _) (Int.natCast_nonneg _)
  rw [minusDays?]
  by_cases hdays : days ≤ dayCountLimit
  · rw [if_pos hdays, exists_ofWall?_iff]
    exact ⟨fun hin => ⟨hdays, hin.1⟩, fun hin => ⟨hin.2, by omega⟩⟩
  · rw [if_neg hdays]
    exact iff_of_false nofun fun hin => hdays hin.1

end Timestamp

end Outreach
