import Outreach.Proofs.Rule.Meaning

/-!
# Rules at Two Times

A rule on the last visit counts days backwards from the time at which it is read, so it
may select other customers later, although none of them has changed. Rules on spend and
visits do not depend on the time at all.

A list that can be read once can be read later: its reference times only move away from
the beginning of the calendar.

## Main definitions

* `Rule.audienceSize`: How many customers a list of rules selects at a time.
* `Rule.Steady`: A rule that decides customers alike at two times.

## Theorems

* `Rule.steady_of_field`: Only rules on the last visit may not be steady.
* `Rule.audienceSize_of_steady`: Steady rules select as many customers later.
* `Rule.Parses.of_le`: What can be read once can be read later.
* `Rule.exists_compile_all`: The predicate of a list on all customers.
-/

namespace Outreach

namespace Timestamp

/-- A clock that shows universal time shows a time of the calendar. -/
theorem wall_of_inUtc {t : Timestamp} (h : inUtc t = .ok t) :
    t.ahead = some 0 ∧ 0 ≤ t.wall ∧ t.wall < dayLimit * dayMicros := by
  have hutc := inUtc_eq_ok_iff.1 h
  have hahead := ahead_of_toUtc? hutc
  simp only [toUtc?, hahead, Int.sub_zero] at hutc
  exact ⟨hahead, exists_ofWall?_iff.1 ⟨t, hutc⟩⟩

/-- In universal time, a clock shows instants. -/
theorem instant_of_inUtc {t : Timestamp} (h : inUtc t = .ok t) : t.instant = t.wall := by
  rw [instant, (wall_of_inUtc h).1]
  exact Int.sub_zero _

/-- Days that can be counted back can be counted back later. -/
theorem exists_minusDays?_later {now later t : Timestamp} {days : Nat} (hnow : inUtc now = .ok now)
    (hlater : inUtc later = .ok later) (hle : now.instant ≤ later.instant)
    (h : now.minusDays? days = some t) : ∃ u, later.minusDays? days = some u := by
  rw [instant_of_inUtc hnow, instant_of_inUtc hlater] at hle
  rw [minusDays?] at h ⊢
  by_cases hdays : days ≤ dayCountLimit
  · rw [if_pos hdays] at h ⊢
    have hback := exists_ofWall?_iff.1 ⟨t, h⟩
    have hlast := (wall_of_inUtc hlater).2.2
    have hpast : (0 : Int) ≤ (days : Int) * (dayMicros : Int) :=
      Int.mul_nonneg (Int.natCast_nonneg _) (Int.natCast_nonneg _)
    exact exists_ofWall?_iff.2 ⟨by omega, by omega⟩
  · rw [if_neg hdays] at h
    cases h

end Timestamp

namespace Rule

variable {now later : Timestamp} {rules : List Rule} {cs : List Customer}

/-- How many customers a list of rules selects at a time. -/
def audienceSize (rules : List Rule) (now : Timestamp) (cs : List Customer) : Nat :=
  cs.countP fun c => sequential now c rules

/-- A rule that decides customers alike at two times: none of them passes its reference
    time in between. -/
def Steady (now later : Timestamp) (cs : List Customer) (r : Rule) : Prop :=
  ∀ c ∈ cs, r.holds later c = r.holds now c

instance (now later : Timestamp) (cs : List Customer) (r : Rule) :
    Decidable (r.Steady now later cs) :=
  inferInstanceAs (Decidable (∀ c ∈ cs, r.holds later c = r.holds now c))

/-- Only rules on the last visit may not be steady. -/
theorem steady_of_field {r : Rule} (h : r.field ≠ .lastVisit) : r.Steady now later cs := by
  intro c _
  rcases r with ⟨field, operator, value, logic⟩
  cases field with
  | totalSpends => rfl
  | visits => rfl
  | lastVisit => exact absurd rfl h

/-- Steady rules select as many customers later. -/
theorem audienceSize_of_steady
    (h : ∀ r ∈ rules, r.field = .lastVisit → r.Steady now later cs) :
    audienceSize rules later cs = audienceSize rules now cs := by
  have hsteady : ∀ r ∈ rules, r.Steady now later cs := by
    intro r hr
    by_cases hfield : r.field = .lastVisit
    · exact h r hr hfield
    · exact steady_of_field hfield
  refine List.countP_congr fun c hc => ?_
  have hrules : ∀ r ∈ rules, r.holds later c = r.holds now c := fun r hr => hsteady r hr c hc
  rw [sequential_eq_all, sequential_eq_all, List.all_eq_true, List.all_eq_true]
  exact forall₂_congr fun r hr => by rw [hrules r hr]

/-- What can be read once can be read later. -/
theorem Parses.of_le {r : Rule} (h : r.Parses now) (hnow : inUtc now = .ok now)
    (hlater : inUtc later = .ok later) (hle : now.instant ≤ later.instant) : r.Parses later := by
  rcases r with ⟨field, operator, value, logic⟩
  cases field with
  | totalSpends => exact h
  | visits => exact h
  | lastVisit =>
      rcases h with ⟨t, ht⟩
      change reference value now = .ok t at ht
      rcases reference_eq_ok_iff.1 ht with ⟨days, hdays, hback⟩
      rcases Timestamp.exists_minusDays?_later hnow hlater hle hback with ⟨u, hu⟩
      exact ⟨u, reference_eq_ok_iff.2 ⟨days, hdays, hu⟩⟩

/-- The predicate of a list of rules selects, among any customers, as the list reads. -/
theorem exists_compile_all (hnow : now.isAware = true)
    (hvisits : ∀ c ∈ cs, c.lastVisit.isAware = true) (h : ∀ r ∈ rules, r.Parses now) :
    ∃ p, compile rules now = .ok p ∧ ∀ c ∈ cs, p.matches c = .ok (sequential now c rules) := by
  rcases exists_compile_iff.2 h with ⟨p, hp⟩
  refine ⟨p, hp, fun c hc => ?_⟩
  rcases exists_compile hnow (hvisits c hc) h with ⟨q, hq, hmatches⟩
  cases hp.symm.trans hq
  exact hmatches

end Rule

end Outreach
