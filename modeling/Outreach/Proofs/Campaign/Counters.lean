import Outreach.Campaign.Basic

/-!
# Counting on a Campaign

What the two operations that count and complete do to a campaign, case by
case. Either the campaign is left as it is, or exactly one counter grows; and
it is completed exactly when it was being sent and the counters have reached
the size of the audience.

## Theorems

* `Campaign.completeIfExhausted_of_open`, `Campaign.completeIfExhausted_of_not`:
  Completing a campaign.
* `Campaign.outcomeCount_count`: One outcome more.
* `Campaign.recordOutcome_of_open`, `Campaign.recordOutcome_of_not`: Counting an
  outcome.
* `Campaign.isOutcome_of_recordOutcome`: Whatever is counted is an outcome.
* `Campaign.status_recordOutcome`: Counting puts no campaign back.
-/

namespace Outreach

theorem DeliveryStatus.ne_pending_of_isOutcome {status : DeliveryStatus}
    (h : status.isOutcome = true) : status ≠ .pending := by
  rintro rfl
  cases h

namespace Campaign

variable {c : Campaign} {outcome : DeliveryStatus}

theorem isExhausted_iff : c.isExhausted = true ↔ c.audienceSize ≤ c.outcomeCount :=
  decide_eq_true_iff

theorem completeIfExhausted_of_open (now : Timestamp) (hs : c.status = .sending)
    (he : c.audienceSize ≤ c.outcomeCount) :
    c.completeIfExhausted now = ({ c with status := .completed, updatedAt := now }, true) := by
  rw [completeIfExhausted, if_pos ⟨hs, isExhausted_iff.2 he⟩]

theorem completeIfExhausted_of_not (now : Timestamp)
    (h : ¬(c.status = .sending ∧ c.audienceSize ≤ c.outcomeCount)) :
    c.completeIfExhausted now = (c, false) := by
  rw [completeIfExhausted, if_neg fun h' => h ⟨h'.1, isExhausted_iff.1 h'.2⟩]

/-- Completing changes neither the identity of a campaign nor its counters. -/
theorem completeIfExhausted_keeps (now : Timestamp) :
    (c.completeIfExhausted now).1.id = c.id ∧
      (c.completeIfExhausted now).1.audienceSize = c.audienceSize ∧
      (c.completeIfExhausted now).1.sentCount = c.sentCount ∧
      (c.completeIfExhausted now).1.failedCount = c.failedCount := by
  by_cases h : c.status = .sending ∧ c.audienceSize ≤ c.outcomeCount
  · rw [completeIfExhausted_of_open now h.1 h.2]
    exact ⟨rfl, rfl, rfl, rfl⟩
  · rw [completeIfExhausted_of_not now h]
    exact ⟨rfl, rfl, rfl, rfl⟩

/-- Completing puts no campaign back. -/
theorem status_completeIfExhausted (now : Timestamp) (h : c.status ≠ .pending) :
    (c.completeIfExhausted now).1.status ≠ .pending := by
  by_cases hopen : c.status = .sending ∧ c.audienceSize ≤ c.outcomeCount
  · rw [completeIfExhausted_of_open now hopen.1 hopen.2]
    exact nofun
  · rw [completeIfExhausted_of_not now hopen]
    exact h

theorem outcomeCount_count (now : Timestamp) :
    (c.count outcome now).outcomeCount = c.outcomeCount + 1 := by
  cases outcome <;> simp only [count, outcomeCount] <;> omega

/-- While a campaign is being sent and not exhausted, an outcome counts. -/
theorem recordOutcome_of_open (now : Timestamp) (ho : outcome.isOutcome) (hs : c.status = .sending)
    (he : c.outcomeCount < c.audienceSize) :
    c.recordOutcome outcome now =
      .ok (((c.count outcome now).completeIfExhausted now).1,
        ⟨true, ((c.count outcome now).completeIfExhausted now).2⟩) := by
  -- Neither reason to turn the outcome down applies.
  have hne : ¬(c.status ≠ .sending ∨ c.isExhausted = true) := by
    rw [isExhausted_iff]
    rintro (h | h)
    · exact h hs
    · omega
  simp only [recordOutcome, ho, Bool.not_true, Bool.false_eq_true, if_false, if_neg hne]

/-- At any other time it changes nothing. -/
theorem recordOutcome_of_not (now : Timestamp) (ho : outcome.isOutcome)
    (h : ¬(c.status = .sending ∧ c.outcomeCount < c.audienceSize)) :
    c.recordOutcome outcome now = .ok (c, ⟨false, false⟩) := by
  have hor : c.status ≠ .sending ∨ c.isExhausted = true := by
    rw [isExhausted_iff]
    by_cases hs : c.status = .sending
    · exact Or.inr (Int.not_lt.1 fun hlt => h ⟨hs, hlt⟩)
    · exact Or.inl hs
  simp only [recordOutcome, ho, Bool.not_true, Bool.false_eq_true, if_false, if_pos hor]

theorem recordOutcome_of_not_outcome (now : Timestamp) (ho : ¬outcome.isOutcome) :
    c.recordOutcome outcome now = .error (.notAnOutcome outcome.qualified) := by
  simp only [recordOutcome, ho, Bool.not_false, if_true]

/-- Whatever a campaign accepts is an outcome. -/
theorem isOutcome_of_recordOutcome {now : Timestamp} {r : Campaign × CounterUpdate}
    (h : c.recordOutcome outcome now = .ok r) : outcome.isOutcome := by
  by_cases ho : outcome.isOutcome
  · exact ho
  · rw [recordOutcome_of_not_outcome now ho] at h
    cases h

theorem status_count (now : Timestamp) : (c.count outcome now).status = c.status := by
  cases outcome <;> rfl

/-- Every outcome gets an answer. -/
theorem exists_recordOutcome (c : Campaign) (now : Timestamp) (ho : outcome.isOutcome) :
    ∃ after update, c.recordOutcome outcome now = .ok (after, update) := by
  by_cases hopen : c.status = .sending ∧ c.outcomeCount < c.audienceSize
  · exact ⟨_, _, recordOutcome_of_open now ho hopen.1 hopen.2⟩
  · exact ⟨_, _, recordOutcome_of_not now ho hopen⟩

/-- Counting puts no campaign back. -/
theorem status_recordOutcome {now : Timestamp} {after : Campaign} {update : CounterUpdate}
    (h : c.recordOutcome outcome now = .ok (after, update)) (hc : c.status ≠ .pending) :
    after.status ≠ .pending := by
  have ho := isOutcome_of_recordOutcome h
  by_cases hopen : c.status = .sending ∧ c.outcomeCount < c.audienceSize
  · rw [recordOutcome_of_open now ho hopen.1 hopen.2, Except.ok.injEq, Prod.mk.injEq] at h
    rw [← h.1]
    refine status_completeIfExhausted now ?_
    rw [status_count]
    exact hc
  · rw [recordOutcome_of_not now ho hopen, Except.ok.injEq, Prod.mk.injEq] at h
    rw [← h.1]
    exact hc

/-- Counting changes neither the identity of a campaign nor its size. -/
theorem recordOutcome_keeps {now : Timestamp} {after : Campaign} {update : CounterUpdate}
    (h : c.recordOutcome outcome now = .ok (after, update)) :
    after.id = c.id ∧ after.audienceSize = c.audienceSize := by
  have ho := isOutcome_of_recordOutcome h
  by_cases hopen : c.status = .sending ∧ c.outcomeCount < c.audienceSize
  · rw [recordOutcome_of_open now ho hopen.1 hopen.2] at h
    injection h with h
    injection h with h
    -- Counting touches a counter, and completing the status.
    have hkeeps := completeIfExhausted_keeps (c := c.count outcome now) now
    rw [h] at hkeeps
    rw [hkeeps.1, hkeeps.2.1]
    cases outcome <;> exact ⟨rfl, rfl⟩
  · rw [recordOutcome_of_not now ho hopen] at h
    injection h with h
    injection h with h
    rw [← h]
    exact ⟨rfl, rfl⟩

theorem not_isOutcome_of_recordOutcome {now : Timestamp} {f : Fault}
    (h : c.recordOutcome outcome now = .error f) : ¬outcome.isOutcome := by
  intro ho
  by_cases hopen : c.status = .sending ∧ c.outcomeCount < c.audienceSize
  · rw [recordOutcome_of_open now ho hopen.1 hopen.2] at h
    cases h
  · rw [recordOutcome_of_not now ho hopen] at h
    cases h

end Campaign

end Outreach
