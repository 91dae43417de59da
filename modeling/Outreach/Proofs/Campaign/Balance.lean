import Outreach.Proofs.Campaign.Counters

/-!
# A Campaign in Balance

A campaign is in balance with what is known of its records if its counters add
up to the outcomes there are, as far as the audience has room for them, and if
it is completed exactly when the counters are full. Without an audience there is
nothing to count, and it is completed when its dispatch has come to an end.

## Main definitions

* `Campaign.Balanced`: A campaign in balance.

## Theorems

* `Campaign.Balanced.counted`: Counting one more outcome keeps the balance.
* `Campaign.Balanced.closed`: So does the end of the dispatch.
* `Campaign.balanced_of_dispatch`: A campaign that was dispatched is in balance.
-/

namespace Outreach

namespace Campaign

/-- A campaign in balance with a number of sent records, a number of failed ones
    and with whether its dispatch has come to an end. -/
structure Balanced (c : Campaign) (sent failed : Nat) (ended : Prop) : Prop where
  size : 0 ≤ c.audienceSize
  total : c.outcomeCount = min c.audienceSize (sent + failed)
  sentCount : 0 ≤ c.sentCount ∧ c.sentCount ≤ sent
  failedCount : 0 ≤ c.failedCount ∧ c.failedCount ≤ failed
  full : 0 < c.audienceSize → (c.status = .completed ↔ c.outcomeCount = c.audienceSize)
  empty : c.audienceSize = 0 → (c.status = .completed ↔ ended)

variable {c after : Campaign} {sent failed : Nat} {ended : Prop} {outcome : DeliveryStatus}
  {update : CounterUpdate} {now : Timestamp}

theorem Balanced.as {sent' failed' : Nat} {ended' : Prop} (h : Balanced c sent failed ended)
    (hsent : sent' = sent) (hfailed : failed' = failed) (hended : ended' ↔ ended) :
    Balanced c sent' failed' ended' := by
  rw [hsent, hfailed, propext hended]
  exact h

/-- A new campaign is in balance with no records. -/
theorem balanced_of_new (hpending : c.status = .pending) (hsent : c.sentCount = 0)
    (hfailed : c.failedCount = 0) (hsize : 0 ≤ c.audienceSize) (hended : ¬ended) :
    Balanced c 0 0 ended := by
  have hne : c.status ≠ .completed := by
    rw [hpending]
    decide
  have htotal : c.outcomeCount = 0 := by
    rw [outcomeCount, hsent, hfailed]
    rfl
  refine ⟨hsize, by omega, by omega, by omega, fun hpos => ?_, fun _ => ?_⟩
  · exact ⟨fun h => absurd h hne, fun h => by omega⟩
  · exact ⟨fun h => absurd h hne, fun h => absurd h hended⟩

/-- Starting a campaign and putting it back keep the balance. -/
theorem Balanced.of_status (h : Balanced c sent failed ended) (status : CampaignStatus)
    (hbefore : c.status ≠ .completed) (hafter : status ≠ .completed) :
    Balanced { c with status := status, updatedAt := now } sent failed ended := by
  -- Full counters or an ended dispatch would have completed it before.
  refine ⟨h.size, h.total, h.sentCount, h.failedCount, fun hpos => ?_, fun hzero => ?_⟩
  · exact ⟨fun hs => absurd hs hafter, fun hs => absurd ((h.full hpos).2 hs) hbefore⟩
  · exact ⟨fun hs => absurd hs hafter, fun hs => absurd ((h.empty hzero).2 hs) hbefore⟩

/-- Full counters complete a campaign that is being sent. -/
theorem completed_iff_of_sending (now : Timestamp) (hs : c.status = .sending) :
    (c.completeIfExhausted now).1.status = .completed ↔ c.audienceSize ≤ c.outcomeCount := by
  by_cases he : c.audienceSize ≤ c.outcomeCount
  · rw [completeIfExhausted_of_open now hs he]
    exact ⟨fun _ => he, fun _ => rfl⟩
  · rw [completeIfExhausted_of_not now fun h => he h.2, hs]
    exact ⟨fun h => (by cases h), fun h => absurd h he⟩

/-- Counting one more outcome keeps the balance. -/
theorem Balanced.counted (h : Balanced c sent failed ended) (hstarted : c.status ≠ .pending)
    (hr : c.recordOutcome outcome now = .ok (after, update)) :
    Balanced after (sent + if outcome = .sent then 1 else 0)
      (failed + if outcome = .failed then 1 else 0) ended := by
  have ho := isOutcome_of_recordOutcome hr
  rcases h with ⟨hsize, htotal, hsent, hfailed, hfull, hempty⟩
  by_cases hopen : c.status = .sending ∧ c.outcomeCount < c.audienceSize
  · rw [recordOutcome_of_open now ho hopen.1 hopen.2, Except.ok.injEq, Prod.mk.injEq] at hr
    rcases completeIfExhausted_keeps (c := c.count outcome now) now with
      ⟨-, hasize, hasent, hafailed⟩
    -- Just one of the counters grows, by one.
    have hcount : (c.count outcome now).status = c.status ∧
        (c.count outcome now).audienceSize = c.audienceSize ∧
        (c.count outcome now).sentCount =
          c.sentCount + (if outcome = .sent then 1 else 0 : Nat) ∧
        (c.count outcome now).failedCount =
          c.failedCount + (if outcome = .failed then 1 else 0 : Nat) := by
      cases outcome with
      | pending => cases ho
      | sent => exact ⟨rfl, rfl, rfl, (Int.add_zero _).symm⟩
      | failed => exact ⟨rfl, rfl, (Int.add_zero _).symm, rfl⟩
    have hstatus := completed_iff_of_sending now (hcount.1.trans hopen.1)
    have htotal' : (c.count outcome now).outcomeCount = c.outcomeCount + 1 := outcomeCount_count now
    rw [hr.1] at hasize hasent hafailed hstatus
    have hafter : after.outcomeCount = c.outcomeCount + 1 := by
      rw [← htotal', outcomeCount, hasent, hafailed, outcomeCount]
    have hone : (if outcome = .sent then 1 else 0) + (if outcome = .failed then 1 else 0) = 1 := by
      cases outcome with
      | pending => cases ho
      | sent => rfl
      | failed => rfl
    -- There was room, so the counters grow with the outcomes.
    refine ⟨by omega, by omega, by omega, by omega, fun _ => ?_, fun hzero => by omega⟩
    · rw [hstatus]
      omega
  · rw [recordOutcome_of_not now ho hopen, Except.ok.injEq, Prod.mk.injEq] at hr
    rw [← hr.1]
    -- There was none, so the counters were full, and they stay so.
    have hroom : c.audienceSize ≤ c.outcomeCount := by
      by_cases hs : c.status = .sending
      · exact Int.not_lt.1 fun hlt => hopen ⟨hs, hlt⟩
      · have hcompleted : c.status = .completed := by
          cases hstatus : c.status with
          | pending => exact absurd hstatus hstarted
          | sending => exact absurd hstatus hs
          | completed => rfl
        by_cases hpos : 0 < c.audienceSize
        · exact Int.le_of_eq ((hfull hpos).1 hcompleted).symm
        · rw [outcomeCount]
          omega
    exact ⟨hsize, by omega, by omega, by omega, hfull, hempty⟩

/-- The end of the dispatch keeps the balance. -/
theorem Balanced.closed (h : Balanced c sent failed ended) (hstarted : c.status ≠ .pending) :
    Balanced (c.completeIfExhausted now).1 sent failed True := by
  rcases h with ⟨hsize, htotal, hsent, hfailed, hfull, hempty⟩
  rcases completeIfExhausted_keeps (c := c) now with ⟨-, hasize, hasent, hafailed⟩
  have hafter : (c.completeIfExhausted now).1.outcomeCount = c.outcomeCount := by
    rw [outcomeCount, hasent, hafailed, outcomeCount]
  have hstatus : (c.completeIfExhausted now).1.status = .completed ↔
      c.audienceSize ≤ c.outcomeCount := by
    cases hs : c.status with
    | pending => exact absurd hs hstarted
    | sending => exact completed_iff_of_sending now hs
    | completed =>
        -- Nothing happens to it, and its counters were full when it was completed.
        have hnot : ¬(c.status = .sending ∧ c.audienceSize ≤ c.outcomeCount) := by
          rintro ⟨hs', -⟩
          rw [hs] at hs'
          cases hs'
        rw [completeIfExhausted_of_not now hnot]
        refine ⟨fun _ => ?_, fun _ => hs⟩
        by_cases hpos : 0 < c.audienceSize
        · exact Int.le_of_eq ((hfull hpos).1 hs).symm
        · rw [outcomeCount]
          omega
  refine ⟨by omega, by omega, by omega, by omega, fun _ => ?_, fun hzero => ?_⟩
  · rw [hstatus]
    omega
  · rw [hstatus, hafter.symm, outcomeCount]
    refine ⟨fun _ => trivial, fun _ => by omega⟩

/-- A new campaign is in balance when its dispatch has come to an end. -/
theorem balanced_of_dispatch (claimed closed : Timestamp) (hpending : c.status = .pending)
    (hsent : c.sentCount = 0) (hfailed : c.failedCount = 0) (hsize : 0 ≤ c.audienceSize) :
    Balanced (({ c with status := .sending, updatedAt := claimed } : Campaign).completeIfExhausted
      closed).1 0 0 True := by
  have hnew : Balanced c 0 0 False := balanced_of_new hpending hsent hfailed hsize not_false
  have hne : c.status ≠ .completed := by
    rw [hpending]
    decide
  have hstarted : Balanced { c with status := .sending, updatedAt := claimed } 0 0 False :=
    hnew.of_status .sending hne nofun
  exact hstarted.closed nofun

end Campaign

end Outreach
