import Outreach.Proofs.Run.Invariant.Claims

/-!
# Completion Is Reported as It Happens

A campaign becomes completed in two kinds of steps, the counting of an outcome
and the end of a dispatch, and exactly those of them report it that bring it
about. A completed campaign never changes again.

## Main definitions

* `Ledger.isCompleted`: Whether a campaign is completed.

## Theorems

* `Run.Task.Effect.completed`: A campaign is completed after a step if it was so
  before or the step reports it, and never both.
* `Run.Task.Effect.frozen`: No step changes a completed campaign.
* `Run.Board.Reachable.reports`: How often the completion of a campaign has been
  reported on a board.
* `Run.completion_reported_once`: The reports at every point of every run.
-/

namespace Outreach

namespace Campaign

variable {c after : Campaign} {outcome : DeliveryStatus} {update : CounterUpdate} {now : Timestamp}

theorem completeIfExhausted_of_completed (h : c.status = .completed) :
    c.completeIfExhausted now = (c, false) := by
  refine completeIfExhausted_of_not now ?_
  rintro ⟨hs, -⟩
  rw [h] at hs
  cases hs

/-- Completing a campaign is reported by the call that does it. -/
theorem completeIfExhausted_reports :
    (if (c.completeIfExhausted now).2 then 1 else 0) + (if c.status = .completed then 1 else 0) =
      if (c.completeIfExhausted now).1.status = .completed then 1 else 0 := by
  by_cases h : c.status = .sending ∧ c.audienceSize ≤ c.outcomeCount
  · rw [completeIfExhausted_of_open now h.1 h.2, h.1]
    rfl
  · rw [completeIfExhausted_of_not now h]
    exact Nat.zero_add _

theorem recordOutcome_of_completed (h : c.status = .completed)
    (hr : c.recordOutcome outcome now = .ok (after, update)) : after = c := by
  have ho := isOutcome_of_recordOutcome hr
  have hnot : ¬(c.status = .sending ∧ c.outcomeCount < c.audienceSize) := by
    rintro ⟨hs, -⟩
    rw [h] at hs
    cases hs
  rw [recordOutcome_of_not now ho hnot, Except.ok.injEq, Prod.mk.injEq] at hr
  exact hr.1.symm

/-- So is completing it with the last outcome. -/
theorem recordOutcome_reports (hr : c.recordOutcome outcome now = .ok (after, update)) :
    (if update.completed then 1 else 0) + (if c.status = .completed then 1 else 0) =
      if after.status = .completed then 1 else 0 := by
  have ho := isOutcome_of_recordOutcome hr
  by_cases hopen : c.status = .sending ∧ c.outcomeCount < c.audienceSize
  · rw [recordOutcome_of_open now ho hopen.1 hopen.2, Except.ok.injEq, Prod.mk.injEq] at hr
    have hstatus : (c.count outcome now).status = c.status := by cases outcome <;> rfl
    rw [← hr.1, ← hr.2, ← hstatus]
    exact completeIfExhausted_reports
  · rw [recordOutcome_of_not now ho hopen, Except.ok.injEq, Prod.mk.injEq] at hr
    rw [← hr.1, ← hr.2]
    exact Nat.zero_add _

end Campaign

namespace Ledger

/-- Whether a campaign is stored and completed. -/
def isCompleted (k : Ledger) (id : Uuid) : Bool :=
  (k.campaign? id).any fun c => decide (c.status = .completed)

variable {k : Ledger} {id u : Uuid} {c c' : Campaign}

theorem isCompleted_eq (h : k.campaign? id = some c) :
    k.isCompleted id = decide (c.status = .completed) := by
  rw [isCompleted, h]
  rfl

/-- What holds of the completion of a campaign that is stored anew holds of all
    campaigns. -/
theorem isCompleted_putCampaign {reports report : Bool} (hstored : k.campaign? u = some c)
    (hid : c'.id = c.id) (hreports : reports = (decide (u = id) && report))
    (h : (if report then 1 else 0) + (if c.status = .completed then 1 else 0) =
      if c'.status = .completed then 1 else 0) :
    (if reports then 1 else 0) + (if k.isCompleted id then 1 else 0) =
      if (k.putCampaign c').isCompleted id then 1 else 0 := by
  subst hreports
  have hkey : c'.id = u := hid.trans (id_of_campaign? hstored)
  by_cases hu : u = id
  · subst hu
    -- The campaign that is asked about, or another one.
    have hafter : (k.putCampaign c').campaign? u = some c' := by
      rw [campaign?_putCampaign, if_pos hkey]
    rw [isCompleted_eq hstored, isCompleted_eq hafter]
    simp only [decide_true, Bool.true_and, decide_eq_true_eq]
    exact h
  · have hafter : (k.putCampaign c').isCompleted id = k.isCompleted id := by
      rw [isCompleted, campaign?_putCampaign, hkey, if_neg hu, isCompleted]
    rw [hafter]
    simp only [hu, decide_false, Bool.false_and, Bool.false_eq_true, if_false, Nat.zero_add]

end Ledger

namespace Run

namespace Task

variable {k k' : Ledger} {t t' : Task} {n : Nat} {id : Uuid}

theorem completed_quiet {e : Event} (hk : k'.isCompleted id = k.isCompleted id)
    (he : e.reports id = false) :
    (if e.reports id then 1 else 0) + (if k.isCompleted id then 1 else 0) =
      if k'.isCompleted id then 1 else 0 := by
  rw [hk, he]
  exact Nat.zero_add _

/-- A campaign is completed after a step if it was so before or the step reports
    it, and never both. -/
theorem Effect.completed (h : t.Effect k k' t')
    (hapart : (t.reserved ++ k.identifiers).Nodup) (hsound : t.Sound k) :
    (if Event.reports id ⟨n, t, t'⟩ then 1 else 0) + (if k.isCompleted id then 1 else 0) =
      if k'.isCompleted id then 1 else 0 := by
  cases h with
  | customer aside =>
      exact completed_quiet (by rw [Ledger.isCompleted, Ledger.campaign?, aside.campaigns]; rfl) rfl
  | order aside =>
      exact completed_quiet (by rw [Ledger.isCompleted, Ledger.campaign?, aside.campaigns]; rfl) rfl
  | campaign effect =>
      cases effect with
      | @stored c size =>
          refine completed_quiet ?_ rfl
          by_cases hid : c.id = id
          · -- A new campaign is pending, and there was none before.
            have hbefore : k.campaign? id = none := hid ▸ campaign?_of_storing hapart
            have hafter : (k.putCampaign c).campaign? id = some c := by
              rw [Ledger.campaign?_putCampaign, if_pos hid]
            rw [Ledger.isCompleted_eq hafter, hsound.1, Ledger.isCompleted, hbefore]
            rfl
          · rw [Ledger.isCompleted, Ledger.campaign?_putCampaign, if_neg hid, Ledger.isCompleted]
      | _ => exact completed_quiet rfl rfl
  | dispatch effect =>
      cases effect with
      -- Starting a campaign and putting it back complete nothing.
      | claimed now stored pending =>
          refine Ledger.isCompleted_putCampaign stored rfl (Bool.and_false _).symm ?_
          rw [pending]
          rfl
      | released now stored sending none_counted =>
          refine Ledger.isCompleted_putCampaign stored rfl (Bool.and_false _).symm ?_
          rw [sending]
          rfl
      | closed now stored =>
          exact Ledger.isCompleted_putCampaign stored (Campaign.completeIfExhausted_keeps now).1
            rfl Campaign.completeIfExhausted_reports
      | failed f m =>
          refine completed_quiet rfl ?_
          rw [Event.reports, Event.closed?_raised]
          rfl
      | _ => exact completed_quiet rfl rfl
  | receipt effect =>
      cases effect with
      | counted now stored outcome =>
          exact Ledger.isCompleted_putCampaign stored (Campaign.recordOutcome_keeps outcome).1
            (Bool.or_false _) (Campaign.recordOutcome_reports outcome)
      | duplicate stored settled =>
          refine completed_quiet rfl ?_
          rw [Event.reports, Event.answered?, Option.any_some, Bool.and_false]
          rfl
      | _ => exact completed_quiet rfl rfl

/-- No step changes a completed campaign. -/
theorem Effect.frozen {c : Campaign} (h : t.Effect k k' t')
    (hapart : (t.reserved ++ k.identifiers).Nodup) (hc : k.campaign? id = some c)
    (hcompleted : c.status = .completed) : k'.campaign? id = some c := by
  -- Whatever is stored in its place would have to be the campaign itself.
  have hput : ∀ {u : Uuid} {d d' : Campaign}, k.campaign? u = some d → d'.id = d.id →
      (d.status = .completed → d' = d) → (k.putCampaign d').campaign? id = some c := by
    intro u d d' hd hid hsame
    have hkey : d'.id = u := hid.trans (Ledger.id_of_campaign? hd)
    rw [Ledger.campaign?_putCampaign, hkey]
    by_cases hu : u = id
    · subst hu
      rw [hc, Option.some.injEq] at hd
      rw [if_pos rfl, hsame (hd ▸ hcompleted), hd]
    · rw [if_neg hu]
      exact hc
  cases h with
  | customer aside =>
      rw [Ledger.campaign?, aside.campaigns]
      exact hc
  | order aside =>
      rw [Ledger.campaign?, aside.campaigns]
      exact hc
  | campaign effect =>
      cases effect with
      | @stored d size =>
          -- A new campaign takes the place of no other.
          have hne : d.id ≠ id := by
            rintro rfl
            rw [campaign?_of_storing hapart] at hc
            cases hc
          rw [Ledger.campaign?_putCampaign, if_neg hne]
          exact hc
      | _ => exact hc
  | dispatch effect =>
      cases effect with
      | claimed now stored pending =>
          refine hput stored rfl fun h => ?_
          rw [pending] at h
          cases h
      | released now stored sending none_counted =>
          refine hput stored rfl fun h => ?_
          rw [sending] at h
          cases h
      | closed now stored =>
          refine hput stored (Campaign.completeIfExhausted_keeps now).1 fun h => ?_
          rw [Campaign.completeIfExhausted_of_completed h]
      | _ => exact hc
  | receipt effect =>
      cases effect with
      | counted now stored outcome =>
          exact hput stored (Campaign.recordOutcome_keeps outcome).1
            fun h => Campaign.recordOutcome_of_completed h outcome
      | _ => exact hc

end Task

namespace Board

variable {b b' : Board} {id : Uuid}

/-- The completion of a campaign has been reported once if it is completed, and
    otherwise not at all. -/
theorem Reachable.reports (h : Reachable b) :
    b.events.countP (Event.reports id) = if b.ledger.isCompleted id then 1 else 0 := by
  induction h with
  | start tables handed =>
      rw [Ledger.isCompleted, Ledger.campaign?, tables]
      rfl
  | step before step distinct ih =>
      cases step with
      | issued r => exact ih
      | advanced task effect =>
          rw [List.countP_append, List.countP_singleton, ih, Nat.add_comm]
          exact effect.completed (nodup_of_task task before.identified.apart)
            (before.sound _ (List.mem_of_getElem? task))

/-- A step leaves completed campaigns as they are. -/
theorem Reachable.frozen {c : Campaign} (h : Reachable b) (hstep : Step b b')
    (hc : b.ledger.campaign? id = some c) (hcompleted : c.status = .completed) :
    b'.ledger.campaign? id = some c := by
  cases hstep with
  | issued r => exact hc
  | advanced task effect =>
      exact effect.frozen (nodup_of_task task h.identified.apart) hc hcompleted

end Board

end Run

/-! ## Completion is reported once

Over a whole run, with duplicate, late and unknown receipts and however the
steps of its calls interleave, the completion of a campaign is reported by one
step at most, and by one exactly when the campaign is completed. From then on it
stays as it is. -/

namespace Run

theorem campaign?_board (s : System) (id : Uuid) :
    s.board.ledger.campaign? id = s.campaign? id := rfl

/-- A completed campaign stays as it is. -/
theorem campaign?_of_completed {id : Uuid} {c : Campaign} (hcompleted : c.status = .completed)
    (moves : List Move) : ∀ {s : System}, s.board.Reachable → (s.run moves).world.DistinctIds →
      s.campaign? id = some c → (s.run moves).campaign? id = some c := by
  induction moves with
  | nil => exact fun _ _ hc => hc
  | cons m rest ih =>
      intro s hs hdistinct hc
      have hreach := System.reachable_move hs (System.distinctIds_of_run rest hdistinct)
      refine ih hreach hdistinct ?_
      rw [← campaign?_board]
      -- No step changes a completed campaign, so neither does a run of them.
      rcases System.board_move s m with heq | hstep
      · rw [heq]
        exact hc
      · exact hs.frozen hstep hc hcompleted

theorem isCompleted_iff {k : Ledger} {id : Uuid} :
    k.isCompleted id = true ↔ ∃ c, k.campaign? id = some c ∧ c.status = .completed := by
  simp only [Ledger.isCompleted, Option.any_eq_true, decide_eq_true_eq]

/-- The completion of a campaign as the calls of a run report it, and what comes
    after that. -/
structure ReportedOnce (s : System) (id : Uuid) (later : List Move) : Prop where
  once : s.events.countP (Event.reports id) ≤ 1
  completed : (∃ e ∈ s.events, e.reports id = true) ↔
    ∃ c, s.campaign? id = some c ∧ c.status = .completed
  frozen : (∃ e ∈ s.events, e.reports id = true) →
    ∃ c, s.campaign? id = some c ∧ (s.run later).campaign? id = some c

/-- At every point of every run from a blank world, the completion of a campaign
    has been reported once if it is completed and otherwise not, and whatever is
    done later leaves a completed campaign as it is. -/
theorem completion_reported_once {w : World Memory} (hblank : w.Blank) (moves later : List Move)
    (hdistinct : ((System.start w).run (moves ++ later)).world.DistinctIds) (id : Uuid) :
    ReportedOnce ((System.start w).run moves) id later := by
  rw [System.run_append] at hdistinct
  have hreach := System.reachable_run hblank moves (System.distinctIds_of_run later hdistinct)
  -- The number of reports says whether the campaign is completed.
  have hcount : ((System.start w).run moves).events.countP (Event.reports id) =
      if ((System.start w).run moves).board.ledger.isCompleted id then 1 else 0 := hreach.reports
  have hcompleted : (∃ e ∈ ((System.start w).run moves).events, e.reports id = true) ↔
      ∃ c, ((System.start w).run moves).campaign? id = some c ∧ c.status = .completed := by
    rw [← List.countP_pos_iff, hcount]
    by_cases h : ((System.start w).run moves).board.ledger.isCompleted id = true
    · rw [if_pos h]
      exact iff_of_true Nat.one_pos (isCompleted_iff.1 h)
    · rw [if_neg h]
      exact iff_of_false (Nat.lt_irrefl 0) fun hc => h (isCompleted_iff.2 hc)
  refine ⟨?_, hcompleted, fun he => ?_⟩
  · rw [hcount]
    by_cases h : ((System.start w).run moves).board.ledger.isCompleted id = true
    · rw [if_pos h]
    · rw [if_neg h]
      exact Nat.zero_le 1
  · rcases hcompleted.1 he with ⟨c, hc, hstatus⟩
    exact ⟨c, hc, campaign?_of_completed hstatus later hreach hdistinct hc⟩

/-- The receipt that arrives first completes the campaign of the sample run. -/
theorem completion_reported_in_sample :
    sampleWorld.Blank ∧ ((System.start sampleWorld).run (sample ++ sample)).world.DistinctIds ∧
      ((System.start sampleWorld).run sample).events.any (Event.reports (Uuid.ofNat 1)) = true ∧
      ReportedOnce ((System.start sampleWorld).run sample) (Uuid.ofNat 1) sample := by
  have hblank : sampleWorld.Blank := World.blank_blank _
  have hdistinct : ((System.start sampleWorld).run (sample ++ sample)).world.DistinctIds := by
    decide +kernel
  exact ⟨hblank, hdistinct, by decide +kernel,
    completion_reported_once hblank sample sample hdistinct (Uuid.ofNat 1)⟩

end Run

end Outreach
