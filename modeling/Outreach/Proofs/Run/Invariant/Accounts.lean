import Mathlib.Tactic.LinearCombination
import Outreach.Proofs.Run.Account
import Outreach.Proofs.Run.Invariant.Reports
import Outreach.Proofs.Sql.Update

/-!
# The Accounts of the Metrics

Each metric is held against what it is about. Campaigns that were created are counted as
they are stored. A start is counted when the batch is stored, and until then owed by the
dispatch that claimed the campaign; a completion at dispatch is owed by the call that
brought it about, and an outcome by the receipt that settled its record. Receipts that
were dropped leave no trace in the store, but each of them has ended a call.

## Main definitions

* `Run.statuses`: The account of the campaigns whose status is of some kind.
* `Run.gauge`: The account of the campaigns that wait for receipts.
* `Run.recorded`: The account of the records with some outcome.
* `Run.Task.dropped?`, `Run.dropped`: The account of the receipts that were dropped for
  some reason.

## Theorems

* `Run.statuses_kept`, `Run.gauge_kept`, `Run.recorded_kept`, `Run.dropped_kept`: Every
  step is even with them.
* `Run.Task.Passage.fanouts`: The sizes of batches that a step counts, and the records
  that it stores.
-/

namespace Outreach

/-- One for a status of some kind. -/
def CampaignStatus.weight (p : CampaignStatus → Bool) (status : CampaignStatus) : Int :=
  if p status then 1 else 0

namespace Ledger

/-- How many stored campaigns have a status of some kind. -/
def inStatus (k : Ledger) (p : CampaignStatus → Bool) : Nat :=
  k.tables.campaigns.countP fun c => p c.status

variable {k k' : Ledger} {p : CampaignStatus → Bool} {u : Uuid} {c c' : Campaign}

/-- One campaign takes the place of another. -/
theorem inStatus_putCampaign (h : k.campaign? u = some c) (hid : c'.id = c.id) :
    ((k.putCampaign c').inStatus p : Int) + c.status.weight p =
      k.inStatus p + c'.status.weight p := by
  have hcount := countP_upsert_of_known (fun c => p c.status) (campaign?_of_id h hid)
  rw [CampaignStatus.weight, CampaignStatus.weight, inStatus, inStatus]
  exact_mod_cast hcount

/-- A campaign is added. -/
theorem inStatus_create (h : k.campaign? c.id = none) :
    ((k.putCampaign c).inStatus p : Int) = k.inStatus p + c.status.weight p := by
  have hnew : c.id ∉ k.tables.campaigns.map Campaign.id := lookUp_eq_none_iff.1 h
  rw [inStatus, putCampaign, upsert_of_new hnew, List.countP_append, List.countP_singleton,
    CampaignStatus.weight, inStatus]
  push_cast
  rfl

/-- How many records have some status. -/
def inState (k : Ledger) (status : DeliveryStatus) : Nat :=
  k.tables.records.countP fun r => decide (r.status = status)

/-- One record takes the place of another. -/
theorem inState_putRecord {r r' : DeliveryRecord} {status : DeliveryStatus}
    (h : k.record? u = some r) (hid : r'.id = r.id) :
    (k.putRecord r').inState status + (if r.status = status then 1 else 0) =
      k.inState status + if r'.status = status then 1 else 0 := by
  have hcount := countP_upsert_of_known (fun r => decide (r.status = status)) (record?_of_id h hid)
  simp only [decide_eq_true_eq] at hcount
  exact hcount

/-- Pending records are added. -/
theorem inState_putBatch {rs : List DeliveryRecord} {status : DeliveryStatus}
    (h : (rs.map DeliveryRecord.id ++ k.identifiers).Nodup)
    (hpending : ∀ r ∈ rs, r.status = .pending) (hstatus : .pending ≠ status) :
    (k.putBatch rs).inState status = k.inState status := by
  have hzero : rs.countP (fun r => decide (r.status = status)) = 0 := by
    refine List.countP_eq_zero.2 fun r hr => ?_
    rw [hpending r hr, decide_eq_true_eq]
    exact hstatus
  rw [inState, (identifiers_putBatch h).1, List.countP_append, hzero, Nat.add_zero, inState]

end Ledger

namespace Run

variable {k k' : Ledger} {t t' : Task} {m : Metrics}

/-- A step that touches nothing of an account. -/
theorem Account.Even.still {a : Account} (hcounted : a.counted (t.measured t' m) = a.counted m)
    (howed : a.owed t' = a.owed t) (hstock : a.stock k' = a.stock k) : a.Even m k t k' t' := by
  rw [Even, hcounted, howed, hstock]

/-! ## Campaigns -/

/-- Whether a call has completed its campaign and is still to count that. -/
def Task.completions : Task → Int
  | dispatch _ (.underway (.closing _ true)) => 1
  | _ => 0

/-- The campaigns whose status is of some kind, by what happens to campaigns: they are
    created pending, sent when they are started, and completed in the end. -/
def statuses (p : CampaignStatus → Bool) : Account where
  counted m :=
    m.campaignsCreated * CampaignStatus.pending.weight p +
      m.campaignsStarted * (CampaignStatus.sending.weight p - CampaignStatus.pending.weight p) +
      m.campaignsCompleted * (CampaignStatus.completed.weight p - CampaignStatus.sending.weight p)
  owed t :=
    t.claims.length * (CampaignStatus.sending.weight p - CampaignStatus.pending.weight p) +
      t.completions * (CampaignStatus.completed.weight p - CampaignStatus.sending.weight p)
  stock k := k.inStatus p

/-- What completing a campaign does to its status. -/
theorem weight_completeIfExhausted (p : CampaignStatus → Bool) (c : Campaign) (now : Timestamp) :
    (c.completeIfExhausted now).1.status.weight p = c.status.weight p +
      (if (c.completeIfExhausted now).2 then 1 else 0) *
        (CampaignStatus.completed.weight p - CampaignStatus.sending.weight p) := by
  by_cases h : c.status = .sending ∧ c.audienceSize ≤ c.outcomeCount
  · rw [Campaign.completeIfExhausted_of_open now h.1 h.2, h.1, if_pos rfl]
    ring
  · rw [Campaign.completeIfExhausted_of_not now h]
    simp only [Bool.false_eq_true, if_false, Int.zero_mul, Int.add_zero]

theorem weight_recordOutcome (p : CampaignStatus → Bool) {c after : Campaign}
    {outcome : DeliveryStatus} {now : Timestamp} {update : CounterUpdate}
    (h : c.recordOutcome outcome now = .ok (after, update)) :
    after.status.weight p = c.status.weight p +
      (if update.completed then 1 else 0) *
        (CampaignStatus.completed.weight p - CampaignStatus.sending.weight p) := by
  have ho := Campaign.isOutcome_of_recordOutcome h
  by_cases hopen : c.status = .sending ∧ c.outcomeCount < c.audienceSize
  · rw [Campaign.recordOutcome_of_open now ho hopen.1 hopen.2, Except.ok.injEq,
      Prod.mk.injEq] at h
    rw [← h.1, ← h.2, weight_completeIfExhausted, Campaign.status_count]
  · rw [Campaign.recordOutcome_of_not now ho hopen, Except.ok.injEq, Prod.mk.injEq] at h
    rw [← h.1, ← h.2]
    simp only [Bool.false_eq_true, if_false, Int.zero_mul, Int.add_zero]

/-- A dispatch that has failed as expected has put its campaign back, and owes nothing. -/
theorem Task.Passage.failed {args : NewDispatch} {s : Dispatch.Stage} {f : Fault} {n : Nat}
    (h : (dispatch args (.underway s)).Passage k (k.draw n) (dispatch args (.raised f)))
    (hexpected : (dispatch args (.raised f)).Expected) :
    (dispatch args (.underway s)).claims = [] ∧ (dispatch args (.underway s)).completions = 0 := by
  have hleaves : Dispatch.Leaves args (k.draw n) s (.raised f) := h.leaves
  cases s with
  -- The claimed campaign has not been put back in such a step.
  | resolving campaign p => exact absurd (h.claimed _ List.mem_cons_self) (hleaves hexpected)
  | releasing e => exact absurd (h.claimed _ List.mem_cons_self) (hleaves hexpected)
  | drafting campaign customers =>
      exact absurd (h.claimed _ List.mem_cons_self) (hleaves hexpected)
  | storing customers records =>
      exact absurd (h.claimed _ List.mem_cons_self) (hleaves hexpected)
  | closing records completed => exact hleaves.elim
  | _ => exact ⟨rfl, rfl⟩

theorem completions_closing {args : NewDispatch} {records : List DeliveryRecord}
    {completed : Bool} :
    (Task.dispatch args (.underway (.closing records completed))).completions =
      if completed then 1 else 0 := by
  cases completed <;> rfl

theorem statuses_of_dispatch (p : CampaignStatus → Bool) {args : NewDispatch}
    {s : Dispatch.Stage} {q : Progress Dispatch.Stage (List DeliveryRecord)}
    (effect : Dispatch.Effect args k s k' q)
    (h : (Task.dispatch args (.underway s)).Passage k k' (.dispatch args q))
    (hexpected : (Task.dispatch args q).Expected) :
    (statuses p).Even m k (.dispatch args (.underway s)) k' (.dispatch args q) := by
  cases effect with
  | @claimed _ c now stored pending =>
      have hstock : ((k.putCampaign { c with status := .sending, updatedAt := now }).inStatus p :
          Int) + c.status.weight p = k.inStatus p + CampaignStatus.sending.weight p :=
        Ledger.inStatus_putCampaign stored rfl
      rw [pending] at hstock
      simp only [Account.Even, statuses, Task.measured, Dispatch.measured, id, Task.claims,
        Task.completions, List.length_singleton, List.length_nil]
      push_cast
      linear_combination -hstock
  | @released _ c now stored sending none_counted =>
      have hstock : ((k.putCampaign { c with status := .pending, updatedAt := now }).inStatus p :
          Int) + c.status.weight p = k.inStatus p + CampaignStatus.pending.weight p :=
        Ledger.inStatus_putCampaign stored rfl
      rw [sending] at hstock
      simp only [Account.Even, statuses, Task.measured, Dispatch.measured, id, Task.claims,
        Task.completions, List.length_singleton, List.length_nil]
      push_cast
      linear_combination -hstock
  | stored =>
      simp only [Account.Even, statuses, Task.measured, Dispatch.measured, Dispatch.announced_eq,
        Metrics.dispatchBegun, Task.claims, Task.completions, List.length_singleton,
        List.length_nil, Ledger.inStatus, Ledger.putBatch]
      push_cast
      ring
  | @closed records c now stored =>
      have hnone : (Task.dispatch args (.underway (.handing records []))).completions = 0 := rfl
      have hstock := Ledger.inStatus_putCampaign (p := p) stored
        (Campaign.completeIfExhausted_keeps now).1
      rw [weight_completeIfExhausted] at hstock
      simp only [Account.Even, statuses, Task.measured, Dispatch.measured, id, Task.claims,
        completions_closing, hnone]
      linear_combination -hstock
  | @finished records completed =>
      cases completed with
      | true =>
          simp only [Account.Even, statuses, Task.measured, Dispatch.measured,
            Metrics.campaignCompleted, Task.claims, Task.completions]
          push_cast
          ring
      | false => exact .still rfl rfl rfl
  | failed f n =>
      rcases h.failed hexpected with ⟨hclaims, hcompletions⟩
      refine .still ?_ ?_ rfl
      · rw [Task.measured, Dispatch.measured_raised]
      · simp only [statuses, hclaims, hcompletions]
        rfl
  | _ => exact .still rfl rfl rfl

theorem statuses_kept (p : CampaignStatus → Bool) : (statuses p).Kept where
  issued r := by
    cases r <;> simp only [statuses, Request.task, Task.claims, Task.completions, List.length_nil,
      Int.natCast_zero, Int.zero_mul, Int.add_zero]
  even := by
    intro k k' t t' m h hexpected
    have haside : k.Aside k' → (statuses p).stock k' = (statuses p).stock k := by
      intro aside
      simp only [statuses, Ledger.inStatus, aside.campaigns]
    cases h.effect with
    | customer aside => exact .still rfl rfl (haside aside)
    | order aside => exact .still rfl rfl (haside aside)
    | campaign effect =>
        cases effect with
        | stored =>
            have hstock := Ledger.inStatus_create (p := p) (Task.campaign?_of_storing h.apart)
            rw [h.sound.1] at hstock
            simp only [Account.Even, statuses, Task.measured, Campaigns.measured,
              Metrics.campaignCreated, Task.claims, Task.completions]
            push_cast
            linear_combination -hstock
        | failed f n =>
            exact .still (by rw [Task.measured, Campaigns.measured_raised]) rfl rfl
        | _ => exact .still rfl rfl rfl
    | dispatch effect => exact statuses_of_dispatch p effect h hexpected
    | receipt effect =>
        cases effect with
        | @counted record c after update now stored outcome =>
            have hstock := Ledger.inStatus_putCampaign (p := p) stored
              (Campaign.recordOutcome_keeps outcome).1
            rw [weight_recordOutcome p outcome] at hstock
            rcases update with ⟨counted, completed⟩
            cases completed <;>
              simp only [Account.Even, statuses, Task.measured, Receipts.measured,
                Metrics.receiptRecorded, Metrics.campaignCompleted, Task.claims, Task.completions,
                Bool.false_eq_true, if_false, if_true] at hstock ⊢ <;>
              push_cast <;>
              linear_combination -hstock
        | _ => exact .still rfl rfl rfl

/-- The gauge of the campaigns that wait for receipts goes up with every start and down
    with every completion. -/
def gauge : Account where
  counted m := m.campaignsSending - m.campaignsStarted + m.campaignsCompleted
  owed _ := 0
  stock _ := 0

theorem gauge_measured (t t' : Task) (m : Metrics) :
    gauge.counted (t.measured t' m) = gauge.counted m := by
  unfold Task.measured
  split
  · unfold Campaigns.measured
    split <;> rfl
  · unfold Dispatch.measured
    split
    · rw [Dispatch.announced_eq]
      simp only [gauge, Metrics.dispatchBegun]
      push_cast
      ring
    · simp only [gauge, Metrics.campaignCompleted]
      push_cast
      ring
    · rfl
  · unfold Receipts.measured
    split
    · rfl
    · rfl
    · simp only
      split
      · simp only [gauge, Metrics.campaignCompleted, Metrics.receiptRecorded]
        push_cast
        ring
      · rfl
    · rfl
  · rfl

theorem gauge_kept : gauge.Kept where
  issued _ := rfl
  even := fun _ _ _ => .still (gauge_measured _ _ _) rfl rfl

/-! ## Receipts -/

/-- The records with some outcome. The receipt that has settled its record is still to
    count the outcome. -/
def recorded (outcome : DeliveryStatus) : Account where
  counted m := m.receiptsRecorded.count (outcome.text : Text)
  owed
    | .receipt args (.underway (.counting _)) => if args.outcome = outcome then 1 else 0
    | _ => 0
  stock k := k.inState outcome

/-- The outcome is counted whether or not it completes the campaign. -/
theorem recorded_measured (outcome : DeliveryStatus) (args : Receipt) (record : DeliveryRecord)
    (result : ReceiptResult) (m : Metrics) :
    (recorded outcome).counted (Receipts.measured args (.counting record) (.returned result) m) =
      (recorded outcome).counted m + if args.outcome = outcome then 1 else 0 := by
  have hlabel : (args.outcome.text : Text) = (outcome.text : Text) ↔ args.outcome = outcome :=
    Text.ofString_inj.trans DeliveryStatus.text_inj
  have hbump : (Receipts.measured args (.counting record) (.returned result) m).receiptsRecorded =
      m.receiptsRecorded.bump (args.outcome.text : Text) := by
    simp only [Receipts.measured]
    split <;> rfl
  simp only [recorded, hbump, Tally.count_bump, hlabel]
  push_cast
  rfl

theorem recorded_kept {outcome : DeliveryStatus} (ho : outcome.isOutcome = true) :
    (recorded outcome).Kept where
  issued r := by cases r <;> rfl
  even := by
    intro k k' t t' m h _
    have hpending := (DeliveryStatus.ne_pending_of_isOutcome ho).symm
    have haside : k.Aside k' → (recorded outcome).stock k' = (recorded outcome).stock k := by
      intro aside
      simp only [recorded, Ledger.inState, aside.records]
    cases h.effect with
    | customer aside => exact .still rfl rfl (haside aside)
    | order aside => exact .still rfl rfl (haside aside)
    | @campaign args _ _ s p effect =>
        have hcounted : (recorded outcome).counted (Campaigns.measured s p m) =
            (recorded outcome).counted m := by
          simp only [recorded, (Campaigns.measured_receipts s p m).1]
        cases effect <;> exact .still hcounted rfl rfl
    | @dispatch args _ _ s p effect =>
        have hcounted : (recorded outcome).counted (Dispatch.measured s p m) =
            (recorded outcome).counted m := by
          simp only [recorded, (Dispatch.measured_receipts s p m).1]
        cases effect with
        | stored =>
            refine .still hcounted rfl (congrArg Int.ofNat ?_)
            exact Ledger.inState_putBatch h.apart (fun r hr => (h.sound.2 r hr).2) hpending
        | _ => exact .still hcounted rfl rfl
    | @receipt args _ _ s p effect =>
        cases effect with
        | @settled record r now houtcome stored pending =>
            have hstock : (k.putRecord { r with status := args.outcome, updatedAt := now }).inState
                outcome + (if r.status = outcome then 1 else 0) =
                k.inState outcome + if args.outcome = outcome then 1 else 0 :=
              Ledger.inState_putRecord stored rfl
            rw [pending, if_neg hpending, Nat.add_zero] at hstock
            simp only [Account.Even, recorded, Task.measured, Receipts.measured, id, hstock]
            push_cast
            ring
        | @counted record c after update now stored houtcome =>
            have hstock : (k.putCampaign after).inState outcome = k.inState outcome := rfl
            have hcounted := recorded_measured outcome args record
              ⟨args.recordId, record.campaignId, update.counted, update.completed, false⟩ m
            simp only [Account.Even, Task.measured, hcounted]
            simp only [recorded, hstock]
            ring
        | uncounted f unstored =>
            -- The campaign of a record is stored, and what settled it was an outcome.
            rcases h.concerned _ List.mem_cons_self with ⟨d, hd, -⟩
            rcases unstored with hnone | houtcome
            · rw [hd] at hnone
              cases hnone
            · exact absurd h.sound.1 houtcome
        | _ => exact .still rfl rfl rfl

namespace Task

/-- The reason for which a call has dropped its receipt. -/
def dropped? : Task → Option Text
  | receipt _ (.raised (.unknownRecord _)) => some "unknown"
  | receipt _ (.returned result) => if result.duplicate then some "duplicate" else none
  | _ => none

/-- A receipt that fails elsewhere than where it looks for its record is not dropped. -/
theorem dropped?_of_leaves {args : Receipt} {s : Receipts.Stage} {f : Fault}
    (h : Receipts.Leaves s (.raised f)) (hs : s ≠ .finding) :
    (receipt args (.raised f)).dropped? = none := by
  cases f with
  | unknownRecord id => exact absurd (h id rfl) hs
  | _ => rfl

end Task

/-- The receipts that were dropped for some reason, against which nothing is stored. -/
def dropped (reason : Text) : Account where
  counted m := m.receiptsDropped.count reason
  owed t := -if t.dropped? = some reason then 1 else 0
  stock _ := 0

/-- A receipt that drops itself counts that. -/
theorem dropped_measured {reason reason' : Text} {m' : Metrics}
    (hm : m' = m.receiptDropped reason') (hbefore : t.dropped? = none)
    (hafter : t'.dropped? = some reason') :
    (dropped reason).counted m' + (dropped reason).owed t' =
      (dropped reason).counted m + (dropped reason).owed t := by
  simp only [dropped, hm, Metrics.receiptDropped, Tally.count_bump, hbefore, hafter,
    Option.some.injEq, reduceCtorEq, if_false]
  push_cast
  ring

theorem dropped_kept (reason : Text) : (dropped reason).Kept where
  issued r := by cases r <;> rfl
  even := by
    intro k k' t t' m h _
    cases h.effect with
    | customer aside => exact .still rfl rfl rfl
    | order aside => exact .still rfl rfl rfl
    | @campaign args _ _ s p effect =>
        refine .still ?_ rfl rfl
        simp only [dropped, Task.measured, (Campaigns.measured_receipts s p m).2]
    | @dispatch args _ _ s p effect =>
        refine .still ?_ rfl rfl
        simp only [dropped, Task.measured, (Dispatch.measured_receipts s p m).2]
    | @receipt args _ _ s p effect =>
        -- Whatever else ends the call, the receipt is not dropped.
        have hquiet : ∀ {f : Fault}, p = .raised f → s ≠ .finding →
            (dropped reason).owed (.receipt args (.raised f)) = 0 := by
          rintro f rfl hs
          simp only [dropped, Task.dropped?_of_leaves h.leaves hs, reduceCtorEq, if_false, neg_zero]
        cases effect with
        | unknown unstored =>
            exact congrArg (· - 0)
              (dropped_measured (t := .receipt args (.underway .finding)) rfl rfl rfl)
        | @duplicate record r stored settled =>
            exact congrArg (· - 0)
              (dropped_measured (t := .receipt args (.underway (.settling record))) rfl rfl rfl)
        | counted now stored outcome =>
            refine .still ?_ rfl rfl
            simp only [Task.measured, Receipts.measured]
            split <;> rfl
        | refused f outcome => exact .still rfl (hquiet rfl (by rintro ⟨⟩)) rfl
        | lost f unstored => exact .still rfl (hquiet rfl (by rintro ⟨⟩)) rfl
        | uncounted f unstored => exact .still rfl (hquiet rfl (by rintro ⟨⟩)) rfl
        | _ => exact .still rfl rfl rfl

/-! ## Batches -/

/-- The sizes of batches that a step counts are the numbers of records that it stores. A
    size that no double can hold is not counted. -/
theorem Task.Passage.fanouts (h : t.Passage k k' t') (m : Metrics) :
    ∃ sizes, (t.measured t' m).fanouts = m.fanouts ++ Amount.ofSizes sizes ∧
      k'.tables.records.length = k.tables.records.length + total sizes := by
  have hquiet : (t.measured t' m).fanouts = m.fanouts →
      k'.tables.records.length = k.tables.records.length →
      ∃ sizes, (t.measured t' m).fanouts = m.fanouts ++ Amount.ofSizes sizes ∧
        k'.tables.records.length = k.tables.records.length + total sizes :=
    fun hfanouts hrecords => ⟨[], hfanouts.trans (List.append_nil _).symm, hrecords⟩
  cases h.effect with
  | customer aside => exact hquiet rfl (congrArg List.length aside.records)
  | order aside => exact hquiet rfl (congrArg List.length aside.records)
  | campaign effect =>
      cases effect with
      | failed f n => exact hquiet (by rw [measured, Campaigns.measured_raised]) rfl
      | _ => exact hquiet rfl rfl
  | dispatch effect =>
      cases effect with
      | @stored customers records =>
          refine ⟨[records.length], ?_, ?_⟩
          · simp only [measured, Dispatch.measured, Dispatch.announced_eq]
          · rw [(Ledger.identifiers_putBatch h.apart).1, List.length_append]
            rfl
      | @finished records completed => cases completed <;> exact hquiet rfl rfl
      | failed f n => exact hquiet (by rw [measured, Dispatch.measured_raised]) rfl
      | _ => exact hquiet rfl rfl
  | @receipt args _ _ s p effect =>
      cases effect with
      | @settled record r now outcome stored pending =>
          have hids : (Ledger.putRecord k { r with status := args.outcome, updatedAt := now }
              |>.tables.records.map DeliveryRecord.id) = k.tables.records.map DeliveryRecord.id :=
            Ledger.map_putRecord DeliveryRecord.id stored rfl rfl
          have hlength := congrArg List.length hids
          rw [List.length_map, List.length_map] at hlength
          exact hquiet rfl hlength
      | counted now stored outcome =>
          refine hquiet ?_ rfl
          simp only [measured, Receipts.measured]
          split <;> rfl
      | _ => exact hquiet rfl rfl

end Run

end Outreach
