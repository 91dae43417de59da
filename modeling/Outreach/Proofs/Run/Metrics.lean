import Outreach.Proofs.Run.Exhaustion
import Outreach.Proofs.Run.Invariant.Accounts

/-!
# Metrics Agree With the Store

Every metric is raised at another point than that at which the store is changed, and in
between other calls may come in, a dispatch may put its campaign back and be tried again,
and receipts may turn up for records that are settled or unknown. When no call is under
way, all metrics have caught up: what was counted since the start of the run is what can
be counted in the store.

A dispatch that fails in a way that its callers are not told of leaves its campaign being
sent, although its start was never counted. There must not have been one.

## Main definitions

* `Run.Agrees`: Metrics that agree with the store.
* `Run.receiving`: A run with a receipt of each kind.

## Theorems

* `Run.metrics_agree_with_store`: The metrics whenever no call is under way.
-/

namespace Outreach

namespace Run

/-- Metrics agree with what is stored, and with how the receipts of a run have ended. -/
structure Agrees (m : Metrics) (s : System) : Prop where
  created : m.campaignsCreated = s.campaigns.length
  started : m.campaignsStarted =
    s.campaigns.countP fun c => decide (c.status = .sending ∨ c.status = .completed)
  completed : m.campaignsCompleted = s.campaigns.countP fun c => decide (c.status = .completed)
  sending : m.campaignsSending = s.campaigns.countP fun c => decide (c.status = .sending)
  /-- The counter of records is raised by the sizes of the batches that were stored. -/
  batches : ∃ sizes, m.fanouts = Amount.ofSizes sizes ∧ total sizes = s.records.length
  /-- As a double it is exact up to a bound that no store reaches. -/
  records : s.records.length ≤ twoTo 53 → m.recordsCreated = s.records.length
  outcomes : ∀ outcome : DeliveryStatus, outcome.isOutcome = true →
    m.receiptsRecorded.count (outcome.text : Text) =
      s.records.countP fun r => decide (r.status = outcome)
  /-- Receipts for unknown records and duplicates are counted by these reasons. -/
  dropped : ∀ reason : Text, m.receiptsDropped.count reason =
    s.tasks.countP fun t => decide (t.dropped? = some reason)

/-- A call that has ended owes nothing to the counters of campaigns and records. -/
theorem owed_of_ended {t : Task} (h : t.isUnderway = false) :
    (∀ p, (statuses p).owed t = 0) ∧ ∀ outcome, (recorded outcome).owed t = 0 := by
  have hnone : t.claims = [] ∧ t.completions = 0 ∧ ∀ outcome, (recorded outcome).owed t = 0 := by
    cases t with
    | dispatch args p => cases p with
      | underway s => cases h
      | _ => exact ⟨rfl, rfl, fun _ => rfl⟩
    | receipt args p => cases p with
      | underway s => cases h
      | _ => exact ⟨rfl, rfl, fun _ => rfl⟩
    | _ => exact ⟨rfl, rfl, fun _ => rfl⟩
  refine ⟨fun p => ?_, hnone.2.2⟩
  simp only [statuses, hnone.1, hnone.2.1, List.length_nil, Int.natCast_zero, Int.zero_mul,
    Int.add_zero]

theorem sum_owed_dropped (reason : Text) (ts : List Task) :
    (ts.map (dropped reason).owed).sum =
      -(ts.countP fun t => decide (t.dropped? = some reason) : Int) := by
  induction ts with
  | nil => rfl
  | cons t rest ih =>
      rw [List.map_cons, List.sum_cons, ih, List.countP_cons]
      simp only [dropped, decide_eq_true_eq]
      push_cast
      ring

/-- What agrees with the store, by the accounts of the metrics. -/
theorem agrees_of_counted {m : Metrics} {s : System}
    (hstatus : ∀ p, (statuses p).counted s.world.metrics =
      (statuses p).counted m + s.world.ledger.inStatus p)
    (hgauge : gauge.counted s.world.metrics = gauge.counted m)
    (hbatches : ∃ sizes, s.world.metrics.fanouts = m.fanouts ++ Amount.ofSizes sizes ∧
      total sizes = s.records.length)
    (hrecorded : ∀ outcome : DeliveryStatus, outcome.isOutcome = true →
      (recorded outcome).counted s.world.metrics =
        (recorded outcome).counted m + s.world.ledger.inState outcome)
    (hdropped : ∀ reason, (dropped reason).counted s.world.metrics =
      (dropped reason).counted m + s.tasks.countP fun t => decide (t.dropped? = some reason)) :
    Agrees (m.since s.world.metrics) s := by
  have hcount : ∀ p, s.world.ledger.inStatus p = s.campaigns.countP fun c => p c.status :=
    fun _ => rfl
  rcases hbatches with ⟨sizes, hfanouts, htotal⟩
  have hsizes : (m.since s.world.metrics).fanouts = Amount.ofSizes sizes := by
    rw [Metrics.since, hfanouts, List.drop_left]
  -- Each status that is asked for singles one of the counters out.
  have hcreated := hstatus fun _ => true
  have hstarted := hstatus fun status => decide (status = .sending ∨ status = .completed)
  have hcompleted := hstatus fun status => decide (status = .completed)
  have hsending := hstatus fun status => decide (status = .sending)
  simp only [statuses, CampaignStatus.weight, hcount, if_true, decide_eq_true_eq, reduceCtorEq,
    or_self, or_true, true_or, if_false, List.countP_true] at hcreated hstarted hcompleted hsending
  simp only [gauge] at hgauge
  refine ⟨?_, ?_, ?_, ?_, ⟨sizes, hsizes, htotal⟩, fun hbound => ?_, fun outcome ho => ?_,
    fun reason => ?_⟩
  · simp only [Metrics.since]
    omega
  · simp only [Metrics.since]
    omega
  · simp only [Metrics.since]
    omega
  · simp only [Metrics.since]
    omega
  · rw [Metrics.recordsCreated, hsizes, Amount.sumOf_ofSizes (htotal ▸ hbound), htotal]
  · have hoc := hrecorded outcome ho
    have hstate : s.world.ledger.inState outcome =
        s.records.countP fun r => decide (r.status = outcome) := rfl
    simp only [recorded, hstate] at hoc
    simp only [Metrics.since, Tally.count_since]
    omega
  · have hreason := hdropped reason
    simp only [dropped] at hreason
    simp only [Metrics.since, Tally.count_since]
    omega

section

variable {w : World Memory} {moves : List Move} (hblank : w.Blank)
  (hdistinct : ((System.start w).run moves).world.DistinctIds)
  (hexpected : ((System.start w).run moves).AsExpected)

include hblank hdistinct hexpected

/-- What was counted over a run is stored, unless calls owe it. -/
theorem counted_of_run {a : Account} (ha : a.Kept)
    (hempty : ∀ k : Ledger, k.tables = Tables.empty → a.stock k = 0) :
    a.counted ((System.start w).run moves).world.metrics =
      a.counted w.metrics + a.stock ((System.start w).run moves).world.ledger -
        (((System.start w).run moves).tasks.map a.owed).sum := by
  have hbalance := ha.balance_of_run moves (s := System.start w)
    (.start hblank.tables hblank.handed) hdistinct hexpected
  have hstart : a.balance (System.start w) = a.counted w.metrics := by
    rw [Account.balance]
    simp only [System.start, List.map_nil, List.sum_nil, Int.add_zero, Int.sub_zero,
      hempty w.ledger hblank.tables]
  rw [hstart, Account.balance] at hbalance
  omega

theorem counted_of_settled {a : Account} (ha : a.Kept)
    (hempty : ∀ k : Ledger, k.tables = Tables.empty → a.stock k = 0)
    (howed : ∀ t ∈ ((System.start w).run moves).tasks, a.owed t = 0) :
    a.counted ((System.start w).run moves).world.metrics =
      a.counted w.metrics + a.stock ((System.start w).run moves).world.ledger := by
  have hsum : (((System.start w).run moves).tasks.map a.owed).sum = 0 :=
    List.sum_eq_zero fun x hx => by
      rcases List.mem_map.1 hx with ⟨t, ht, rfl⟩
      exact howed t ht
  have hcounted := counted_of_run hblank hdistinct hexpected ha hempty
  rwa [hsum, Int.sub_zero] at hcounted

/-- The sizes that were counted over a run are those of its batches. -/
theorem fanouts_of_run :
    ∃ sizes, ((System.start w).run moves).world.metrics.fanouts =
        w.metrics.fanouts ++ Amount.ofSizes sizes ∧
      total sizes = ((System.start w).run moves).records.length := by
  refine System.holds_of_run
    (P := fun s => ∃ sizes, s.world.metrics.fanouts = w.metrics.fanouts ++ Amount.ofSizes sizes ∧
      total sizes = s.records.length)
    (fun r hP => hP) (fun c hP => hP) ?_ moves (.start hblank.tables hblank.handed) hdistinct
    hexpected ⟨[], (List.append_nil _).symm, ?_⟩
  · rintro s n t task hpassage - ⟨sizes, hfanouts, hrecords⟩
    rcases hpassage.fanouts s.world.metrics with ⟨more, hmore, hstored⟩
    refine ⟨sizes ++ more, ?_, ?_⟩
    · have hmetrics : (s.step n t).world.metrics =
          t.measured (t.advance s.world).1 s.world.metrics := t.metrics_advance
      rw [hmetrics, hmore, hfanouts, Amount.ofSizes_append, List.append_assoc]
    · rw [total_append, hrecords]
      exact hstored.symm
  · have hrecords : (System.start w).records = [] := congrArg Tables.records hblank.tables
    rw [hrecords]
    rfl

end

/-- Whatever calls went on side by side from a blank world, and however their steps came
    in between each other, when none is under way and no dispatch has failed but as
    expected, what was counted agrees with the store. -/
theorem metrics_agree_with_store {w : World Memory} (hblank : w.Blank) (moves : List Move)
    (hdistinct : ((System.start w).run moves).world.DistinctIds)
    (hidle : ((System.start w).run moves).Idle)
    (hexpected : ((System.start w).run moves).AsExpected) :
    Agrees (w.metrics.since ((System.start w).run moves).world.metrics)
      ((System.start w).run moves) := by
  have hsettled := @counted_of_settled w moves hblank hdistinct hexpected
  refine agrees_of_counted (fun p => ?_) ?_ (fanouts_of_run hblank hdistinct hexpected)
    (fun outcome ho => ?_) fun reason => ?_
  · refine hsettled (statuses_kept p) (fun k hk => ?_) fun t ht => (owed_of_ended (hidle t ht)).1 p
    simp only [statuses, Ledger.inStatus, hk]
    rfl
  · exact (hsettled gauge_kept (fun _ _ => rfl) fun _ _ => rfl).trans (Int.add_zero _)
  · refine hsettled (recorded_kept ho) (fun k hk => ?_)
      fun t ht => (owed_of_ended (hidle t ht)).2 outcome
    simp only [recorded, Ledger.inState, hk]
    rfl
  · have hdropped := counted_of_run hblank hdistinct hexpected (dropped_kept reason) fun _ _ => rfl
    rw [sum_owed_dropped, Int.sub_neg] at hdropped
    exact hdropped.trans (congrArg (· + _) (Int.add_zero _))

/-- The sample run, in which the campaign is started once and refused once, and a receipt
    comes twice. After it one turns up for a record that there is not. -/
def receiving : List Move :=
  sample ++ [.issue (.receipt ⟨Uuid.ofNat 9, .failed⟩), .advance 6, .advance 6]

theorem metrics_agree_in_receiving :
    sampleWorld.Blank ∧ ((System.start sampleWorld).run receiving).world.DistinctIds ∧
      ((System.start sampleWorld).run receiving).Idle ∧
      ((System.start sampleWorld).run receiving).AsExpected ∧
      ((System.start sampleWorld).run receiving).world.metrics.campaignsStarted = 1 ∧
      ((System.start sampleWorld).run receiving).world.metrics.receiptsDropped =
        [(("duplicate" : Text), 1), (("unknown" : Text), 1)] ∧
      Agrees (sampleWorld.metrics.since ((System.start sampleWorld).run receiving).world.metrics)
        ((System.start sampleWorld).run receiving) := by
  have hblank : sampleWorld.Blank := World.blank_blank _
  have hdistinct : ((System.start sampleWorld).run receiving).world.DistinctIds := by
    decide +kernel
  have hidle : ((System.start sampleWorld).run receiving).Idle := by decide +kernel
  have hexpected : ((System.start sampleWorld).run receiving).AsExpected := by decide +kernel
  exact ⟨hblank, hdistinct, hidle, hexpected, by decide +kernel, by decide +kernel,
    metrics_agree_with_store hblank receiving hdistinct hidle hexpected⟩

end Run

end Outreach
