import Outreach.Proofs.Run.Alone
import Outreach.Proofs.Run.SingleDispatch
import Outreach.Proofs.Service.Dispatch
import Outreach.Proofs.Service.Receipts

/-!
# Receipts in Any Order

Once a campaign is dispatched, receipts arrive in any order, some of them twice,
some for records that nobody knows, some with no outcome in them. What they leave
behind depends on one thing only, the first valid outcome for each record of the
campaign. So two sequences of receipts with the same first outcomes end in the
same states and with the same counters, and the campaign is completed by the
receipt with which its whole audience has answered.

## Main definitions

* `World.recordsOf`: The records of a campaign.
* `Run.receive`: The world after some receipts, one after the other.
* `Run.Concluded`: What some receipts make of a campaign.

## Theorems

* `Run.tallied_of_start`: A dispatched campaign counts its records.
* `Run.concluded_of_tallied`: What receipts make of it.
* `Run.receipts_in_any_order`: Only first outcomes matter.
-/

namespace Outreach

/-- The records of a campaign. -/
def World.recordsOf (w : World Memory) (id : Uuid) : List DeliveryRecord :=
  w.store.tables.records.filter fun r => decide (r.campaignId = id)

namespace Run

open Progress Receipts

/-- The world after some receipts, one after the other, each at a time of its
    own. -/
def receive (w : World Memory) (xs : List (Timestamp × Receipt)) : World Memory :=
  xs.foldl (fun v x => ((Request.receipt x.2).serve { v with clock := x.1 }).2) w

/-- What holds however a whole call ends holds when it has ended. -/
theorem holds_ended {S α : Type} {x : Action Memory α} {w : World Memory} {P : World Memory → Prop}
    (h : Action.Ends x w (fun _ v => P v) fun _ v => P v) :
    P (ended x w : Progress S α × World Memory).2 := by
  unfold Action.Ends at h
  change P (after (EStateM.bind x _) w).2
  unfold after EStateM.bind
  cases hx : x w with
  | ok a v =>
      rw [hx] at h
      exact h
  | error f v =>
      rw [hx] at h
      exact h

/-- The time that a clock shows, in universal time as far as it has one. -/
def timeOn (clock : Timestamp) : Timestamp := clock.toUtc?.getD clock

theorem store_receive (xs : List (Timestamp × Receipt)) : ∀ w : World Memory,
    (receive w xs).store = receivedAll w.store (xs.map fun x => (timeOn x.1, x.2)) := by
  induction xs with
  | nil => exact fun _ => rfl
  | cons x rest ih =>
      intro w
      have hstep : ((Request.receipt x.2).serve { w with clock := x.1 }).2.store =
          w.store.received x.2 (timeOn x.1) :=
        holds_ended (P := fun v => v.store = _) (ends_record { w with clock := x.1 } x.2)
      change (receive ((Request.receipt x.2).serve { w with clock := x.1 }).2 rest).store = _
      rw [ih, hstep]
      rfl

/-! ## After the dispatch -/

theorem outcomes_eq_zero {v : World Memory} {id : Uuid}
    (h : ∀ r ∈ v.store.tables.records, r.campaignId = id → r.status = .pending)
    {status : DeliveryStatus} (hs : status ≠ .pending) : v.store.outcomes id status = 0 := by
  refine List.countP_eq_zero.2 fun r hr => ?_
  rw [Bool.and_eq_true, decide_eq_true_eq, decide_eq_true_eq]
  exact fun hr' => hs (hr'.2.symm.trans (h r hr hr'.1))

/-- A dispatched campaign counts its records, all of which are pending. -/
theorem tallied_of_start {w v : World Memory} (hblank : w.Blank) (moves : List Move) {id : Uuid}
    {rules : List Rule} {template : Text} {now : Option Timestamp} {records : List DeliveryRecord}
    (hstart : Dispatch.start id rules template now ((System.start w).run moves).world =
      .ok records v) (hdistinct : v.DistinctIds) {c : Campaign}
    (hc : lookUp Campaign.id id v.store.tables.campaigns = some c) :
    v.store.Tallied id c.audienceSize ∧
      ∀ r ∈ v.store.tables.records, r.campaignId = id → r.status = .pending := by
  -- The dispatch on its own is a continuation of the run.
  rcases ((System.start w).run moves).run_alone (.dispatch ⟨id, rules, template, now⟩) with
    ⟨n, -, hworld⟩
  have hserve : ((Request.dispatch ⟨id, rules, template, now⟩).serve
      ((System.start w).run moves).world).2 = v := by
    change (after (EStateM.bind (Dispatch.start id rules template now) _) _).2 = v
    unfold after EStateM.bind
    rw [hstart]
    rfl
  rw [hserve] at hworld
  have hdistinct' : (((System.start w).run moves).run (.issue (.dispatch ⟨id, rules, template, now⟩)
      :: List.replicate n (.advance ((System.start w).run moves).tasks.length))).world.DistinctIds := by
    rw [hworld]
    exact hdistinct
  have hbefore := System.reachable_run hblank moves (System.distinctIds_of_run _ hdistinct')
  have hafter := System.reachable_of_run _ hbefore hdistinct'
  have htables : (((System.start w).run moves).run (.issue (.dispatch ⟨id, rules, template, now⟩)
      :: List.replicate n (.advance ((System.start w).run moves).tasks.length))).board.ledger.tables =
        v.store.tables := congrArg (fun v => v.store.tables) hworld
  have hdone : Dispatch.Done id ((System.start w).run moves).world.store.tables v.store.tables := by
    have hends : Action.Ends (Dispatch.start id rules template now)
        ((System.start w).run moves).world _ _ := Dispatch.ends_start rules template now
    unfold Action.Ends at hends
    rw [hstart] at hends
    exact hends
  rcases hdone with ⟨⟨c₀, claimed, later, hc₀, hpending, hclosed⟩, hrecords⟩
  -- Nothing had happened to the campaign before.
  rcases nothing_of_pending hbefore hc₀ hpending with ⟨hnone, hsent, hfailed⟩
  have hallpending : ∀ r ∈ v.store.tables.records, r.campaignId = id → r.status = .pending := by
    intro r hr hid
    rcases hrecords r hr with hold | hnew
    · have hmem : r ∈ ((System.start w).run moves).recordsOf id :=
        List.mem_filter.2 ⟨hold, decide_eq_true hid⟩
      rw [hnone] at hmem
      exact absurd hmem List.not_mem_nil
    · exact hnew.2
  have hsize := (hbefore.balanced id c₀ hc₀).size
  have hbalanced := Campaign.balanced_of_dispatch claimed later hpending hsent hfailed hsize
  cases hc.symm.trans hclosed
  refine ⟨⟨?_, fun r hr => ?_, _, hclosed, rfl, ?_, ?_⟩, hallpending⟩
  · have hapart := hafter.identified.apart.of_append_right.of_append_right
    rw [htables] at hapart
    exact hapart
  · have hmem := hafter.dispatched.records r (by rw [htables]; exact hr)
    rcases hafter.started hmem with ⟨d, hd, -⟩
    rw [Ledger.campaign?, htables] at hd
    exact ⟨d, hd⟩
  · exact Campaign.status_completeIfExhausted later fun hpending => by cases hpending
  · have hsent0 : v.store.outcomes id .sent = 0 := outcomes_eq_zero hallpending (by decide)
    have hfailed0 : v.store.outcomes id .failed = 0 := outcomes_eq_zero hallpending (by decide)
    rw [hsent0, hfailed0]
    exact hbalanced

/-! ## After some receipts -/

/-- What some receipts make of a campaign: every record has the first valid
    outcome for it, the counters are the numbers of sent and of failed records,
    and the campaign is completed just if as many records as its audience has
    members have got a valid receipt. -/
structure Concluded (before after : World Memory) (id : Uuid) (size : Int) (xs : List Receipt) :
    Prop where
  statuses : (after.recordsOf id).map (fun r => (r.id, r.status)) =
    (before.recordsOf id).map fun r => (r.id, outcomeOf xs r.id)
  campaign : ∃ c, lookUp Campaign.id id after.store.tables.campaigns = some c ∧
    c.audienceSize = size ∧
    c.sentCount = (after.recordsOf id).countP (fun r => decide (r.status = .sent)) ∧
    c.failedCount = (after.recordsOf id).countP (fun r => decide (r.status = .failed)) ∧
    (c.status = .completed ↔
      ((before.recordsOf id).countP fun r => decide (outcomeOf xs r.id ≠ .pending) : Nat) = size) ∧
    c.status ≠ .pending

/-- What is the same record by record is the same on the records of a campaign. -/
theorem map_recordsOf {us vs : List DeliveryRecord} {f g : DeliveryRecord → DeliveryStatus}
    (h : us.map (fun r => (r.id, r.campaignId, f r)) = vs.map fun r => (r.id, r.campaignId, g r))
    (id : Uuid) :
    (us.filter fun r => decide (r.campaignId = id)).map (fun r => (r.id, f r)) =
      (vs.filter fun r => decide (r.campaignId = id)).map fun r => (r.id, g r) := by
  have hfilter := congrArg (fun ts : List (Uuid × Uuid × DeliveryStatus) =>
    (ts.filter fun t => decide (t.2.1 = id)).map fun t => (t.1, t.2.2)) h
  simp only [List.filter_map, List.map_map] at hfilter
  exact hfilter

/-- A settled record is sent or failed. -/
theorem countP_settled (rs : List DeliveryRecord) :
    rs.countP (fun r => decide (r.status = .sent)) +
      rs.countP (fun r => decide (r.status = .failed)) =
        rs.countP fun r => decide (r.status ≠ .pending) := by
  induction rs with
  | nil => rfl
  | cons r rest ih =>
      simp only [List.countP_cons, decide_eq_true_eq, ne_eq] at ih ⊢
      cases r.status <;>
        simp only [reduceCtorEq, not_true_eq_false, not_false_eq_true, if_true, if_false] <;>
        omega

theorem outcomes_eq_countP (v : World Memory) (id : Uuid) (status : DeliveryStatus) :
    v.store.outcomes id status = (v.recordsOf id).countP fun r => decide (r.status = status) := by
  rw [Memory.outcomes, World.recordsOf, List.countP_filter]
  exact List.countP_congr fun r _ => by rw [Bool.and_comm]

theorem concluded_of_tallied {v : World Memory} {id : Uuid} {size : Int}
    (htallied : v.store.Tallied id size)
    (hpending : ∀ r ∈ v.store.tables.records, r.campaignId = id → r.status = .pending)
    (hroom : ((v.recordsOf id).length : Int) ≤ size) (xs : List (Timestamp × Receipt)) :
    Concluded v (receive v xs) id size (xs.map Prod.snd) := by
  have hstore := store_receive xs v
  have hreceipts : (xs.map fun x => (timeOn x.1, x.2)).map Prod.snd = xs.map Prod.snd := by
    rw [List.map_map]
    rfl
  -- The first valid outcomes are in the records.
  have hstatuses : ((receive v xs).recordsOf id).map (fun r => (r.id, r.status)) =
      (v.recordsOf id).map fun r => (r.id, outcomeOf (xs.map Prod.snd) r.id) := by
    have hrecords := records_receivedAll (fun r status => (r.id, r.campaignId, status))
      (fun r x now status => by rw [DeliveryRecord.settledBy]; split <;> rfl)
      (xs.map fun x => (timeOn x.1, x.2)) htallied.keys
    rw [hreceipts, ← hstore] at hrecords
    refine (map_recordsOf hrecords id).trans (List.map_congr_left fun r hr => ?_)
    rcases List.mem_filter.1 hr with ⟨hmem, hid⟩
    rw [settledStatus, if_pos (hpending r hmem (of_decide_eq_true hid))]
  have hvalid : (v.recordsOf id).countP (fun r => decide (outcomeOf (xs.map Prod.snd) r.id ≠
      .pending)) = ((receive v xs).recordsOf id).countP fun r => decide (r.status ≠ .pending) := by
    have hcount := congrArg (List.countP fun t : Uuid × DeliveryStatus => decide (t.2 ≠ .pending))
      hstatuses
    rw [List.countP_map, List.countP_map] at hcount
    exact hcount.symm
  have hlength : ((receive v xs).recordsOf id).length = (v.recordsOf id).length := by
    have hlengths := congrArg List.length hstatuses
    rwa [List.length_map, List.length_map] at hlengths
  have hle : ((receive v xs).recordsOf id).countP (fun r => decide (r.status ≠ .pending)) ≤
      ((receive v xs).recordsOf id).length := List.countP_le_length
  rcases (tallied_receivedAll (xs.map fun x => (timeOn x.1, x.2)) htallied).campaign with
    ⟨c, hc, hsize, hstarted, hcsize, htotal, hsent, hfailed, hfull, hempty⟩
  rw [← hstore] at hc htotal hsent hfailed
  rw [outcomes_eq_countP, outcomes_eq_countP] at htotal
  rw [outcomes_eq_countP] at hsent hfailed
  -- There is room for all outcomes, so the counters have them all.
  have hsettled := countP_settled ((receive v xs).recordsOf id)
  have hsum : c.sentCount + c.failedCount = c.outcomeCount := rfl
  refine ⟨hstatuses, c, hc, hsize, by omega, by omega, ?_, hstarted⟩
  rw [hvalid]
  by_cases hpos : 0 < c.audienceSize
  · rw [hfull hpos]
    omega
  · rw [hempty (by omega)]
    exact iff_of_true trivial (by omega)

/-- A receipt is idle after some others if it is invalid, if its record is unknown
    or if one of the others was a valid receipt for it. -/
theorem idle_of_earlier {v : World Memory}
    (hkeys : (v.store.tables.records.map DeliveryRecord.id).Nodup)
    (zs : List (Timestamp × Receipt)) {x : Receipt}
    (h : ¬x.outcome.isOutcome ∨
      lookUp DeliveryRecord.id x.recordId v.store.tables.records = none ∨
        ∃ z ∈ zs, z.2.recordId = x.recordId ∧ z.2.outcome.isOutcome) :
    x.Idle (receive v zs).store := by
  rcases h with h | h
  · exact Or.inl h
  refine Or.inr fun r hr hp => ?_
  have hrecords := records_receivedAll (fun r status => (r.id, status))
    (fun r x now status => by rw [DeliveryRecord.settledBy]; split <;> rfl)
    (zs.map fun x => (timeOn x.1, x.2)) hkeys
  rw [← store_receive zs v, List.map_map] at hrecords
  -- The record was there before, and its state is that of the first valid receipt.
  have hmem : (r.id, r.status) ∈ (receive v zs).store.tables.records.map
      fun r => (r.id, r.status) := List.mem_map.2 ⟨r, mem_of_lookUp hr, rfl⟩
  rw [hrecords] at hmem
  rcases List.mem_map.1 hmem with ⟨r₀, hr₀, heq⟩
  rw [Prod.mk.injEq, key_of_lookUp hr, hp] at heq
  rcases h with h | ⟨z, hz, hzid, ho⟩
  · exact lookUp_eq_none_iff.1 h (List.mem_map.2 ⟨r₀, hr₀, heq.1⟩)
  · have hvalid : outcomeOf (zs.map Prod.snd) r₀.id ≠ .pending :=
      outcomeOf_ne_pending.2 ⟨z.2, List.mem_map_of_mem hz, hzid.trans heq.1.symm, ho⟩
    have hstatus := heq.2
    rw [settledStatus] at hstatus
    by_cases hp₀ : r₀.status = .pending
    · rw [if_pos hp₀] at hstatus
      exact hvalid hstatus
    · rw [if_neg hp₀] at hstatus
      exact hp₀ hstatus

/-- Receipts for a dispatched campaign, in any order. The campaign was started by a
    call that succeeded at some point of some run, and has no more records than its
    audience has members. Two sequences of receipts with the same first valid
    outcome for each record, or none, end with the same states, the same counters
    and the same state of the campaign. Receipts that are duplicate, unknown or
    invalid leave the whole store as it is. -/
theorem receipts_in_any_order {w v : World Memory} (hblank : w.Blank) (moves : List Move)
    {id : Uuid} {rules : List Rule} {template : Text} {now : Option Timestamp}
    {records : List DeliveryRecord}
    (hstart : Dispatch.start id rules template now ((System.start w).run moves).world =
      .ok records v) (hdistinct : v.DistinctIds) {c : Campaign}
    (hc : lookUp Campaign.id id v.store.tables.campaigns = some c)
    (hroom : ((v.recordsOf id).length : Int) ≤ c.audienceSize) (xs ys : List (Timestamp × Receipt))
    (hsame : ∀ r ∈ v.recordsOf id,
      outcomeOf (xs.map Prod.snd) r.id = outcomeOf (ys.map Prod.snd) r.id) :
    Concluded v (receive v xs) id c.audienceSize (xs.map Prod.snd) ∧
      Concluded v (receive v ys) id c.audienceSize (ys.map Prod.snd) ∧
      ((receive v xs).recordsOf id).map (fun r => (r.id, r.status)) =
        ((receive v ys).recordsOf id).map (fun r => (r.id, r.status)) ∧
      (∃ d e, lookUp Campaign.id id (receive v xs).store.tables.campaigns = some d ∧
        lookUp Campaign.id id (receive v ys).store.tables.campaigns = some e ∧
        d.sentCount = e.sentCount ∧ d.failedCount = e.failedCount ∧ d.status = e.status) ∧
      ∀ zs : List (Timestamp × Receipt), ∀ x : Timestamp × Receipt,
        (¬x.2.outcome.isOutcome ∨
          lookUp DeliveryRecord.id x.2.recordId v.store.tables.records = none ∨
            ∃ z ∈ zs, z.2.recordId = x.2.recordId ∧ z.2.outcome.isOutcome) →
        (receive v (zs ++ [x])).store = (receive v zs).store := by
  rcases tallied_of_start hblank moves hstart hdistinct hc with ⟨htallied, hpending⟩
  have hxs := concluded_of_tallied htallied hpending hroom xs
  have hys := concluded_of_tallied htallied hpending hroom ys
  have hstatuses : ((receive v xs).recordsOf id).map (fun r => (r.id, r.status)) =
      ((receive v ys).recordsOf id).map fun r => (r.id, r.status) := by
    rw [hxs.statuses, hys.statuses]
    exact List.map_congr_left fun r hr => by rw [hsame r hr]
  refine ⟨hxs, hys, hstatuses, ?_, fun zs x hidle => ?_⟩
  · rcases hxs.campaign with ⟨d, hd, -, hdsent, hdfailed, hdcompleted, hdstarted⟩
    rcases hys.campaign with ⟨e, he, -, hesent, hefailed, hecompleted, hestarted⟩
    -- Counters and completion are read off the states of the records.
    have hcount : ∀ status : DeliveryStatus,
        ((receive v xs).recordsOf id).countP (fun r => decide (r.status = status)) =
          ((receive v ys).recordsOf id).countP fun r => decide (r.status = status) := by
      intro status
      have h := congrArg (List.countP fun t : Uuid × DeliveryStatus => decide (t.2 = status))
        hstatuses
      rwa [List.countP_map, List.countP_map] at h
    have hvalid : (v.recordsOf id).countP (fun r => decide (outcomeOf (xs.map Prod.snd) r.id ≠
        .pending)) = (v.recordsOf id).countP fun r => decide (outcomeOf (ys.map Prod.snd) r.id ≠
          .pending) :=
      List.countP_congr fun r hr => by rw [hsame r hr]
    refine ⟨d, e, hd, he, ?_, ?_, ?_⟩
    · rw [hdsent, hesent, hcount]
    · rw [hdfailed, hefailed, hcount]
    · rw [hvalid] at hdcompleted
      have hboth : d.status = .completed ↔ e.status = .completed :=
        hdcompleted.trans hecompleted.symm
      revert hboth hdstarted hestarted
      cases d.status <;> cases e.status <;> decide
  · have hlast : (receive v (zs ++ [x])).store =
        (receive v zs).store.received x.2 (timeOn x.1) := by
      rw [store_receive, store_receive, List.map_append, receivedAll, receivedAll,
        List.foldl_append]
      rfl
    rw [hlast]
    exact Memory.received_of_idle (idle_of_earlier htallied.keys zs hidle) _

/-- The dispatch of the campaign of the sample run, by a call on its own. -/
def sampleStart : EStateM.Result Fault (World Memory) (List DeliveryRecord) :=
  Dispatch.start (Uuid.ofNat 1) [] "Hello" none ((System.start sampleWorld).run opening).world

/-- The world after it. -/
def sampleDispatched : World Memory :=
  match sampleStart with
  | .ok _ v => v
  | .error _ v => v

/-- The message is reported as sent and then as failed, or, after receipts that are
    unknown or invalid, as sent alone. -/
theorem receipts_in_any_order_sample :
    let noon : Timestamp := ⟨⟨2024, 6, 1⟩, 0, some 0⟩
    let xs : List (Timestamp × Receipt) :=
      [(noon, ⟨Uuid.ofNat 2, .sent⟩), (noon, ⟨Uuid.ofNat 2, .failed⟩)]
    let ys : List (Timestamp × Receipt) :=
      [(noon, ⟨Uuid.ofNat 7, .failed⟩), (noon, ⟨Uuid.ofNat 2, .pending⟩),
        (noon, ⟨Uuid.ofNat 2, .sent⟩)]
    sampleWorld.Blank ∧ (∃ records, sampleStart = .ok records sampleDispatched) ∧
      sampleDispatched.DistinctIds ∧
      ∃ c, lookUp Campaign.id (Uuid.ofNat 1) sampleDispatched.store.tables.campaigns = some c ∧
        ((sampleDispatched.recordsOf (Uuid.ofNat 1)).length : Int) ≤ c.audienceSize ∧
        Concluded sampleDispatched (receive sampleDispatched ys) (Uuid.ofNat 1) c.audienceSize
          (ys.map Prod.snd) ∧
        ((receive sampleDispatched xs).recordsOf (Uuid.ofNat 1)).map (fun r => (r.id, r.status)) =
          ((receive sampleDispatched ys).recordsOf (Uuid.ofNat 1)).map
            fun r => (r.id, r.status) := by
  intro noon xs ys
  have hblank : sampleWorld.Blank := World.blank_blank _
  have hstart : ∃ records, sampleStart = .ok records sampleDispatched := by
    have hok : (match sampleStart with | .ok .. => true | .error .. => false) = true := by
      decide +kernel
    unfold sampleDispatched
    cases h : sampleStart with
    | ok records v => exact ⟨records, rfl⟩
    | error f v =>
        rw [h] at hok
        cases hok
  have hdistinct : sampleDispatched.DistinctIds := by decide +kernel
  have hroom : (lookUp Campaign.id (Uuid.ofNat 1) sampleDispatched.store.tables.campaigns).any
      (fun c => decide (((sampleDispatched.recordsOf (Uuid.ofNat 1)).length : Int) ≤
        c.audienceSize)) = true := by decide +kernel
  have hsame : ∀ r ∈ sampleDispatched.recordsOf (Uuid.ofNat 1),
      outcomeOf (xs.map Prod.snd) r.id = outcomeOf (ys.map Prod.snd) r.id := by decide +kernel
  rcases (Option.any_eq_true _ _).1 hroom with ⟨c, hc, hle⟩
  rcases hstart with ⟨records, hstart⟩
  have hboth := receipts_in_any_order hblank opening hstart hdistinct hc (of_decide_eq_true hle)
    xs ys hsame
  exact ⟨hblank, ⟨records, hstart⟩, hdistinct, c, hc, of_decide_eq_true hle, hboth.2.1,
    hboth.2.2.1⟩

end Run

end Outreach
