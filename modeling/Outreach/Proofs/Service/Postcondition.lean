import Outreach.Proofs.Rule.Faults
import Outreach.Proofs.Service.Launch

/-!
# What a Dispatch Leaves Behind

A dispatch of a pending campaign, when everything is in order: each customer whom the
audience query finds gets one pending record, in the order of the query. The records are
stored behind the others, and handed to the sender together with their customers in that
same order. Of the rest of the store only the campaign changes.

The audience that is found may be of another size than the campaign, whose size was
counted when it was created. Whether the campaign is completed at once goes by its own
size, not by the number of records.

## Main definitions

* `Dispatch.Dispatched`: What a dispatch leaves behind.

## Theorems

* `Dispatch.exists_findMatching`: An audience query with compiled rules is answered.
* `Dispatch.dispatched_of_core`: The world after a dispatch, table by table.
* `Dispatch.pending_campaign_is_dispatched`: What a start and a launch leave behind.
-/

namespace Outreach

open Outreach.Action

namespace Dispatch

variable {w : World Memory} {id : Uuid} {c : Campaign}

/-- What a dispatch of a campaign to some customers leaves behind: the records that it
    returns, the messages with the fields of the log, and the tables. The size of a campaign
    is a count, so it is at most zero only for a campaign that was made for nobody. -/
structure Dispatched (w : World Memory) (fields : Log.Fields) (c : Campaign) (template : Text)
    (customers : List Customer) (records : List DeliveryRecord) (v : World Memory) : Prop where
  batch : records = batchFor w c.id template customers
  handed : v.sender.handed =
    w.sender.handed ++ (records.zip customers).map fun x => ⟨x.1, x.2, fields⟩
  records : v.store.tables.records = w.store.tables.records ++ records
  campaigns : v.store.tables.campaigns =
    upsert Campaign.id
      { c with
        status := if c.audienceSize ≤ 0 then .completed else .sending
        sentCount := 0
        failedCount := 0
        updatedAt := w.time }
      w.store.tables.campaigns
  customers : v.store.tables.customers = w.store.tables.customers
  orders : v.store.tables.orders = w.store.tables.orders

/-- While the store is available and visits are aware, the audience query for rules that
    were compiled at an aware time is answered. -/
theorem exists_findMatching (havailable : w.store.available = true)
    (hvisits : ∀ d ∈ w.store.tables.customers, d.lastVisit.isAware = true) {rules : List Rule}
    {t : Timestamp} {p : Predicate} (ht : t.isAware = true) (hp : Rule.compile rules t = .ok p) :
    ∃ customers, w.store.findMatching p = .ok customers := by
  have hmatches : ∀ d ∈ w.store.tables.customers, p.matches d = .ok (Rule.satisfied d p) := by
    intro d hd
    have hkinds : ∀ r ∈ rules, ¬r.Mixes t d := fun r _ h => h.2 ((hvisits d hd).trans ht.symm)
    rcases Rule.exists_matches hp hkinds with ⟨holds, hholds⟩
    rw [Rule.satisfied, hholds]
  exact ⟨_, Memory.findMatching_of_ok havailable hmatches⟩

/-- The world after a dispatch under fresh identifiers, table by table. -/
theorem dispatched_of_core {fields : Log.Fields} {template : Text} {customers : List Customer}
    {records : List DeliveryRecord} {v : World Memory} (hfresh : w.Fresh customers.length)
    (hsent : c.sentCount = 0) (hfailed : c.failedCount = 0)
    (hid : c.id = id) (hbatch : records = batchFor w id template customers)
    (hv : v.core = (dispatched { w with fields := fields } c customers records).core) :
    Dispatched w fields c template customers records v := by
  have hids : records.map DeliveryRecord.id = w.ledger.next customers.length := by
    rw [hbatch, ids_batchFor]
  cases hid
  have hstored : v.store.tables = _ := congrArg (fun u => u.store.tables) hv
  refine ⟨hbatch, congrArg (fun u => u.sender.handed) hv, ?_, ?_, ?_, ?_⟩
  · rw [hstored]
    refine foldl_upsert_of_fresh ?_ ?_ <;> rw [hids]
    · exact hfresh.nodup
    · exact hfresh.unused
  · rw [hstored]
    rcases c with ⟨_, _, _, _, _, _, sentCount, failedCount, _, _⟩
    cases hsent
    cases hfailed
    rfl
  · rw [hstored]
    rfl
  · rw [hstored]
    rfl

/-- A pending campaign without outcomes, when everything is in order, visits are aware and
    the next identifiers are fresh. Starting it with rules that can be compiled at an aware
    time succeeds, and leaves behind a dispatch to the customers whom the audience query
    finds. Launching it is starting it with its own rules and message. -/
theorem pending_campaign_is_dispatched {w : World Memory} (hw : w.InOrder)
    (hvisits : ∀ d ∈ w.store.tables.customers, d.lastVisit.isAware = true) {id : Uuid}
    {c : Campaign} (hc : lookUp Campaign.id id w.store.tables.campaigns = some c)
    (hpending : c.status = .pending) (hsent : c.sentCount = 0) (hfailed : c.failedCount = 0) :
    (∀ (rules : List Rule) (template : Text) (now : Option Timestamp) (p : Predicate),
      (∀ t, now = some t → t.isAware = true) →
      Rule.compile rules (now.getD w.clock) = .ok p →
        ∃ customers, w.store.findMatching p = .ok customers ∧
          (w.Fresh customers.length → ∃ records v, start id rules template now w = .ok records v ∧
            Dispatched w w.fields c template customers records v)) ∧
    ∀ p, Rule.compile c.rules w.clock = .ok p →
      ∃ customers, w.store.findMatching p = .ok customers ∧
        (w.Fresh customers.length → ∃ records v, Campaigns.launch id w = .ok records v ∧
          Dispatched w (w.fields.merge [("campaign_id", .json c.id.text)]) c c.message customers
            records v) := by
  have hid : c.id = id := key_of_lookUp hc
  have huncounted : c.outcomeCount = 0 := by
    rw [Campaign.outcomeCount, hsent, hfailed]
    rfl
  have hclock : w.clock.isAware = true := isAware_of_inUtc hw.clock
  refine ⟨fun rules template now p hnow hp => ?_, fun p hp => ?_⟩
  · have haware : (now.getD w.clock).isAware = true := by
      cases now with
      | none => exact hclock
      | some t => exact hnow t rfl
    rcases exists_findMatching hw.available hvisits haware hp with ⟨customers, hfound⟩
    refine ⟨customers, hfound, fun hfresh => exists_of_ends ?_⟩
    refine (ends_start_of_inOrder hw hc hpending huncounted template hp hfound).mono ?_
      fun _ _ h => h
    rintro records v ⟨hbatch, hv⟩
    exact dispatched_of_core hfresh hsent hfailed hid hbatch hv
  · rcases exists_findMatching hw.available hvisits hclock hp with ⟨customers, hfound⟩
    refine ⟨customers, hfound, fun hfresh => exists_of_ends ?_⟩
    have hp : Rule.compile c.rules (Option.getD none w.clock) = .ok p := hp
    -- A launch finds the campaign and starts it with further fields for the log.
    simp only [Campaigns.launch, Campaigns.find, ends_bind, Memory.ends_unitOfWork,
      Repository.campaignById, Memory.ends_ask_ok, hc, ends_pure, ends_within, hid]
    refine (ends_start_of_inOrder
      (w := { w with fields := w.fields.merge [("campaign_id", .json id.text)] })
      ⟨hw.clock, hw.available, hw.batches, hw.bound⟩ hc hpending huncounted c.message hp
      hfound).mono ?_ fun _ _ h => h
    rintro records v ⟨hbatch, hv⟩
    have hleft := dispatched_of_core hfresh hsent hfailed hid hbatch hv
    exact ⟨hleft.batch, hleft.handed, hleft.records, hleft.campaigns, hleft.customers,
      hleft.orders⟩

/-! ## Example -/

/-- A campaign for one customer. Started with another text, or launched with its own, it is
    sent to that customer under the next identifier. -/
theorem sample_is_dispatched :
    let w := Campaigns.dayOf 1 []
    (w.InOrder ∧ w.Fresh 1) ∧
      (∃ records v, start (Uuid.ofNat 2) [] "Dear {name}" none w = .ok records v ∧
        records.map (fun r => (r.id, r.message)) = [(Uuid.ofNat 3, ("Dear Ann" : Text))] ∧
        v.store.tables.records = records ∧
        v.store.tables.campaigns.map Campaign.status = [.sending]) ∧
      ∃ records v, Campaigns.launch (Uuid.ofNat 2) w = .ok records v ∧
        records.map (fun r => (r.id, r.message)) = [(Uuid.ofNat 3, ("Hello" : Text))] ∧
        v.sender.handed.map (fun h => (h.record, h.recipient.name)) =
          records.map fun r => (r, ("Ann" : Text)) := by
  intro w
  have horder : w.InOrder := ⟨inUtc_eq_ok_iff.2 (by decide +kernel), rfl, rfl, rfl⟩
  have hfresh : w.Fresh 1 := ⟨by decide +kernel, by decide +kernel⟩
  have hvisits : ∀ d ∈ w.store.tables.customers, d.lastVisit.isAware = true := by decide +kernel
  have hc : lookUp Campaign.id (Uuid.ofNat 2) w.store.tables.campaigns =
      some w.store.tables.campaigns.headI := rfl
  have hkeep : ∀ d ∈ w.store.tables.customers, Predicate.all.matches d = .ok true :=
    fun _ _ => rfl
  have hfinds : w.store.findMatching .all = .ok [Campaigns.visitor] :=
    (Memory.findMatching_of_ok rfl hkeep).trans (congrArg _ (List.mergeSort_singleton _))
  rcases pending_campaign_is_dispatched horder hvisits hc rfl rfl rfl with ⟨hstart, hlaunch⟩
  rcases hstart [] "Dear {name}" none .all (fun _ h => nomatch h) rfl with ⟨_, hfound, hstart⟩
  cases hfinds.symm.trans hfound
  rcases hlaunch .all rfl with ⟨_, hfound, hlaunch⟩
  cases hfinds.symm.trans hfound
  rcases hstart hfresh with ⟨records, v, hstart, hleft⟩
  rcases hlaunch hfresh with ⟨records', v', hlaunch, hleft'⟩
  refine ⟨⟨horder, hfresh⟩, ⟨records, v, hstart, ?_, ?_, ?_⟩, records', v', hlaunch, ?_, ?_⟩
  · rw [hleft.batch]
    decide +kernel
  · rw [hleft.records]
    rfl
  · rw [hleft.campaigns]
    decide +kernel
  · rw [hleft'.batch]
    decide +kernel
  · rw [hleft'.handed, hleft'.batch]
    rfl

end Dispatch

end Outreach
